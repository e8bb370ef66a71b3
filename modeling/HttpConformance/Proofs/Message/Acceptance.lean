import HttpConformance.Proofs.Message.Draft
import HttpConformance.Proofs.Message.ChunkedGrammar
import HttpConformance.Proofs.Text.Ascii

/-!
# Which bytes are a response

A status line has a grammar of its own, in bytes: everything up to the code is ASCII, and behind one
more space anything goes, malformed bytes included.  With the grammar of chunked bodies it tells for
all bytes whether they are read as a response, and if they are not, which fault is reported.

Main definitions: `IsStatusLine`, `Response.FailsWith`.

Main results:

- `StatusLine.parse?_decodeLossy_eq_some_iff`: status lines are read as their grammar says.
- `Response.exists_bodyOf_eq_ok_iff`: when the bytes after a head have a body.
- `Response.parse_outcomes`: what is read of any bytes.
-/

namespace HttpConformance

/-! ## The grammar of status lines -/

/-- What may follow the code on a status line, and the reason that it gives. -/
inductive IsReason : Bytes → Text → Prop where
  | absent : IsReason [] []
  | given (bytes : Bytes) : IsReason (0x20 :: bytes) (trimmedText bytes)

/-- A status line and what it says: a version of two runs of digits, a space, three digits, and
perhaps one more space with any bytes behind it. -/
def IsStatusLine (line : Bytes) (status : StatusLine) : Prop :=
  ∃ major minor reason, isDigitRun major = true ∧ isDigitRun minor = true ∧
    status.version = protocolName ++ (major ++ '.' :: minor) ∧ status.code < 1000 ∧
    IsReason reason status.reason ∧
    line = Utf8.encode (status.version ++ ' ' :: codeDigits status.code) ++ reason

/-! ## Status lines of text -/

theorem toNat_lt_of_isDigit {c : Char} (h : c.isDigit = true) : c.toNat < 0x80 := by
  have hrange : 48 ≤ c.toNat ∧ c.toNat ≤ 57 := Char.isDigit_iff_toNat.1 h
  omega

theorem toNat_lt_of_isDigitRun {text : Text} (h : isDigitRun text = true) :
    ∀ c ∈ text, c.toNat < 0x80 := by
  intro c hc
  rw [isDigitRun, Bool.and_eq_true, List.all_eq_true] at h
  exact toNat_lt_of_isDigit (h.2 c hc)

namespace StatusLine

variable {status : StatusLine}

/-- What a status line that is read looks like. -/
theorem exists_of_parse? {text : Text} (h : parse? text = some status) :
    ∃ reason, isVersion status.version = true ∧ status.code < 1000 ∧
      text = status.version ++ ' ' :: codeDigits status.code ++ reason ∧
      (reason = [] ∧ status.reason = [] ∨
        ∃ rest, reason = [' '] ++ rest ∧ status.reason = Text.trim rest) := by
  unfold parse? at h
  split at h
  · cases h
  · rename_i version rest hcut
    obtain ⟨rfl, -⟩ := cutAt_eq_some_iff.1 hcut
    dsimp only at h
    split at h
    · rename_i hversion
      obtain ⟨code, hcode, rfl⟩ := Option.map_eq_some_iff.1 h
      cases hreason : cutAt ' ' rest with
      | none =>
        rw [hreason] at hcode
        obtain ⟨hlt, rfl⟩ := eq_codeDigits_of_threeDigits? hcode
        exact ⟨[], hversion, hlt, by simp, Or.inl ⟨rfl, rfl⟩⟩
      | some parts =>
        obtain ⟨digits, reason⟩ := parts
        rw [hreason] at hcode
        obtain ⟨hlt, rfl⟩ := eq_codeDigits_of_threeDigits? hcode
        obtain ⟨rfl, -⟩ := cutAt_eq_some_iff.1 hreason
        exact ⟨' ' :: reason, hversion, hlt, by simp, Or.inr ⟨reason, rfl, rfl⟩⟩
    · cases h

/-- A status line is ASCII up to the end of its code. -/
theorem toNat_lt_of_isVersion {version : Text} (hversion : isVersion version = true) {code : Nat}
    (hcode : code < 1000) : ∀ c ∈ version ++ ' ' :: codeDigits code, c.toNat < 0x80 := by
  have hname : protocolName.all (fun c => c.toNat < 0x80) = true := by decide
  obtain ⟨major, minor, hmajor, hminor, rfl⟩ := exists_of_isVersion hversion
  simp only [List.mem_append, List.mem_cons]
  rintro c ((hmem | hmem | rfl | hmem) | rfl | hmem)
  · exact of_decide_eq_true (List.all_eq_true.1 hname c hmem)
  · exact toNat_lt_of_isDigitRun hmajor c hmem
  · decide
  · exact toNat_lt_of_isDigitRun hminor c hmem
  · decide
  · exact toNat_lt_of_isDigit (isDigit_of_mem_codeDigits hcode c hmem)

/-! ## Status lines of bytes -/

/-- A line is read as a status line exactly when it is one, and it is read as what it says. -/
theorem parse?_decodeLossy_eq_some_iff {line : Bytes} :
    parse? (Utf8.decodeLossy line) = some status ↔ IsStatusLine line status := by
  constructor
  · intro h
    obtain ⟨reason, hversion, hcode, htext, hreason⟩ := exists_of_parse? h
    obtain ⟨tail, hline, htail⟩ :=
      (Utf8.decodeLossy_eq_append_iff (toNat_lt_of_isVersion hversion hcode)).1 htext
    obtain ⟨major, minor, hmajor, hminor, hshape⟩ := exists_of_isVersion hversion
    refine ⟨major, minor, tail, hmajor, hminor, hshape, hcode, ?_, hline⟩
    rcases hreason with ⟨rfl, hnone⟩ | ⟨rest, rfl, hsome⟩
    · rw [Utf8.decodeLossy_eq_nil_iff.1 htail, hnone]
      exact .absent
    · have hspace : ∀ c ∈ [' '], c.toNat < 0x80 := List.forall_mem_singleton.2 (by decide)
      obtain ⟨bytes, rfl, rfl⟩ := (Utf8.decodeLossy_eq_append_iff hspace).1 htail
      rw [hsome]
      exact .given bytes
  · rintro ⟨major, minor, reason, hmajor, hminor, hshape, hcode, hreason, rfl⟩
    have hversion : isVersion status.version = true := by
      rw [hshape]
      exact isVersion_of_isDigitRun hmajor hminor
    obtain ⟨version, code, text⟩ := status
    rw [Utf8.decodeLossy_encode_append]
    cases hreason with
    | absent =>
      rw [Utf8.decodeLossy_eq_nil_iff.2 rfl, List.append_nil]
      exact parse?_code hversion hcode
    | given bytes =>
      have hspace : Utf8.decodeLossy (0x20 :: bytes) = ' ' :: Utf8.decodeLossy bytes :=
        Utf8.decodeLossy_encode_append [' '] bytes
      rw [hspace, List.append_assoc, List.cons_append]
      exact parse?_reason hversion hcode (Utf8.decodeLossy bytes)

end StatusLine

/-! ## Bodies -/

namespace ChunkedBody

/-- Some front of the bytes is a chunked body. -/
def Begins (bytes : Bytes) : Prop :=
  ∃ front content, front <+: bytes ∧ IsChunkedBody front content

/-- A chunked body is read to its end exactly when the bytes begin with one. -/
theorem exists_read_eq_complete_iff {bytes : Bytes} (hlength : bytes.length < 2 ^ 64) :
    (∃ content rest, read bytes = .complete content rest) ↔ Begins bytes := by
  constructor
  · rintro ⟨content, rest, hread⟩
    obtain ⟨front, rfl, hfront⟩ := exists_of_readFrom hread
    exact ⟨front, content, List.prefix_append front rest, hfront⟩
  · rintro ⟨front, content, ⟨rest, rfl⟩, hfront⟩
    have hbound : 0 + front.length ≤ sizeBound := by
      rw [List.length_append] at hlength
      unfold sizeBound
      omega
    exact ⟨content, rest, readFrom_of_isChunkedBody hfront hbound rest⟩

end ChunkedBody

namespace Response

/-- There is a body unless the fields announce a chunked one and the bytes do not begin with one. -/
theorem exists_bodyOf_eq_ok_iff {fields : List HeaderField} {bytes : Bytes}
    (hlength : bytes.length < 2 ^ 64) :
    (∃ body, bodyOf fields bytes = .ok body) ↔
      (isChunked fields = true → ChunkedBody.Begins bytes) := by
  rw [← ChunkedBody.exists_read_eq_complete_iff hlength]
  unfold bodyOf
  cases isChunked fields with
  | true => cases ChunkedBody.read bytes <;> simp
  | false => cases contentLength? fields <;> simp

/-- What is missing where there is no body is the end of a chunked one. -/
theorem fault_of_bodyOf {fields : List HeaderField} {bytes : Bytes} {error : ResponseError}
    (h : bodyOf fields bytes = .error error) : error.fault = .invalidChunkedBody := by
  unfold bodyOf at h
  split at h
  · split at h <;> cases h <;> rfl
  · split at h <;> cases h

/-- The bytes after the head are the last ones of those received. -/
theorem afterHead_suffix (raw : Bytes) : afterHead raw <:+ raw := by
  have hselected : selected raw <:+ raw := by
    unfold selected
    cases hfinal : finalResponse? raw with
    | none => exact List.suffix_refl raw
    | some final => exact finalResponse?_suffix hfinal
  refine List.IsSuffix.trans ?_ hselected
  unfold afterHead partedOf
  cases hpart : partMessage? (selected raw) with
  | none => exact List.nil_suffix
  | some parted =>
    obtain ⟨gap, -, -, hshape⟩ := eq_append_of_partAtBlankLine? (by decide) hpart
    exact ⟨parted.head ++ gap, hshape.symm⟩

theorem length_afterHead_lt {raw : Bytes} (hlength : raw.length < 2 ^ 64) :
    (afterHead raw).length < 2 ^ 64 :=
  Nat.lt_of_le_of_lt (afterHead_suffix raw).length_le hlength

/-! ## Outcomes -/

/-- The bytes are no response, for this fault. -/
def FailsWith (raw : Bytes) (fault : ResponseFault) : Prop :=
  ∃ error, parse raw = .error error ∧ error.fault = fault

variable {raw : Bytes} {fault : ResponseFault}

theorem failsWith_iff_of_parse {error : ResponseError} (h : parse raw = .error error) :
    FailsWith raw fault ↔ fault = error.fault := by
  constructor
  · rintro ⟨other, hother, rfl⟩
    rw [h] at hother
    cases hother
    rfl
  · rintro rfl
    exact ⟨error, h, rfl⟩

/-- A status line is read from a head exactly when its first line is one. -/
theorem parse?_statusTextOf_eq_some_iff {head : Bytes} {status : StatusLine} :
    StatusLine.parse? (statusTextOf head) = some status ↔ IsStatusLine (firstLine head) status := by
  rw [statusTextOf, headD_linesOf, StatusLine.parse?_decodeLossy_eq_some_iff]

/-- Without a status line nothing else of a response counts. -/
theorem parse_of_not_isStatusLine (hraw : raw ≠ [])
    (h : ¬ ∃ status, IsStatusLine (firstLine (headOf raw)) status) :
    parse raw = .error (.invalidStatusLine (statusTextOf (headOf raw))) := by
  have hnone : StatusLine.parse? (statusTextOf (headOf raw)) = none := by
    rw [Option.eq_none_iff_forall_ne_some]
    intro status hsome
    exact h ⟨status, parse?_statusTextOf_eq_some_iff.1 hsome⟩
  rw [parse, if_neg hraw]
  dsimp only
  rw [← headOf, ← statusTextOf, hnone]

/-- A message with a status line is not empty. -/
theorem ne_nil_of_isStatusLine {status : StatusLine}
    (h : IsStatusLine (firstLine (headOf raw)) status) : raw ≠ [] := by
  have hnone : StatusLine.parse? (statusTextOf (headOf [])) = none := by decide +kernel
  rintro rfl
  rw [← parse?_statusTextOf_eq_some_iff, hnone] at h
  cases h

/-- Behind a status line the body alone decides whether there is a response. -/
theorem parse_of_isStatusLine {status : StatusLine}
    (h : IsStatusLine (firstLine (headOf raw)) status) :
    parse raw = (bodyOf (joinedFieldsOf (headOf raw)) (afterHead raw)).map fun body =>
      ⟨statusTextOf (headOf raw), status.version, status.code, status.reason,
        joinedFieldsOf (headOf raw), body, raw⟩ := by
  have hsome := parse?_statusTextOf_eq_some_iff.2 h
  rw [parse, if_neg (ne_nil_of_isStatusLine h)]
  dsimp only
  rw [← headOf, ← statusTextOf, hsome]
  dsimp only
  rw [← joinedFieldsOf, ← afterHead]
  cases bodyOf (joinedFieldsOf (headOf raw)) (afterHead raw) <;> rfl

/-- Behind a status line the only fault is a chunked body that is announced and not there. -/
theorem failsWith_iff_of_isStatusLine (hlength : raw.length < 2 ^ 64) {status : StatusLine}
    (h : IsStatusLine (firstLine (headOf raw)) status) :
    FailsWith raw fault ↔ fault = .invalidChunkedBody ∧
      isChunked (joinedFieldsOf (headOf raw)) = true ∧ ¬ ChunkedBody.Begins (afterHead raw) := by
  have hparse := parse_of_isStatusLine h
  rw [← Classical.not_imp, ← exists_bodyOf_eq_ok_iff (length_afterHead_lt hlength)]
  cases hread : bodyOf (joinedFieldsOf (headOf raw)) (afterHead raw) with
  | error error =>
    rw [hread] at hparse
    rw [failsWith_iff_of_parse hparse, fault_of_bodyOf hread]
    simp
  | ok body =>
    rw [hread] at hparse
    simp [FailsWith, hparse, Except.map]

/-- What is read of any bytes whose number fits in a machine word: nothing of none, nothing behind a
first line that is no status line, nothing of a chunked body that does not end well, and a response
otherwise. -/
theorem parse_outcomes (hlength : raw.length < 2 ^ 64) :
    (FailsWith raw .empty ↔ raw = []) ∧
    (FailsWith raw .invalidStatusLine ↔
      raw ≠ [] ∧ ¬ ∃ status, IsStatusLine (firstLine (headOf raw)) status) ∧
    (FailsWith raw .invalidChunkedBody ↔
      (∃ status, IsStatusLine (firstLine (headOf raw)) status) ∧
        isChunked (joinedFieldsOf (headOf raw)) = true ∧ ¬ ChunkedBody.Begins (afterHead raw)) ∧
    ∀ status, IsStatusLine (firstLine (headOf raw)) status →
      (isChunked (joinedFieldsOf (headOf raw)) = true → ChunkedBody.Begins (afterHead raw)) →
      ∃ response, parse raw = .ok response ∧ response.version = status.version ∧
        response.code = status.code ∧ response.reason = status.reason ∧
        response.fields = joinedFieldsOf (headOf raw) ∧ response.raw = raw := by
  by_cases hline : ∃ status, IsStatusLine (firstLine (headOf raw)) status
  · obtain ⟨status, hstatus⟩ := hline
    have hraw := ne_nil_of_isStatusLine hstatus
    have hsome : ∃ status, IsStatusLine (firstLine (headOf raw)) status := ⟨status, hstatus⟩
    simp only [failsWith_iff_of_isStatusLine hlength hstatus, hraw, hsome]
    refine ⟨by simp, by simp, by simp, ?_⟩
    intro other hother hbegins
    obtain ⟨body, hread⟩ := (exists_bodyOf_eq_ok_iff (length_afterHead_lt hlength)).2 hbegins
    have hparse := parse_of_isStatusLine hother
    rw [hread] at hparse
    exact ⟨_, hparse, rfl, rfl, rfl, rfl, rfl⟩
  · have hnone : ∀ status, ¬ IsStatusLine (firstLine (headOf raw)) status := not_exists.1 hline
    by_cases hraw : raw = []
    · have hparse : parse raw = .error .empty := if_pos hraw
      simp only [failsWith_iff_of_parse hparse, ResponseError.fault, hline]
      exact ⟨by simp [hraw], by simp [hraw], by simp, fun status h => absurd h (hnone status)⟩
    · have hparse := parse_of_not_isStatusLine hraw hline
      simp only [failsWith_iff_of_parse hparse, ResponseError.fault, hline]
      exact ⟨by simp [hraw], by simp [hraw], by simp, fun status h => absurd h (hnone status)⟩

/-- Early hints, a status line without a reason, and a chunked body with a byte behind it. -/
def hintsThenChunks : Bytes :=
  Utf8.encode
    "HTTP/1.1 103 Early Hints\r\n\r\nHTTP/1.1 200\nTransfer-Encoding: chunked\n\n0\n\n!".toList

/-- A response behind early hints is accepted, although its status line has no reason and a byte
stands behind its last chunk. -/
theorem parse_outcomes_hintsThenChunks :
    hintsThenChunks.length < 2 ^ 64 ∧
      IsStatusLine (firstLine (headOf hintsThenChunks)) ⟨"HTTP/1.1".toList, 200, []⟩ ∧
      isChunked (joinedFieldsOf (headOf hintsThenChunks)) = true ∧
      ChunkedBody.Begins (afterHead hintsThenChunks) ∧
      ∃ response, parse hintsThenChunks = .ok response ∧ response.code = 200 ∧
        response.reason = [] ∧ response.raw = hintsThenChunks := by
  have hlength : hintsThenChunks.length < 2 ^ 64 := by decide +kernel
  have hline : IsStatusLine (firstLine (headOf hintsThenChunks)) ⟨"HTTP/1.1".toList, 200, []⟩ :=
    parse?_statusTextOf_eq_some_iff.1 (by decide +kernel)
  have hbegins : ChunkedBody.Begins (afterHead hintsThenChunks) :=
    (ChunkedBody.exists_read_eq_complete_iff (by decide +kernel)).1 ⟨[], [0x21], by decide +kernel⟩
  obtain ⟨-, -, -, hok⟩ := parse_outcomes hlength
  obtain ⟨response, hparse, -, hcode, hreason, -, hraw⟩ := hok _ hline fun _ => hbegins
  exact ⟨hlength, hline, by decide +kernel, hbegins, response, hparse, hcode, hreason, hraw⟩

end Response

end HttpConformance

import HttpConformance.Proofs.Message.Outcome
import HttpConformance.Proofs.Text.Cut

/-!
# Continuation lines and framing

A head is read twice.  The reader of the response joins a continuation line to the field before it;
the reader of a connection takes every line with a colon for a field of its own, and passes over the
others.  Both readings are views of one folding of the head, which keeps each field with the
continuation lines after it, and they frame the message alike unless these lines matter.

Main definitions: `FoldedField`, `foldingOf`, `FramesAlike`.

Main results:

- `foldedFields_eq_map_joined`, `filterMap_ofLine?_eq_flatMap_apart`: the two readings of a folding.
- `isChunked_eq_iff`, `contentLength?_eq_iff`: when they announce chunks alike, and lengths alike.
- `framesAlike_of_untouched`: continuation lines that have nothing to do with framing change
  nothing.
- `Response.framing_eq_iff`: when the two readers of a head agree on framing.
- `Response.not_framing_eq`: they do not always.
-/

namespace HttpConformance

/-! ## Foldings -/

/-- A header field, and the continuation lines after it as they stand. -/
structure FoldedField where
  field : HeaderField
  continuations : List Bytes
  deriving DecidableEq, Repr

namespace FoldedField

/-- The field with its continuation lines joined to the value, each behind one space. -/
def joined (folded : FoldedField) : HeaderField :=
  { folded.field with
    value := folded.field.value ++ folded.continuations.flatMap (' ' :: trimmedText ·) }

/-- The fields that the continuation lines write when each is taken on its own. -/
def strays (folded : FoldedField) : List HeaderField :=
  folded.continuations.filterMap HeaderField.ofLine?

/-- The fields of all lines, each taken on its own. -/
def apart (folded : FoldedField) : List HeaderField :=
  folded.field :: folded.strays

end FoldedField

/-- The folded fields, last one first, with one more line. -/
def addFoldedLine (folding : List FoldedField) (line : Bytes) : List FoldedField :=
  match isContinuation line, folding with
  | true, folded :: rest => { folded with continuations := folded.continuations ++ [line] } :: rest
  | _, folding =>
    match HeaderField.ofLine? line with
    | some field => ⟨field, []⟩ :: folding
    | none => folding

/-- The folding of the lines after a status line. -/
def foldingOf (lines : List Bytes) : List FoldedField :=
  (lines.foldl addFoldedLine []).reverse

/-! ## The two readings of a folding -/

/-- With their lines joined, folded fields are built up like the fields of a response. -/
theorem map_joined_addFoldedLine (folding : List FoldedField) (line : Bytes) :
    (addFoldedLine folding line).map FoldedField.joined =
      addFieldLine (folding.map FoldedField.joined) line := by
  unfold addFoldedLine addFieldLine
  cases isContinuation line <;> cases folding <;> cases HeaderField.ofLine? line <;>
    simp [FoldedField.joined]

/-- Joined, a folding is what the reader of the response takes from the lines. -/
theorem foldedFields_eq_map_joined (lines : List Bytes) :
    foldedFields lines = (foldingOf lines).map FoldedField.joined := by
  have hfold (folding : List FoldedField) :
      (lines.foldl addFoldedLine folding).map FoldedField.joined =
        lines.foldl addFieldLine (folding.map FoldedField.joined) := by
    induction lines generalizing folding with
    | nil => rfl
    | cons line lines ih => rw [List.foldl_cons, ih, map_joined_addFoldedLine, List.foldl_cons]
  rw [foldedFields, foldingOf, List.map_reverse, hfold, List.map_nil]

/-- Fields whose lines are taken on their own are built up line by line. -/
theorem flatMap_apart_addFoldedLine (folding : List FoldedField) (line : Bytes) :
    (addFoldedLine folding line).reverse.flatMap FoldedField.apart =
      folding.reverse.flatMap FoldedField.apart ++ (HeaderField.ofLine? line).toList := by
  unfold addFoldedLine
  cases isContinuation line <;> cases folding <;> cases hfield : HeaderField.ofLine? line <;>
    simp [FoldedField.apart, FoldedField.strays, hfield]

/-- Taken apart, a folding is what the reader of a connection takes from the lines. -/
theorem filterMap_ofLine?_eq_flatMap_apart (lines : List Bytes) :
    lines.filterMap HeaderField.ofLine? = (foldingOf lines).flatMap FoldedField.apart := by
  have hfold (folding : List FoldedField) :
      (lines.foldl addFoldedLine folding).reverse.flatMap FoldedField.apart =
        folding.reverse.flatMap FoldedField.apart ++ lines.filterMap HeaderField.ofLine? := by
    induction lines generalizing folding with
    | nil => simp
    | cons line lines ih =>
      rw [List.foldl_cons, ih, flatMap_apart_addFoldedLine, List.append_assoc]
      cases hfield : HeaderField.ofLine? line <;> simp [hfield]
  rw [foldingOf, hfold]
  rfl

/-! ## What a field announces -/

namespace HeaderField

/-- The field announces a chunked body. -/
def announcesChunks (field : HeaderField) : Bool :=
  field.isNamed "Transfer-Encoding".toList &&
    contains "chunked".toList (Text.lowerAscii field.value)

/-- The field gives the length of the body. -/
def isLength (field : HeaderField) : Bool :=
  field.isNamed "Content-Length".toList

/-- The length that the value of a field is the numeral of. -/
def length? (field : HeaderField) : Option Nat :=
  Numeral.readNat? maxContentLength (Text.trim field.value)

/-- The field has to do with framing. -/
def isFraming (field : HeaderField) : Bool :=
  field.isNamed "Transfer-Encoding".toList || field.isLength

theorem announcesChunks_eq_false {field : HeaderField} (h : field.isFraming = false) :
    field.announcesChunks = false := by
  rw [isFraming, Bool.or_eq_false_iff] at h
  rw [announcesChunks, h.1, Bool.false_and]

theorem isLength_eq_false {field : HeaderField} (h : field.isFraming = false) :
    field.isLength = false := by
  rw [isFraming, Bool.or_eq_false_iff] at h
  exact h.2

end HeaderField

open HeaderField

theorem isChunked_eq_any (fields : List HeaderField) :
    isChunked fields = fields.any announcesChunks :=
  rfl

/-- The first field that gives a length decides. -/
theorem contentLength?_append (fields more : List HeaderField) :
    contentLength? (fields ++ more) =
      (fields.find? isLength).elim (contentLength? more) length? := by
  unfold contentLength? first?
  rw [List.find?_append]
  cases hfind : fields.find? (·.isNamed "Content-Length".toList) with
  | none =>
    have hnone : fields.find? isLength = none := hfind
    rw [hnone]
    rfl
  | some field =>
    have hsome : fields.find? isLength = some field := hfind
    rw [hsome]
    rfl

theorem contentLength?_cons (field : HeaderField) (fields : List HeaderField) :
    contentLength? (field :: fields) =
      if field.isLength then field.length? else contentLength? fields := by
  rw [← List.singleton_append, contentLength?_append, List.find?_cons]
  cases field.isLength <;> rfl

/-! ## Chunks -/

/-- A value that has begun to announce chunks announces them however it goes on. -/
theorem FoldedField.announcesChunks_joined {folded : FoldedField}
    (h : folded.field.announcesChunks = true) : folded.joined.announcesChunks = true := by
  have hname (name : Text) : folded.joined.isNamed name = folded.field.isNamed name := rfl
  have hvalue : Text.lowerAscii folded.field.value <+: Text.lowerAscii folded.joined.value :=
    (List.prefix_append _ _).map _
  rw [announcesChunks, Bool.and_eq_true, contains_eq_true_iff] at h
  rw [announcesChunks, Bool.and_eq_true, contains_eq_true_iff, hname]
  exact ⟨h.1, h.2.trans hvalue.isInfix⟩

/-- Taken apart, a folding announces chunks when one of its lines does. -/
theorem isChunked_apart_iff (folding : List FoldedField) :
    isChunked (folding.flatMap FoldedField.apart) = true ↔
      (∃ folded ∈ folding, folded.field.announcesChunks = true) ∨
        ∃ folded ∈ folding, ∃ stray ∈ folded.strays, stray.announcesChunks = true := by
  rw [isChunked_eq_any, List.any_eq_true]
  simp only [List.mem_flatMap, FoldedField.apart, List.mem_cons]
  constructor
  · rintro ⟨field, ⟨folded, hmem, rfl | hstray⟩, hfield⟩
    · exact Or.inl ⟨folded, hmem, hfield⟩
    · exact Or.inr ⟨folded, hmem, field, hstray, hfield⟩
  · rintro (⟨folded, hmem, hfield⟩ | ⟨folded, hmem, stray, hstray, hfield⟩)
    · exact ⟨folded.field, ⟨folded, hmem, Or.inl rfl⟩, hfield⟩
    · exact ⟨stray, ⟨folded, hmem, Or.inr hstray⟩, hfield⟩

/-- Joined, a folding announces chunks when one of its fields does with its continuation lines. -/
theorem isChunked_joined_iff (folding : List FoldedField) :
    isChunked (folding.map FoldedField.joined) = true ↔
      ∃ folded ∈ folding, folded.joined.announcesChunks = true := by
  rw [isChunked_eq_any, List.any_map, List.any_eq_true]
  rfl

/-- When both readings of a folding announce chunks, or neither does: some field announces them
without its continuation lines, or some continuation line announces them on its own exactly when
some field announces them with its continuation lines. -/
theorem isChunked_eq_iff (folding : List FoldedField) :
    isChunked (folding.flatMap FoldedField.apart) = isChunked (folding.map FoldedField.joined) ↔
      (∃ folded ∈ folding, folded.field.announcesChunks = true) ∨
      ((∃ folded ∈ folding, ∃ stray ∈ folded.strays, stray.announcesChunks = true) ↔
        ∃ folded ∈ folding, folded.joined.announcesChunks = true) := by
  have hbegun : (∃ folded ∈ folding, folded.field.announcesChunks = true) →
      ∃ folded ∈ folding, folded.joined.announcesChunks = true := by
    rintro ⟨folded, hmem, hfield⟩
    exact ⟨folded, hmem, FoldedField.announcesChunks_joined hfield⟩
  rw [Bool.eq_iff_iff, isChunked_apart_iff, isChunked_joined_iff]
  by_cases hown : ∃ folded ∈ folding, folded.field.announcesChunks = true
  · exact iff_of_true (iff_of_true (Or.inl hown) (hbegun hown)) (Or.inl hown)
  · rw [or_iff_right hown, or_iff_right hown]

/-! ## Lengths -/

/-- The first length that the lines give is the same when each line is taken on its own as it is
when continuation lines are joined. -/
def LengthsAlike : List FoldedField → Prop
  | [] => True
  | folded :: rest =>
    if folded.field.isLength then folded.field.length? = folded.joined.length?
    else
      -- A continuation line that gives a length hides the first field behind it that does.
      match folded.strays.find? isLength with
      | some stray => stray.length? = contentLength? (rest.map FoldedField.joined)
      | none => LengthsAlike rest

/-- When both readings of a folding announce the same length. -/
theorem contentLength?_eq_iff (folding : List FoldedField) :
    contentLength? (folding.flatMap FoldedField.apart) =
        contentLength? (folding.map FoldedField.joined) ↔
      LengthsAlike folding := by
  induction folding with
  | nil => simp [LengthsAlike]
  | cons folded rest ih =>
    have hname : folded.joined.isLength = folded.field.isLength := rfl
    rw [List.flatMap_cons, List.map_cons, FoldedField.apart, List.cons_append,
      contentLength?_cons, contentLength?_cons, contentLength?_append, hname, LengthsAlike]
    cases folded.field.isLength with
    | true => rfl
    | false =>
      cases folded.strays.find? isLength with
      | none => exact ih
      | some stray => rfl

/-! ## Heads -/

/-- Both readings of a folding frame the message alike. -/
structure FramesAlike (folding : List FoldedField) : Prop where
  /-- Some field announces chunks without its continuation lines, or chunks are announced by a
  continuation line on its own exactly when they are by a field with its continuation lines. -/
  chunks : (∃ folded ∈ folding, folded.field.announcesChunks = true) ∨
    ((∃ folded ∈ folding, ∃ stray ∈ folded.strays, stray.announcesChunks = true) ↔
      ∃ folded ∈ folding, folded.joined.announcesChunks = true)
  lengths : LengthsAlike folding

/-- The continuation lines of a folded field have nothing to do with framing: none of them writes a
field that has, and a field that has is not continued. -/
structure FoldedField.IsUntouched (folded : FoldedField) : Prop where
  strays : ∀ stray ∈ folded.strays, stray.isFraming = false
  field : folded.field.isFraming = true → folded.continuations = []

instance (folded : FoldedField) : Decidable folded.IsUntouched :=
  decidable_of_iff ((∀ stray ∈ folded.strays, stray.isFraming = false) ∧
      (folded.field.isFraming = true → folded.continuations = []))
    ⟨fun h => ⟨h.1, h.2⟩, fun h => ⟨h.strays, h.field⟩⟩

/-- A field about framing that no line continues is the same joined and apart. -/
theorem FoldedField.IsUntouched.joined_eq {folded : FoldedField} (h : folded.IsUntouched)
    (hframing : folded.field.isFraming = true) : folded.joined = folded.field := by
  rw [joined, h.field hframing, List.flatMap_nil, List.append_nil]

theorem lengthsAlike_of_untouched {folding : List FoldedField}
    (h : ∀ folded ∈ folding, folded.IsUntouched) : LengthsAlike folding := by
  induction folding with
  | nil => trivial
  | cons folded rest ih =>
    have huntouched : folded.IsUntouched := h folded List.mem_cons_self
    have hrest : LengthsAlike rest := ih fun other hother => h other (List.mem_cons_of_mem _ hother)
    have hstrays : folded.strays.find? isLength = none := by
      rw [List.find?_eq_none]
      intro stray hstray
      rw [isLength_eq_false (huntouched.strays stray hstray)]
      exact Bool.false_ne_true
    rw [LengthsAlike, hstrays]
    split
    · rename_i hlength
      have hframing : folded.field.isFraming = true := by rw [isFraming, hlength, Bool.or_true]
      rw [huntouched.joined_eq hframing]
    · exact hrest

/-- Continuation lines that have nothing to do with framing do not change it. -/
theorem framesAlike_of_untouched {folding : List FoldedField}
    (h : ∀ folded ∈ folding, folded.IsUntouched) : FramesAlike folding where
  chunks := by
    by_cases hown : ∃ folded ∈ folding, folded.field.announcesChunks = true
    · exact Or.inl hown
    · refine Or.inr (iff_of_false ?_ ?_)
      · rintro ⟨folded, hmem, stray, hstray, hchunks⟩
        rw [announcesChunks_eq_false ((h folded hmem).strays stray hstray)] at hchunks
        cases hchunks
      · rintro ⟨folded, hmem, hchunks⟩
        cases hframing : folded.field.isFraming with
        | true =>
          rw [(h folded hmem).joined_eq hframing] at hchunks
          exact hown ⟨folded, hmem, hchunks⟩
        | false =>
          have hjoined : folded.joined.isFraming = false := hframing
          rw [announcesChunks_eq_false hjoined] at hchunks
          cases hchunks
  lengths := lengthsAlike_of_untouched h

namespace Response

/-- The reader of a connection and the reader of the response agree on how a response is framed
exactly when both readings of the folding of its head do. -/
theorem framing_eq_iff {raw : Bytes} {response : Response} (h : parse raw = .ok response) :
    (isChunked (fieldsOf (headOf raw)) = isChunked response.fields ∧
      contentLength? (fieldsOf (headOf raw)) = contentLength? response.fields) ↔
      FramesAlike (foldingOf (linesOf (headOf raw)).tail) := by
  obtain ⟨status, -, -, hfields, -⟩ := of_parse_eq_ok h
  rw [hfields, joinedFieldsOf, fieldsOf, foldedFields_eq_map_joined,
    filterMap_ofLine?_eq_flatMap_apart, isChunked_eq_iff, contentLength?_eq_iff]
  constructor
  · rintro ⟨hchunks, hlengths⟩
    exact ⟨hchunks, hlengths⟩
  · rintro ⟨hchunks, hlengths⟩
    exact ⟨hchunks, hlengths⟩

/-- A response with a continuation line that has a colon and is not about framing. -/
def foldedNote : Bytes :=
  Utf8.encode "HTTP/1.1 200 OK\r\nX-Note: see\r\n http://a\r\nContent-Length: 2\r\n\r\nok".toList

/-- A continuation line that is not about framing does not change how a message is framed. -/
theorem framing_eq_foldedNote :
    ∃ response, parse foldedNote = .ok response ∧
      FramesAlike (foldingOf (linesOf (headOf foldedNote)).tail) ∧
      isChunked (fieldsOf (headOf foldedNote)) = isChunked response.fields ∧
      contentLength? (fieldsOf (headOf foldedNote)) = contentLength? response.fields := by
  have hcode : (parse foldedNote).toOption.map (·.code) = some 200 := by decide +kernel
  obtain ⟨response, h, -⟩ := exists_of_map_toOption hcode
  have huntouched : ∀ folded ∈ foldingOf (linesOf (headOf foldedNote)).tail,
      folded.IsUntouched := by decide +kernel
  have halike := framesAlike_of_untouched huntouched
  exact ⟨response, h, halike, (framing_eq_iff h).2 halike⟩

/-- A response whose chunked coding is announced on a continuation line. -/
def foldedCoding : Bytes :=
  Utf8.encode ("HTTP/1.1 200 OK\r\nTransfer-Encoding: gzip,\r\n chunked\r\n\r\n" ++
    "2\r\nok\r\n0\r\n\r\n").toList

/-- The two readers of a whole head need not agree on framing. -/
theorem not_framing_eq :
    ¬ ∀ raw response parted, parse raw = .ok response →
      (finalResponse? raw).bind partMessage? = some parted →
      isChunked (fieldsOf parted.head) = isChunked response.fields ∧
        contentLength? (fieldsOf parted.head) = contentLength? response.fields := by
  intro h
  have hfields : (parse foldedCoding).toOption.map (fun response => isChunked response.fields) =
      some true := by decide +kernel
  have hapart : ((finalResponse? foldedCoding).bind partMessage?).any
      (fun parted => !isChunked (fieldsOf parted.head)) = true := by decide +kernel
  obtain ⟨parted, hparted, hplain⟩ := (Option.any_eq_true _ _).1 hapart
  obtain ⟨response, hresponse, hjoined⟩ := exists_of_map_toOption hfields
  obtain ⟨hchunked, -⟩ := h foldedCoding response parted hresponse hparted
  rw [hchunked, hjoined] at hplain
  cases hplain

end Response

end HttpConformance

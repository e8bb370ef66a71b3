import HttpConformance.Network.Reading
import HttpConformance.Proofs.Message.Growth

/-!
# Where reading stops

The network cuts what a server writes into reads as it pleases, and a connection is read until the
bytes so far hold a complete response.  Every cut stops somewhere in the stream; here is where.

Main definitions: `IsCut`, `readsOf`, `Reading.IsStop`, `IsFirstComplete`.

Main results:

- `Reading.exists_isStop_of_isCut`: reading a cut of a stream stops at a place that `IsStop` allows.
- `Reading.exists_isCut_of_isStop`: some cut stops at each of these places.
- `Reading.isStop_iff_of_isFirstComplete`: they are the shortest complete response and what fits
  behind its last byte into one read.
-/

namespace HttpConformance

/-! ## Cuts of a stream -/

/-- Pieces that reads of a connection can yield when the server writes this stream. -/
structure IsCut (stream : Bytes) (pieces : List Bytes) : Prop where
  flatten_eq : pieces.flatten = stream
  ne_nil : ∀ piece ∈ pieces, piece ≠ []
  length_le : ∀ piece ∈ pieces, piece.length ≤ readSize

/-- The reads that yield these pieces before the server ends the connection in order. -/
def readsOf (pieces : List Bytes) : List ReadEvent :=
  pieces.map .data ++ [.closed]

/-- The cut of a stream into its bytes. -/
def bytewise (stream : Bytes) : List Bytes :=
  stream.map ([·])

theorem isCut_bytewise (stream : Bytes) : IsCut stream (bytewise stream) where
  flatten_eq := List.flatMap_singleton' stream
  ne_nil := by
    intro piece hpiece
    obtain ⟨byte, -, rfl⟩ := List.mem_map.1 hpiece
    simp
  length_le := by
    intro piece hpiece
    obtain ⟨byte, -, rfl⟩ := List.mem_map.1 hpiece
    simp [readSize]

theorem isCut_singleton {piece : Bytes} (hne : piece ≠ []) (hle : piece.length ≤ readSize) :
    IsCut piece [piece] where
  flatten_eq := by simp
  ne_nil := by simpa using hne
  length_le := by simpa using hle

/-- Two streams that are cut are cut as one. -/
theorem IsCut.append {first second : Bytes} {firstPieces secondPieces : List Bytes}
    (hfirst : IsCut first firstPieces) (hsecond : IsCut second secondPieces) :
    IsCut (first ++ second) (firstPieces ++ secondPieces) where
  flatten_eq := by rw [List.flatten_append, hfirst.flatten_eq, hsecond.flatten_eq]
  ne_nil := by
    intro piece hpiece
    rcases List.mem_append.1 hpiece with h | h
    · exact hfirst.ne_nil piece h
    · exact hsecond.ne_nil piece h
  length_le := by
    intro piece hpiece
    rcases List.mem_append.1 hpiece with h | h
    · exact hfirst.length_le piece h
    · exact hsecond.length_le piece h

/-! ## The places where reading stops -/

namespace Reading

/-- A place where the reading of a stream stops: its end, when it holds no complete response, or the
end of the read that brought the response to completion. -/
inductive IsStop (isHead : Bool) (stream : Bytes) : Bytes → Prop
  | atEnd (hincomplete : isComplete isHead stream = false) : IsStop isHead stream stream
  | afterRead {before piece : Bytes} (hincomplete : isComplete isHead before = false)
      (hcomplete : isComplete isHead (before ++ piece) = true) (hle : piece.length ≤ readSize)
      (hfront : before ++ piece <+: stream) : IsStop isHead stream (before ++ piece)

/-- Reads go on as long as the response is not complete. -/
theorem collect_data_append {isHead : Bool} {received : Bytes} {pieces : List Bytes}
    (h : isComplete isHead (received ++ pieces.flatten) = false) (events : List ReadEvent) :
    collect isHead received (pieces.map .data ++ events) =
      collect isHead (received ++ pieces.flatten) events := by
  induction pieces generalizing received with
  | nil => simp
  | cons piece pieces ih =>
    rw [List.flatten_cons, ← List.append_assoc] at h
    have hpiece : isComplete isHead (received ++ piece) = false :=
      isComplete_eq_false_of_front (List.prefix_append _ _) h
    rw [List.map_cons, List.cons_append, collect, step, hpiece]
    simp only [Bool.false_eq_true, if_false]
    rw [ih h, List.flatten_cons, List.append_assoc]

/-- Reading stops at the first complete response, or when there are no more bytes. -/
theorem exists_isStop_of_received {isHead : Bool} {received : Bytes} {pieces : List Bytes}
    (hreceived : isComplete isHead received = false)
    (hle : ∀ piece ∈ pieces, piece.length ≤ readSize) :
    ∃ stopped, IsStop isHead (received ++ pieces.flatten) stopped ∧
      collect isHead received (readsOf pieces) = .received stopped none := by
  induction pieces generalizing received with
  | nil =>
    refine ⟨received, ?_, rfl⟩
    rw [List.flatten_nil, List.append_nil]
    exact .atEnd hreceived
  | cons piece pieces ih =>
    rw [List.flatten_cons, ← List.append_assoc]
    rw [readsOf, List.map_cons, List.cons_append, collect, step]
    cases hcomplete : isComplete isHead (received ++ piece) with
    | true =>
      have hbound : piece.length ≤ readSize := hle piece List.mem_cons_self
      exact ⟨received ++ piece, .afterRead hreceived hcomplete hbound (List.prefix_append _ _), rfl⟩
    | false => exact ih hcomplete fun other hother => hle other (List.mem_cons_of_mem piece hother)

/-- Reading a cut of a stream stops. -/
theorem exists_isStop_of_isCut (isHead : Bool) {stream : Bytes} {pieces : List Bytes}
    (h : IsCut stream pieces) :
    ∃ stopped, IsStop isHead stream stopped ∧
      collect isHead [] (readsOf pieces) = .received stopped none := by
  rw [← h.flatten_eq]
  exact exists_isStop_of_received (isComplete_nil isHead) h.length_le

/-- Every place where reading may stop is where some cut of the stream stops. -/
theorem exists_isCut_of_isStop {isHead : Bool} {stream stopped : Bytes}
    (h : IsStop isHead stream stopped) :
    ∃ pieces, IsCut stream pieces ∧
      collect isHead [] (readsOf pieces) = .received stopped none := by
  cases h with
  | atEnd hincomplete =>
    refine ⟨bytewise stream, isCut_bytewise stream, ?_⟩
    rw [← (isCut_bytewise stream).flatten_eq] at hincomplete
    rw [readsOf, collect_data_append hincomplete, (isCut_bytewise stream).flatten_eq]
    rfl
  | @afterRead before piece hincomplete hcomplete hle hfront =>
    obtain ⟨after, rfl⟩ := hfront
    have hne : piece ≠ [] := by
      rintro rfl
      rw [List.append_nil, hincomplete] at hcomplete
      cases hcomplete
    refine ⟨bytewise before ++ [piece] ++ bytewise after,
      ((isCut_bytewise before).append (isCut_singleton hne hle)).append (isCut_bytewise after), ?_⟩
    rw [← (isCut_bytewise before).flatten_eq] at hincomplete
    rw [readsOf, List.map_append, List.map_append, List.append_assoc, List.append_assoc,
      collect_data_append hincomplete, (isCut_bytewise before).flatten_eq]
    simp only [List.map_cons, List.map_nil, List.cons_append, List.nil_append, collect, step,
      hcomplete, if_true]

end Reading

/-! ## The shortest complete response -/

/-- The shortest complete response at the front of a stream. -/
structure IsFirstComplete (isHead : Bool) (stream first : Bytes) : Prop where
  front : first <+: stream
  complete : isComplete isHead first = true
  shortest : ∀ shorter, shorter <+: first → isComplete isHead shorter = true → shorter = first

/-- A stream that is complete in the end is complete for the first time somewhere. -/
theorem exists_isFirstComplete {isHead : Bool} {stream : Bytes}
    (h : isComplete isHead stream = true) : ∃ first, IsFirstComplete isHead stream first := by
  have hsome : ∃ n, isComplete isHead (stream.take n) = true :=
    ⟨stream.length, by rwa [List.take_length]⟩
  refine ⟨stream.take (Nat.find hsome), List.take_prefix _ _, Nat.find_spec hsome, ?_⟩
  intro shorter hshorter hcomplete
  have htake : stream.take shorter.length = shorter :=
    (List.prefix_iff_eq_take.1 (hshorter.trans (List.take_prefix _ _))).symm
  have hle : Nat.find hsome ≤ shorter.length := Nat.find_min' hsome (by rwa [htake])
  exact hshorter.eq_of_length_le ((List.length_take_le _ _).trans hle)

namespace IsFirstComplete

variable {isHead : Bool} {stream first : Bytes}

theorem ne_nil (h : IsFirstComplete isHead stream first) : first ≠ [] := by
  rintro rfl
  have hcomplete := h.complete
  rw [isComplete_nil] at hcomplete
  cases hcomplete

theorem isComplete_stream (h : IsFirstComplete isHead stream first) :
    isComplete isHead stream = true := by
  obtain ⟨more, rfl⟩ := h.front
  exact isComplete_append h.complete more

/-- A complete response at the front of the stream begins with the shortest one. -/
theorem prefix_of_isComplete (h : IsFirstComplete isHead stream first) {bytes : Bytes}
    (hfront : bytes <+: stream) (hcomplete : isComplete isHead bytes = true) : first <+: bytes := by
  rcases List.prefix_or_prefix_of_prefix h.front hfront with hbegins | hbegins
  · exact hbegins
  · rw [h.shortest bytes hbegins hcomplete]

/-- Without its last byte the shortest complete response is not complete. -/
theorem not_isComplete_dropLast (h : IsFirstComplete isHead stream first) :
    isComplete isHead first.dropLast = false := by
  cases hcomplete : isComplete isHead first.dropLast with
  | false => rfl
  | true =>
    have heq := congrArg List.length (h.shortest _ first.dropLast_prefix hcomplete)
    have hpos := List.length_pos_iff.2 h.ne_nil
    rw [List.length_dropLast] at heq
    omega

/-- What is no complete response at the front of the stream is shorter than the shortest one. -/
theorem length_lt_of_not_isComplete (h : IsFirstComplete isHead stream first) {bytes : Bytes}
    (hfront : bytes <+: stream) (hincomplete : isComplete isHead bytes = false) :
    bytes.length < first.length := by
  by_contra hle
  have hbegins : first <+: bytes :=
    List.prefix_of_prefix_length_le h.front hfront (Nat.le_of_not_lt hle)
  have hfalse := isComplete_eq_false_of_front hbegins hincomplete
  rw [h.complete] at hfalse
  cases hfalse

end IsFirstComplete

/-- The bytes of the stream that fit into one read behind the last byte of its front. -/
def alongside (stream front : Bytes) : Bytes :=
  (stream.drop front.length).take (readSize - 1)

/-- Reading stops at the shortest complete response, with some bytes behind it that came in the same
read as its last byte. -/
theorem Reading.isStop_iff_of_isFirstComplete {isHead : Bool} {stream first stopped : Bytes}
    (h : IsFirstComplete isHead stream first) :
    IsStop isHead stream stopped ↔
      ∃ more, more <+: alongside stream first ∧ stopped = first ++ more := by
  constructor
  · intro hstop
    cases hstop with
    | atEnd hincomplete =>
      rw [h.isComplete_stream] at hincomplete
      cases hincomplete
    | @afterRead before piece hincomplete hcomplete hle hfront =>
      obtain ⟨more, hmore⟩ := h.prefix_of_isComplete hfront hcomplete
      have hshorter : before.length < first.length :=
        h.length_lt_of_not_isComplete ((List.prefix_append _ _).trans hfront) hincomplete
      have hlength := congrArg List.length hmore
      rw [List.length_append, List.length_append] at hlength
      refine ⟨more, ?_, hmore.symm⟩
      obtain ⟨after, rfl⟩ := hfront
      rw [alongside, ← hmore, List.append_assoc, List.drop_left]
      rw [List.prefix_take_iff]
      exact ⟨List.prefix_append _ _, by omega⟩
  · rintro ⟨more, hbegins, rfl⟩
    obtain ⟨hmore, hlength⟩ := List.prefix_take_iff.1 hbegins
    have hfront : first ++ more <+: stream := by
      obtain ⟨after, rfl⟩ := h.front
      rw [List.drop_left] at hmore
      exact (List.prefix_append_right_inj first).2 hmore
    have hcomplete := isComplete_append h.complete more
    have hshort := h.not_isComplete_dropLast
    have hsize : (first.getLast h.ne_nil :: more).length ≤ readSize := by
      rw [List.length_cons]
      have hpos : 0 < readSize := by decide
      omega
    have hsplit : first ++ more = first.dropLast ++ first.getLast h.ne_nil :: more := by
      rw [List.append_cons, List.dropLast_append_getLast]
    rw [hsplit] at hfront hcomplete ⊢
    exact .afterRead hshort hcomplete hsize hfront

end HttpConformance

import HttpConformance.Proofs.Message.Growth

/-!
# What is decided about a chunked body

The reader of chunked bodies runs again whenever bytes arrive, over all that have arrived.  It may
decide nothing yet, but what it has decided must not depend on where the bytes were cut: the content
and the end of a body, as well as an error, stay what they are.  So the bytes that are missing at
the end of a body, be it one of a size line, of a chunk or of a line break, are always waited for.

Main definition: `ChunkedBody.decision?`.

Main results:

- `ChunkedBody.decision?_append`: a decision is not changed by what follows.
- `ChunkedBody.decision?_take`: nothing is decided before the last byte of a body.
- `ChunkedBody.decision_is_final`: both, and that the bodies of the grammar are decided.
-/

namespace HttpConformance.ChunkedBody

/-- What has been decided about the chunked body at the front of some bytes: nothing yet, an error,
or its content and the number of bytes that it takes. -/
def decision? (bytes : Bytes) : Option (Except Error (Bytes × Nat)) :=
  match read bytes with
  | .incomplete => none
  | .malformed error => some (.error error)
  | .complete content rest => some (.ok (content, bytes.length - rest.length))

variable {bytes content : Bytes} {n : Nat}

/-- There is no decision as long as more bytes may be needed. -/
theorem decision?_eq_none_iff : decision? bytes = none ↔ read bytes = .incomplete := by
  unfold decision?
  cases read bytes <;> simp

/-- A decision is not changed by what follows. -/
theorem decision?_append {outcome : Except Error (Bytes × Nat)} (h : decision? bytes = some outcome)
    (more : Bytes) : decision? (bytes ++ more) = some outcome := by
  have hread : read bytes ≠ .incomplete := by
    rw [Ne, ← decision?_eq_none_iff, h]
    exact Option.some_ne_none outcome
  rw [← h, decision?, decision?, read_append hread]
  cases read bytes with
  | incomplete => rfl
  | malformed error => rfl
  | complete content rest =>
    simp only [Reading.followedBy, List.length_append, Nat.add_sub_add_right]

/-- The bytes at the front of others are undecided, or decided like them. -/
theorem decision?_of_prefix {front : Bytes} (h : front <+: bytes) :
    decision? front = none ∨ decision? front = decision? bytes := by
  obtain ⟨more, rfl⟩ := h
  cases hfront : decision? front with
  | none => exact Or.inl rfl
  | some outcome => exact Or.inr (decision?_append hfront more).symm

theorem le_length_of_decision? (h : decision? bytes = some (.ok (content, n))) :
    n ≤ bytes.length := by
  unfold decision? at h
  split at h
  · cases h
  · cases h
  · cases h
    exact Nat.sub_le _ _

/-- Nothing is decided before the last byte of a body. -/
theorem decision?_take (h : decision? bytes = some (.ok (content, n))) {size : Nat}
    (hsize : size < n) : decision? (bytes.take size) = none := by
  rcases decision?_of_prefix (List.take_prefix size bytes) with hnone | hsame
  · exact hnone
  · rw [h] at hsame
    have hle := le_length_of_decision? hsame
    rw [List.length_take] at hle
    omega

/-- A chunked body is decided, whatever follows it. -/
theorem decision?_of_isChunkedBody (h : IsChunkedBody bytes content)
    (hlength : bytes.length < 2 ^ 64) (more : Bytes) :
    decision? (bytes ++ more) = some (.ok (content, bytes.length)) := by
  have hbound : 0 + bytes.length ≤ sizeBound := by
    unfold sizeBound
    omega
  have hread : read (bytes ++ more) = .complete content more :=
    readFrom_of_isChunkedBody h hbound more
  simp only [decision?, hread, List.length_append, Nat.add_sub_cancel_right]

/-- Decisions are final: bytes that follow change neither an error, nor the content of a body and
the number of its bytes.  A chunked body is decided with its last byte, and not before. -/
theorem decision_is_final (bytes more : Bytes) :
    (∀ outcome, decision? bytes = some outcome → decision? (bytes ++ more) = some outcome) ∧
    (∀ content n, decision? bytes = some (.ok (content, n)) →
      ∀ size < n, decision? (bytes.take size) = none) ∧
    ∀ content, IsChunkedBody bytes content → bytes.length < 2 ^ 64 →
      decision? (bytes ++ more) = some (.ok (content, bytes.length)) ∧
        ∀ size < bytes.length, decision? (bytes.take size) = none := by
  refine ⟨?_, ?_, ?_⟩
  · intro outcome h
    exact decision?_append h more
  · intro content n h size hsize
    exact decision?_take h hsize
  · intro content h hlength
    have hwhole := decision?_of_isChunkedBody h hlength []
    rw [List.append_nil] at hwhole
    exact ⟨decision?_of_isChunkedBody h hlength more, fun size hsize => decision?_take hwhole hsize⟩

end HttpConformance.ChunkedBody

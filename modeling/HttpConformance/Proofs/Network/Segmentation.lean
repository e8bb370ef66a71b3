import HttpConformance.Proofs.Message.Outcome
import HttpConformance.Proofs.Network.Collecting

/-!
# Responses and the cuts of a stream

What a server writes should be read as the same response however the network cuts it.  It is, unless
reading stops at a response whose body the response reader takes to go on: reading stops after the
head of a response to HEAD, of a `204` and of a `304`, and it goes by the fields of a head as they
stand, while the response reader keeps every byte that came along and joins continuation lines
first.

Main definition: `IsSegmentationIndependent`.

Main results:

- `isSegmentationIndependent_iff`: the streams that are read alike in every cut.
- `isSegmentationIndependent_of_unfolded`: responses with a body and without continuation lines are.
- `not_isSegmentationIndependent`: not every stream is.
-/

namespace HttpConformance

open Response

/-- Every cut of the stream is read as the same response, or as the same error. -/
def IsSegmentationIndependent (isHead : Bool) (stream : Bytes) : Prop :=
  ∃ outcome, ∀ pieces, IsCut stream pieces →
    ∃ received, Reading.collect isHead [] (readsOf pieces) = .received received none ∧
      outcomeOf received = outcome

/-- A stream is read alike in every cut when all places where reading may stop say the same. -/
theorem isSegmentationIndependent_iff_isStop {isHead : Bool} {stream : Bytes} :
    IsSegmentationIndependent isHead stream ↔
      ∃ outcome, ∀ stopped, Reading.IsStop isHead stream stopped →
        outcomeOf stopped = outcome := by
  constructor
  · rintro ⟨outcome, hall⟩
    refine ⟨outcome, ?_⟩
    intro stopped hstop
    obtain ⟨pieces, hcut, hcollect⟩ := Reading.exists_isCut_of_isStop hstop
    obtain ⟨received, hreceived, houtcome⟩ := hall pieces hcut
    rw [hcollect] at hreceived
    cases hreceived
    exact houtcome
  · rintro ⟨outcome, hall⟩
    refine ⟨outcome, ?_⟩
    intro pieces hcut
    obtain ⟨stopped, hstop, hcollect⟩ := Reading.exists_isStop_of_isCut isHead hcut
    exact ⟨stopped, hcollect, hall stopped hstop⟩

/-- Reading stops at the shortest complete response in one cut, and at the end of the read that it
shares with the bytes after it in another. -/
theorem IsFirstComplete.isSettled {isHead : Bool} {stream first : Bytes}
    (hfirst : IsFirstComplete isHead stream first)
    (h : IsSegmentationIndependent isHead stream) : IsSettled first (alongside stream first) := by
  obtain ⟨outcome, hall⟩ := isSegmentationIndependent_iff_isStop.1 h
  have hstop : ∀ more, more <+: alongside stream first →
      Reading.IsStop isHead stream (first ++ more) := by
    intro more hmore
    exact (Reading.isStop_iff_of_isFirstComplete hfirst).2 ⟨more, hmore, rfl⟩
  have hshort := hall _ (hstop [] List.nil_prefix)
  have hlong := hall _ (hstop (alongside stream first) (List.prefix_refl _))
  rw [List.append_nil] at hshort
  exact (outcomeOf_append_eq_iff hfirst.complete _).1 (hlong.trans hshort.symm)

/-- How a stream is cut does not matter if every stop is settled. -/
theorem isSegmentationIndependent_of_isSettled {isHead : Bool} {stream : Bytes}
    (h : ∀ first, IsFirstComplete isHead stream first → IsSettled first (alongside stream first)) :
    IsSegmentationIndependent isHead stream := by
  rw [isSegmentationIndependent_iff_isStop]
  cases hstream : isComplete isHead stream with
  | false =>
    refine ⟨outcomeOf stream, ?_⟩
    intro stopped hstop
    cases hstop with
    | atEnd => rfl
    | afterRead _ hcomplete _ hfront =>
      rw [isComplete_eq_false_of_front hfront hstream] at hcomplete
      cases hcomplete
  | true =>
    obtain ⟨first, hfirst⟩ := exists_isFirstComplete hstream
    refine ⟨outcomeOf first, ?_⟩
    intro stopped hstop
    obtain ⟨more, hmore, rfl⟩ := (Reading.isStop_iff_of_isFirstComplete hfirst).1 hstop
    exact (outcomeOf_append_eq_iff hfirst.complete more).2 ((h first hfirst).of_front hmore)

/-- A response to another request than HEAD that may have a body, and whose head has no continuation
line, is read alike in every cut. -/
theorem isSegmentationIndependent_of_unfolded {stream : Bytes}
    (h : ∀ first, IsFirstComplete false stream first →
      (statusCodeOf? (firstLine (headOf first))).any isBodiless = false ∧
        ∀ line ∈ (linesOf (headOf first)).tail, isContinuation line = false) :
    IsSegmentationIndependent false stream := by
  refine isSegmentationIndependent_of_isSettled ?_
  intro first hfirst
  obtain ⟨hbody, hunfolded⟩ := h first hfirst
  obtain ⟨final, parted, hfinal, hpart, hcomplete⟩ := isComplete_iff.1 hfirst.complete
  have hparted : partedOf (selected first) = parted := by
    simp only [selected, hfinal, Option.getD_some, partedOf, hpart]
  rw [headOf, hparted] at hbody hunfolded
  rcases hcomplete with hhead | hbodiless | hall
  · cases hhead
  · rw [hbody] at hbodiless
    cases hbodiless
  · have hfields : joinedFieldsOf parted.head = fieldsOf parted.head :=
      foldedFields_eq_filterMap hunfolded
    refine Or.inr (Or.inr (Or.inl ?_))
    rw [headOf, afterHead, hparted, hfields]
    exact hall

/-- A stream is read alike in every cut exactly when the bytes that can come in the same read as the
last byte of its shortest complete response say nothing new. -/
theorem isSegmentationIndependent_iff (isHead : Bool) (stream : Bytes) :
    IsSegmentationIndependent isHead stream ↔
      ∀ first, IsFirstComplete isHead stream first →
        IsSettled first (alongside stream first) := by
  constructor
  · intro h first hfirst
    exact hfirst.isSettled h
  · intro h
    exact isSegmentationIndependent_of_isSettled h

/-- A response that never has a body. -/
def noContent : Bytes :=
  "HTTP/1.1 204 No Content\r\n\r\n".toUTF8.toList

/-- A byte behind a response without a body is read as its body when it comes in the same read, and
not read at all otherwise. -/
theorem not_isSegmentationIndependent :
    ¬ ∀ isHead stream, IsSegmentationIndependent isHead stream := by
  intro h
  obtain ⟨outcome, hall⟩ := h false (noContent ++ [0x78])
  have hone : IsCut (noContent ++ [0x78]) [noContent ++ [0x78]] := by
    refine isCut_singleton ?_ ?_ <;> decide +kernel
  have htwo : IsCut (noContent ++ [0x78]) ([noContent] ++ [[0x78]]) := by
    refine (isCut_singleton ?_ ?_).append (isCut_singleton ?_ ?_) <;> decide +kernel
  obtain ⟨whole, hwhole, hsame⟩ := hall _ hone
  obtain ⟨front, hfront, hother⟩ := hall _ htwo
  have hcollectWhole : Reading.collect false [] (readsOf [noContent ++ [0x78]]) =
      .received (noContent ++ [0x78]) none := by decide +kernel
  have hcollectFront : Reading.collect false [] (readsOf ([noContent] ++ [[0x78]])) =
      .received noContent none := by decide +kernel
  rw [hcollectWhole] at hwhole
  rw [hcollectFront] at hfront
  cases hwhole
  cases hfront
  have hbodies : (outcomeOf (noContent ++ [0x78])).toOption.map (·.body) ≠
      (outcomeOf noContent).toOption.map (·.body) := by decide +kernel
  exact hbodies (by rw [hsame, hother])

end HttpConformance

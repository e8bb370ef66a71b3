import HttpConformance.Configuration.Basic
import HttpConformance.Proofs.Resource.Confinement
import HttpConformance.Proofs.Text.Trim
import HttpConformance.Proofs.Variables
import Mathlib

/-!
# Configurations put in order twice

A configuration is put in order once before a run, and the resource root once more for every
resource that is loaded, by the same rule.  Everything but the resource root stays as it is the
second time.  The root is freed of blanks before it is freed of slashes, so that a blank in front of
the slashes comes to stand at its end: it is kept the first time and taken away the second time.

Main definition: `HasBlankBeforeSlashes`.

Main results:

- `normalizeRoot_normalizeRoot_eq_iff`: the roots that stay as they are the second time.
- `ResourcePath.make_normalizeRoot_eq_iff`: the paths that name the same resource under the root put
  in order.
- `Configuration.trimNames_trimNames`: names without blanks around them stay as they are.
- `Configuration.not_sanitize_settles`: some roots are changed the second time.
- `Configuration.sanitize_settles_iff`: which ones are.
-/

namespace HttpConformance

/-! ## Roots -/

/-- The root has a blank directly in front of the slashes, of either kind, at its end. -/
def HasBlankBeforeSlashes (root : Text) : Prop :=
  ∃ front blank slashes, Text.trim root = front ++ blank :: slashes ∧
    Text.isBlank blank = true ∧ ∀ c ∈ slashes, c = '/' ∨ c = '\\'

section

variable {root : Text}

/-- No backslash is left in a root. -/
theorem backslash_notMem_normalizeRoot (root : Text) : '\\' ∉ normalizeRoot root := by
  obtain ⟨slashes, -, heq⟩ := (ResourcePath.isRootOf_normalizeRoot root).eq_append
  intro hmem
  exact ResourcePath.backslash_notMem_slashed _ (heq ▸ List.mem_append_left slashes hmem)

/-- A root is no longer than the text that it is made of. -/
theorem length_normalizeRoot_le (root : Text) :
    (normalizeRoot root).length ≤ (Text.trim root).length := by
  obtain ⟨slashes, -, heq⟩ := (ResourcePath.isRootOf_normalizeRoot root).eq_append
  have hlength := congrArg List.length heq
  rw [Text.replaceChar, List.length_map, List.length_append] at hlength
  omega

/-- A root without blanks around it, without backslashes and without slashes at its end is in
order. -/
theorem normalizeRoot_eq_self (htrimmed : root.IsTrimmed) (hbackslash : '\\' ∉ root)
    (hlast : root = ['/'] ∨ root.getLast? ≠ some '/') : normalizeRoot root = root := by
  have hslashed : Text.replaceChar '\\' '/' (Text.trim root) = root := by
    rw [htrimmed, Text.replaceChar]
    refine (List.map_congr_left fun c hc => ?_).trans (List.map_id root)
    exact if_neg (ne_of_mem_of_not_mem hc hbackslash)
  rcases hlast with rfl | hlast
  · decide
  · have hkept : dropEndWhile (· == '/') root = root := dropEndWhile_beq_eq_self_iff.2 hlast
    rw [normalizeRoot, hslashed, hkept]
    exact if_neg fun h => h.1 h.2

/-- A root put in order stays as it is exactly when it has no blanks around it. -/
theorem normalizeRoot_normalizeRoot_eq_iff_isTrimmed :
    normalizeRoot (normalizeRoot root) = normalizeRoot root ↔ (normalizeRoot root).IsTrimmed := by
  constructor
  · intro h
    obtain ⟨before, after, -, -, heq⟩ := Text.exists_eq_append_trim (normalizeRoot root)
    have hlength := length_normalizeRoot_le (normalizeRoot root)
    rw [h] at hlength
    -- Nothing is taken away the second time, so no blanks are.
    have hinfix : Text.trim (normalizeRoot root) <:+: normalizeRoot root :=
      ⟨before, after, by rw [List.append_assoc, ← heq]⟩
    exact hinfix.sublist.eq_of_length_le hlength
  · intro h
    exact normalizeRoot_eq_self h (backslash_notMem_normalizeRoot root)
      (ResourcePath.isRootOf_normalizeRoot root).last

/-- A slash in place of a backslash is as little a blank as the backslash. -/
theorem isBlank_slashed (c : Char) :
    Text.isBlank (if c = '\\' then '/' else c) = Text.isBlank c := by
  split
  · rename_i hc
    rw [hc]
    decide
  · rfl

/-- A root put in order ends in its last character that is no slash. -/
theorem normalizeRoot_eq_concat {front slashes : Text} {last : Char}
    (hslashed : Text.replaceChar '\\' '/' (Text.trim root) = front ++ last :: slashes)
    (hlast : last ≠ '/') (hslashes : ∀ c ∈ slashes, c = '/') :
    normalizeRoot root = front ++ [last] := by
  have hkept : dropEndWhile (· == '/') (front ++ last :: slashes) =
      front ++ last :: dropEndWhile (· == '/') slashes := by
    refine dropEndWhile_append_cons_of_kept ?_ front slashes
    exact beq_eq_false_iff_ne.2 hlast
  have hdropped : dropEndWhile (· == '/') slashes = [] :=
    List.rdropWhile_eq_nil_iff.2 fun c hc => beq_iff_eq.2 (hslashes c hc)
  rw [normalizeRoot, hslashed, hkept, hdropped]
  exact if_neg fun h => by simpa using h.2

/-- A blank in front of the slashes comes to stand at the end. -/
theorem HasBlankBeforeSlashes.not_isTrimmed (h : HasBlankBeforeSlashes root) :
    ¬ (normalizeRoot root).IsTrimmed := by
  obtain ⟨front, blank, slashes, htrim, hblank, hslashes⟩ := h
  have hne {c : Char} (hc : Text.isBlank c = false) : blank ≠ c := by
    rintro rfl
    rw [hblank] at hc
    cases hc
  have hslashed : Text.replaceChar '\\' '/' (Text.trim root) =
      Text.replaceChar '\\' '/' front ++ blank :: Text.replaceChar '\\' '/' slashes := by
    rw [htrim, Text.replaceChar, List.map_append, List.map_cons, if_neg (hne (by decide))]
    rfl
  have hnormal : normalizeRoot root = Text.replaceChar '\\' '/' front ++ [blank] := by
    refine normalizeRoot_eq_concat hslashed (hne (by decide)) fun c hc => ?_
    obtain ⟨slash, hslash, rfl⟩ := List.mem_map.1 hc
    rcases hslashes slash hslash with rfl | rfl <;> decide
  intro htrimmed
  have hend : (normalizeRoot root).getLast? = some blank := by rw [hnormal, List.getLast?_concat]
  exact hne (htrimmed.not_isBlank_of_getLast? hend) rfl

/-- A root put in order has blanks around it exactly when a blank was in front of its slashes. -/
theorem isTrimmed_normalizeRoot_iff :
    (normalizeRoot root).IsTrimmed ↔ ¬ HasBlankBeforeSlashes root := by
  refine ⟨fun htrimmed h => h.not_isTrimmed htrimmed, fun h => ?_⟩
  obtain ⟨slashes, hslashes, heq⟩ := (ResourcePath.isRootOf_normalizeRoot root).eq_append
  apply Text.isTrimmed_of_ends
  · intro c hc
    have hhead : (Text.replaceChar '\\' '/' (Text.trim root)).head? = some c := by
      rw [heq, List.head?_append, hc, Option.some_or]
    rw [Text.replaceChar, List.head?_map] at hhead
    obtain ⟨first, hfirst, rfl⟩ := Option.map_eq_some_iff.1 hhead
    rw [isBlank_slashed]
    exact (Text.isTrimmed_trim root).not_isBlank_of_head? hfirst
  · intro c hc
    by_contra hblank
    obtain ⟨front, hfront⟩ := List.getLast?_eq_some_iff.1 hc
    rw [hfront, List.append_assoc, List.singleton_append] at heq
    obtain ⟨before, behind, htrim, -, hbehind⟩ := List.map_eq_append_iff.1 heq
    obtain ⟨blank, rest, rfl, rfl, rfl⟩ := List.map_eq_cons_iff.1 hbehind
    rw [isBlank_slashed, Bool.not_eq_false] at hblank
    refine h ⟨before, blank, rest, htrim, hblank, fun c hc => ?_⟩
    have hslash := hslashes _ (List.mem_map_of_mem hc)
    by_cases hback : c = '\\'
    · exact Or.inr hback
    · exact Or.inl (by rwa [if_neg hback] at hslash)

/-- A root put in order stays as it is exactly when no blank was in front of its slashes. -/
theorem normalizeRoot_normalizeRoot_eq_iff :
    normalizeRoot (normalizeRoot root) = normalizeRoot root ↔ ¬ HasBlankBeforeSlashes root :=
  normalizeRoot_normalizeRoot_eq_iff_isTrimmed.trans isTrimmed_normalizeRoot_iff

/-- Under a root put in order, a path names what it names under the root itself exactly when it
names nothing or no blank was in front of the slashes. -/
theorem ResourcePath.make_normalizeRoot_eq_iff {path : Text} :
    make (normalizeRoot root) path = make root path ↔
      (∃ error, make root path = .error error) ∨ ¬ HasBlankBeforeSlashes root := by
  rw [← normalizeRoot_normalizeRoot_eq_iff]
  unfold make
  dsimp only
  split
  · simp
  · simp
  · constructor
    · intro h
      exact Or.inr (congrArg ResourcePath.root (Except.ok.inj h))
    · rintro (⟨error, h⟩ | h)
      · cases h
      · rw [h]

end

/-! ## Upper case -/

namespace Text

/-- A character beyond ASCII has no other case. -/
theorem toUpper_of_le {c : Char} (h : 128 ≤ c.toNat) : c.toUpper = c := by
  refine dif_neg fun hsmall => ?_
  have hz : 'z'.val.toNat = 122 := rfl
  have hle := UInt32.le_iff_toNat_le.1 hsmall.2
  rw [Char.toNat] at h
  omega

/-- Upper case makes no blanks and takes none away. -/
theorem isBlank_toUpper (c : Char) : isBlank c.toUpper = isBlank c := by
  have hascii : ∀ k < 128, isBlank (Char.ofNat k).toUpper = isBlank (Char.ofNat k) := by decide
  by_cases hc : c.toNat < 128
  · simpa using hascii c.toNat hc
  · rw [toUpper_of_le (Nat.not_lt.1 hc)]

/-- A text may be trimmed before or after it is put in upper case. -/
theorem trim_upperAscii (text : Text) : trim (upperAscii text) = upperAscii (trim text) := by
  have hblank : isBlank ∘ Char.toUpper = isBlank := funext isBlank_toUpper
  simp only [trim, upperAscii, dropEndWhile, List.dropWhile_map, ← List.map_reverse, hblank]

end Text

/-! ## Configurations -/

namespace Configuration

/-- Names without blanks around them stay as they are. -/
theorem trimNames_trimNames (vars : Variables) : trimNames (trimNames vars) = trimNames vars := by
  have htrimmed : ∀ entry ∈ (trimNames vars).entries, (Text.trim entry.1, entry.2) = entry := by
    intro entry hentry
    obtain ⟨original, -, rfl⟩ := List.mem_map.1 (Variables.mem_of_mem_ofList hentry)
    rw [Text.isTrimmed_trim]
  generalize trimNames vars = once at htrimmed ⊢
  calc trimNames once
      = .ofList (once.entries.map id) := congrArg Variables.ofList (List.map_congr_left htrimmed)
    _ = once := by rw [List.map_id, Variables.ofList_entries]

theorem upperAscii_trim_upperAscii_trim (level : Text) :
    Text.upperAscii (Text.trim (Text.upperAscii (Text.trim level))) =
      Text.upperAscii (Text.trim level) := by
  rw [Text.trim_upperAscii, Text.isTrimmed_trim, Text.upperAscii, Text.upperAscii, List.map_map]
  exact List.map_congr_left fun c _ => Char.toUpper_toUpper_eq_toUpper c

/-- Only the resource root may be changed when a configuration is put in order again. -/
theorem sanitize_sanitize_eq_iff {configuration : Configuration} :
    configuration.sanitize.sanitize = configuration.sanitize ↔
      normalizeRoot (normalizeRoot configuration.resourceRoot) =
        normalizeRoot configuration.resourceRoot := by
  have htrim (text : Text) : Text.trim (Text.trim text) = Text.trim text := Text.isTrimmed_trim text
  have hothers : configuration.sanitize.sanitize =
      { configuration.sanitize with
        resourceRoot := normalizeRoot (normalizeRoot configuration.resourceRoot) } := by
    simp only [sanitize, htrim, upperAscii_trim_upperAscii_trim, trimNames_trimNames]
  rw [hothers]
  constructor
  · exact congrArg Configuration.resourceRoot
  · intro hroot
    rw [hroot]
    rfl

/-- A root with a blank in front of its slash. -/
def spacedRoot : Configuration where
  resourceRoot := "golden /".toList

/-- The blank in front of the slash is kept the first time and taken away the second time. -/
theorem not_sanitize_settles :
    ¬ ∀ configuration : Configuration,
      configuration.sanitize.sanitize = configuration.sanitize ∧
        ∀ path, ResourcePath.make configuration.sanitize.resourceRoot path =
          ResourcePath.make configuration.resourceRoot path := by
  intro h
  exact absurd (h spacedRoot).1 (by decide)

/-- A configuration that was put in order stays as it is the second time exactly when its resource
root had no blank directly in front of the slashes at its end.  The same decides, for every path
that names a resource, whether it names the same one under the root as it was given and under the
root put in order. -/
theorem sanitize_settles_iff (configuration : Configuration) :
    (configuration.sanitize.sanitize = configuration.sanitize ↔
        ¬ HasBlankBeforeSlashes configuration.resourceRoot) ∧
      ∀ path, ResourcePath.make configuration.sanitize.resourceRoot path =
          ResourcePath.make configuration.resourceRoot path ↔
        (∃ error, ResourcePath.make configuration.resourceRoot path = .error error) ∨
          ¬ HasBlankBeforeSlashes configuration.resourceRoot :=
  ⟨sanitize_sanitize_eq_iff.trans normalizeRoot_normalizeRoot_eq_iff,
    fun _ => ResourcePath.make_normalizeRoot_eq_iff⟩

end Configuration

end HttpConformance

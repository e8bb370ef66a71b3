import HttpConformance.Proofs.Text.Trim
import HttpConformance.Suite.Basic
import Mathlib.Algebra.BigOperators.Group.Finset.Basic

/-!
# Well-formed suites

A suite can be run when it has cases, their names tell them apart, and each case says something that
can be sent and expected.  Names that are equal are found by sorting all names and comparing each
with the next one: in a sorted list, equal names stand side by side, so that a name is reported as
often as it occurs, less one.

Main definitions: `Case.IsWellFormed`, `Suite.IsWellFormed`.

Main results:

- `Case.errors_eq_nil_iff`: the cases in which nothing is wrong.
- `Suite.count_duplicateNames`: how often a name is reported.
- `Suite.duplicateNames_eq_nil_iff`: no name is reported when the names are different.
- `Suite.errors_decide_wellFormedness`: nothing is wrong with a suite exactly when it is well
  formed, and how many repeated names are reported otherwise.
-/

namespace HttpConformance

/-! ## Cases -/

namespace Case

/-- The case can be told by its name and sent, and what it expects can be read and met. -/
structure IsWellFormed (case : Case) : Prop where
  name : Text.trim case.name ≠ []
  request : Text.trim case.request ≠ []
  status : ∀ code, case.status = some code →
    100 ≤ code.toNat ∧ code.toNat ≤ 599 ∧ case.anyStatus = false
  exactMatch : ∀ word, case.exactMatch = some (.text word) → ∃ value, Flag.parse word = .ok value
  timeout : case.timeoutMs ≠ some 0

/-- The status of a case is in order when it is a status code and nothing contradicts it. -/
theorem statusFaults_eq_nil_iff {case : Case} :
    case.statusFaults = [] ↔ ∀ code, case.status = some code →
      100 ≤ code.toNat ∧ code.toNat ≤ 599 ∧ case.anyStatus = false := by
  unfold statusFaults
  cases case.status with
  | none => simp
  | some code => simp [UInt16.le_iff_toNat_le, and_assoc]

/-- The words of a case are in order when they can be read. -/
theorem exactMatchFaults_eq_nil_iff {case : Case} :
    case.exactMatchFaults = [] ↔
      ∀ word, case.exactMatch = some (.text word) → ∃ value, Flag.parse word = .ok value := by
  unfold exactMatchFaults
  cases case.exactMatch with
  | none => simp
  | some flag =>
    cases flag with
    | bool value => simp [Flag.value]
    | text word => cases hparse : Flag.parse word <;> simp [Flag.value, hparse]

/-- Nothing is wrong with a case exactly when it is well formed. -/
theorem errors_eq_nil_iff {case : Case} : case.errors = [] ↔ case.IsWellFormed := by
  have hblank {text : Text} : Text.isAllBlank text = false ↔ Text.trim text ≠ [] := by
    rw [← Bool.not_eq_true, Ne, Text.trim_eq_nil_iff]
  simp only [errors, faults, List.append_eq_nil_iff, List.map_eq_nil_iff, ite_eq_right_iff,
    List.cons_ne_nil, imp_false, Bool.not_eq_true, hblank, statusFaults_eq_nil_iff,
    exactMatchFaults_eq_nil_iff]
  constructor
  · rintro ⟨hname, ⟨⟨hrequest, hstatus⟩, hexactMatch⟩, htimeout⟩
    exact ⟨hname, hrequest, hstatus, hexactMatch, htimeout⟩
  · intro h
    exact ⟨h.name, ⟨⟨h.request, h.status⟩, h.exactMatch⟩, h.timeout⟩

end Case

namespace Suite

/-! ## Repeated names -/

/-- In a sorted list, an item that is not equal to the next one is not repeated at all. -/
theorem notMem_of_pairwise_not_lt {a b : Text} {rest : List Text}
    (h : (a :: b :: rest).Pairwise fun x y => ¬ y < x) (hne : a ≠ b) : a ∉ b :: rest := by
  obtain ⟨hfirst, hrest⟩ := List.pairwise_cons.1 h
  have hba : ¬ b < a := hfirst b List.mem_cons_self
  intro hmem
  rcases List.mem_cons.1 hmem with heq | hlater
  · exact hne heq
  · have hab : ¬ a < b := List.rel_of_pairwise_cons hrest hlater
    exact hne (List.le_antisymm (List.not_lt.1 hba) (List.not_lt.1 hab))

/-- In a sorted list, an item is equal to the one before it as often as it occurs, less one. -/
theorem count_repeats {names : List Text} (h : names.Pairwise fun x y => ¬ y < x) (name : Text) :
    (repeats names).count name = names.count name - 1 := by
  fun_induction repeats names with
  | case1 a rest ih =>
    by_cases hname : a = name
    · have hpos : 0 < (a :: rest).count name := List.count_pos_iff.2 (hname ▸ List.mem_cons_self)
      rw [hname] at hpos ih ⊢
      rw [List.count_cons_self, ih (hname ▸ h.of_cons), List.count_cons_self (l := name :: rest)]
      omega
    · rw [List.count_cons_of_ne hname, ih h.of_cons, List.count_cons_of_ne hname (l := a :: rest)]
  | case2 a b rest hne ih =>
    rw [ih h.of_cons]
    by_cases hname : a = name
    · have hout : name ∉ b :: rest := hname ▸ notMem_of_pairwise_not_lt h hne
      rw [hname, List.count_cons_self, List.count_eq_zero.2 hout]
    · rw [List.count_cons_of_ne hname]
  | case3 names hshort =>
    match names with
    | [] => rfl
    | [a] => cases hname : a == name <;> simp [List.count_cons, hname]
    | a :: b :: rest => exact absurd rfl (hshort a b rest)

/-- Names are compared in ascending order. -/
theorem pairwise_not_lt_mergeSort (names : List Text) :
    (names.mergeSort fun a b => !decide (b < a)).Pairwise fun x y => ¬ y < x := by
  have hle {a b : Text} : (!decide (b < a)) = true ↔ ¬ b < a := by
    rw [Bool.not_eq_true', decide_eq_false_iff_not]
  refine (List.pairwise_mergeSort ?_ ?_ names).imp hle.1
  · intro a b c hab hbc
    rw [hle, List.not_lt] at hab hbc ⊢
    exact List.le_trans hab hbc
  · intro a b
    rw [Bool.or_eq_true, hle, hle, List.not_lt, List.not_lt]
    exact List.le_total a b

/-- A name that is not empty is reported as often as it occurs, less one. -/
theorem count_duplicateNames (names : List Text) (name : Text) :
    (duplicateNames names).count name = if name = [] then 0 else names.count name - 1 := by
  unfold duplicateNames
  split
  · rename_i hempty
    rw [List.count_eq_zero, hempty]
    exact fun hmem => absurd rfl (of_decide_eq_true (List.mem_filter.1 hmem).2)
  · rename_i hname
    rw [List.count_filter (by simpa using hname), count_repeats (pairwise_not_lt_mergeSort names),
      (List.mergeSort_perm names _).count_eq]

example : duplicateNames ["b".toList, [], "a".toList, "b".toList, [], "b".toList] =
    ["b".toList, "b".toList] := by
  cbv

/-- A name is reported exactly when it is not empty and occurs more than once. -/
theorem mem_duplicateNames_iff {names : List Text} {name : Text} :
    name ∈ duplicateNames names ↔ name ≠ [] ∧ 1 < names.count name := by
  rw [← List.count_pos_iff, count_duplicateNames]
  split
  · rename_i hempty
    simp [hempty]
  · rename_i hname
    rw [Nat.sub_pos_iff_lt, and_iff_right hname]

/-- No name is reported exactly when the names are different, where none is empty. -/
theorem duplicateNames_eq_nil_iff {names : List Text} (h : [] ∉ names) :
    duplicateNames names = [] ↔ names.Nodup := by
  rw [List.nodup_iff_count_le_one, List.eq_nil_iff_forall_not_mem]
  refine forall_congr' fun name => ?_
  rw [mem_duplicateNames_iff]
  by_cases hempty : name = []
  · simp [hempty, List.count_eq_zero.2 h]
  · rw [and_iff_right hempty, Nat.not_lt]

/-- All names together are reported as often as they occur, less one for each of them. -/
theorem length_duplicateNames (names : List Text) :
    (duplicateNames names).length = ∑ name ∈ names.toFinset.erase [], (names.count name - 1) := by
  have hmem : ∀ name ∈ (duplicateNames names : Multiset Text), name ∈ names.toFinset.erase [] := by
    intro name hname
    obtain ⟨hne, hcount⟩ := mem_duplicateNames_iff.1 (Multiset.mem_coe.1 hname)
    have hpos : 0 < names.count name := by omega
    exact Finset.mem_erase.2 ⟨hne, List.mem_toFinset.2 (List.count_pos_iff.1 hpos)⟩
  have hinstance : (List.instBEq : BEq Text) = instBEqOfDecidableEq := lawful_beq_subsingleton _ _
  calc (duplicateNames names).length
      = ∑ name ∈ names.toFinset.erase [], (duplicateNames names).count name := by
        rw [← Multiset.coe_card, ← Multiset.sum_count_eq_card hmem, hinstance]
        exact Finset.sum_congr rfl fun name _ => Multiset.coe_count name _
    _ = ∑ name ∈ names.toFinset.erase [], (names.count name - 1) := by
        refine Finset.sum_congr rfl fun name hname => ?_
        rw [count_duplicateNames, if_neg (Finset.ne_of_mem_erase hname)]

/-! ## Suites -/

/-- There is something to run, and every result can be told by the name of its case. -/
structure IsWellFormed (suite : Suite) : Prop where
  hasCases : suite.cases ≠ []
  distinctNames : (suite.cases.map (·.name)).Nodup
  wellFormedCases : ∀ case ∈ suite.cases, case.IsWellFormed

/-- What the message about a repeated name begins with. -/
def duplicateOpening : Text :=
  "Duplicate test case name: ".toList

/-- No other error reads like that of a repeated name. -/
theorem Error.isPrefixOf_message (error : Error) :
    duplicateOpening.isPrefixOf error.message = true ↔ ∃ name, error = .duplicateName name := by
  rw [List.isPrefixOf_iff_prefix]
  constructor
  · rintro ⟨rest, hmessage⟩
    have hhead := congrArg List.head? hmessage
    cases error with
    | noCases name => exact absurd (show some 'D' = some 'S' from hhead) (by decide)
    | inCase error =>
      have hcase : some 'D' = some 'T' := by
        cases error <;> exact hhead
      exact absurd hcase (by decide)
    | duplicateName name => exact ⟨name, rfl⟩
  · rintro ⟨name, rfl⟩
    exact List.prefix_append duplicateOpening name

/-- No case that is well formed has the empty name. -/
theorem nil_notMem_map_name {cases : List Case} (h : ∀ case ∈ cases, case.IsWellFormed) :
    [] ∉ cases.map (·.name) := by
  intro hmem
  obtain ⟨case, hcase, hname⟩ := List.mem_map.1 hmem
  have htrim : Text.trim case.name = [] := by rw [hname]; rfl
  exact (h case hcase).name htrim

/-- A suite has no errors exactly when it is well-formed. -/
theorem errors_eq_nil_iff {suite : Suite} : suite.errors = [] ↔ suite.IsWellFormed := by
  simp only [errors, List.append_eq_nil_iff, List.map_eq_nil_iff, List.flatMap_eq_nil_iff,
    ite_eq_right_iff, List.cons_ne_nil, imp_false, Case.errors_eq_nil_iff]
  constructor
  · rintro ⟨⟨hcases, hwellFormed⟩, hnames⟩
    have hdistinct := (duplicateNames_eq_nil_iff (nil_notMem_map_name hwellFormed)).1 hnames
    exact ⟨hcases, hdistinct, hwellFormed⟩
  · intro h
    have hnames := (duplicateNames_eq_nil_iff (nil_notMem_map_name h.wellFormedCases)).2
      h.distinctNames
    exact ⟨⟨h.hasCases, h.wellFormedCases⟩, hnames⟩

/-- Nothing is wrong with a suite exactly when it is well formed.  There are as many messages about
repeated names as there are occurrences of names that are not empty, one of each name left out. -/
theorem errors_decide_wellFormedness (suite : Suite) :
    (suite.errors = [] ↔ suite.IsWellFormed) ∧
      (suite.errors.map Error.message).countP (duplicateOpening.isPrefixOf ·) =
        ∑ name ∈ (suite.cases.map (·.name)).toFinset.erase [],
          ((suite.cases.map (·.name)).count name - 1) := by
  refine ⟨errors_eq_nil_iff, ?_⟩
  have hothers : ∀ error ∈ (if suite.cases = [] then [Error.noCases suite.name] else []) ++
      suite.cases.flatMap (fun case => case.errors.map .inCase),
      ¬ ((duplicateOpening.isPrefixOf ·) ∘ Error.message) error = true := by
    intro error hmem hopening
    obtain ⟨name, rfl⟩ := error.isPrefixOf_message.1 hopening
    rcases List.mem_append.1 hmem with hnone | hcase
    · split at hnone <;> simp at hnone
    · simp at hcase
  have hduplicates : ∀ error ∈ (duplicateNames (suite.cases.map (·.name))).map .duplicateName,
      ((duplicateOpening.isPrefixOf ·) ∘ Error.message) error = true := by
    intro error hmem
    obtain ⟨name, -, rfl⟩ := List.mem_map.1 hmem
    exact Error.isPrefixOf_message _ |>.2 ⟨name, rfl⟩
  rw [List.countP_map, errors, List.countP_append, List.countP_eq_zero.2 hothers,
    List.countP_eq_length.2 hduplicates, Nat.zero_add, List.length_map, length_duplicateNames]

end Suite

end HttpConformance

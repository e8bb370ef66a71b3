import HttpConformance.Proofs.Text.Cut
import HttpConformance.Proofs.Text.Join
import HttpConformance.Resource.Path

/-!
# Paths that stay under their root

What a path names, said without the names that are kept while it is read: each `..` takes away the
nearest name before it, in whatever order, and a path stays under its root when no front of it goes
up more often than it names something.

Main definitions: `segments`, `isName`, `StaysInside`, `Leaves`, `IsRootOf`.

Main results:

- `map_keep_eq_some_iff`: the names that are kept are those that are left.
- `isSome_keep_iff`: names are kept to the end exactly when no front goes up too often.
- `make_eq_ok_iff`: when a path names a resource, and which one.
- `make_confined`: a path names a resource exactly when it stays under the root and leaves a name.
-/

namespace HttpConformance.ResourcePath

/-! ## Segments -/

theorem backslash_notMem_slashed (text : Text) : '\\' ∉ Text.replaceChar '\\' '/' text := by
  intro hback
  obtain ⟨c, -, hc⟩ := List.mem_map.1 hback
  split at hc
  · exact absurd hc (by decide)
  · rename_i hne
    exact hne hc

/-- The segment that goes up. -/
def parent : Text := ['.', '.']

/-- The segment names something: it is not empty, and neither one dot nor two. -/
def isName (segment : Text) : Bool :=
  segment ≠ [] ∧ segment ≠ ['.'] ∧ segment ≠ parent

/-- The segment counts: it names something or goes up. -/
def counts (segment : Text) : Bool :=
  isName segment ∨ segment = parent

/-- The segments of a path.  Backslashes count as slashes. -/
def segments (path : Text) : List Text :=
  (Text.replaceChar '\\' '/' (Text.trim path)).splitOn '/'

/-- No front of the segments goes up more often than it has names. -/
def StaysInside (segments : List Text) : Prop :=
  ∀ front, front <+: segments → front.count parent ≤ front.countP isName

/-- The names that are left of the segments that count, when each `..` has taken away the nearest
name before it. -/
inductive Leaves : List Text → List Text → Prop
  | names {names : List Text} (h : ∀ name ∈ names, isName name = true) : Leaves names names
  | takeAway {front rest names : List Text} {name : Text} (hname : isName name = true)
      (h : Leaves (front ++ rest) names) : Leaves (front ++ name :: parent :: rest) names

/-- What is left are names. -/
theorem Leaves.isName {segments names : List Text} (h : Leaves segments names) :
    ∀ name ∈ names, isName name = true := by
  induction h with
  | names h => exact h
  | takeAway _ _ ih => exact ih

/-- What is left was there. -/
theorem Leaves.subset {segments names : List Text} (h : Leaves segments names) :
    names ⊆ segments := by
  induction h with
  | names => exact fun _ => id
  | takeAway _ _ ih =>
    intro name hmem
    rcases List.mem_append.1 (ih hmem) with hfront | hrest
    · exact List.mem_append_left _ hfront
    · exact List.mem_append_right _ (List.mem_cons_of_mem _ (List.mem_cons_of_mem _ hrest))

/-! ## The names that are kept -/

theorem keep_name {segment : Text} (h : isName segment = true) (kept rest : List Text) :
    keep kept (segment :: rest) = keep (segment :: kept) rest := by
  obtain ⟨hne, hdot, hparent⟩ := of_decide_eq_true h
  conv_lhs => unfold keep
  rw [if_neg (not_or.2 ⟨hne, hdot⟩)]
  exact if_neg hparent

theorem keep_idle {segment : Text} (h : counts segment = false) (kept rest : List Text) :
    keep kept (segment :: rest) = keep kept rest := by
  have hidle : segment = [] ∨ segment = ['.'] := by
    by_contra hnot
    obtain ⟨hne, hdot⟩ := not_or.1 hnot
    have hcounts : counts segment = true := by
      by_cases hparent : segment = parent
      · simp [counts, hparent]
      · simp [counts, isName, hne, hdot, hparent]
    rw [h] at hcounts
    cases hcounts
  conv_lhs => unfold keep
  exact if_pos hidle

theorem keep_parent_nil (rest : List Text) : keep [] (parent :: rest) = none :=
  rfl

theorem keep_parent_cons (name : Text) (kept rest : List Text) :
    keep (name :: kept) (parent :: rest) = keep kept rest :=
  rfl

/-- A segment names something, goes up or does not count. -/
theorem isName_or_eq_parent_or (segment : Text) :
    isName segment = true ∨ segment = parent ∨ counts segment = false := by
  by_cases hname : isName segment = true
  · exact Or.inl hname
  · by_cases hparent : segment = parent
    · exact Or.inr (Or.inl hparent)
    · exact Or.inr (Or.inr (by simp [counts, hname, hparent]))

/-- Segments that do not count change nothing. -/
theorem keep_filter_counts (kept segments : List Text) :
    keep kept (segments.filter counts) = keep kept segments := by
  induction segments generalizing kept with
  | nil => rfl
  | cons segment rest ih =>
    rcases isName_or_eq_parent_or segment with hname | rfl | hidle
    · have hcounts : counts segment = true := by simp [counts, hname]
      rw [List.filter_cons_of_pos hcounts, keep_name hname, keep_name hname, ih]
    · rw [List.filter_cons_of_pos (by decide)]
      cases kept with
      | nil => rfl
      | cons name kept => exact ih kept
    · rw [List.filter_cons_of_neg (by simp [hidle]), keep_idle hidle, ih]

/-- Names alone are all kept. -/
theorem keep_names (kept : List Text) {names : List Text}
    (h : ∀ name ∈ names, isName name = true) : keep kept names = some (names.reverse ++ kept) := by
  induction names generalizing kept with
  | nil => rfl
  | cons name names ih =>
    obtain ⟨hname, hnames⟩ := List.forall_mem_cons.1 h
    rw [keep_name hname, ih _ hnames, List.reverse_cons, List.append_assoc, List.singleton_append]

/-- A name and the `..` behind it change nothing. -/
theorem keep_takeAway {name : Text} (hname : isName name = true) (kept front rest : List Text) :
    keep kept (front ++ name :: parent :: rest) = keep kept (front ++ rest) := by
  induction front generalizing kept with
  | nil => rw [List.nil_append, List.nil_append, keep_name hname, keep_parent_cons]
  | cons segment front ih =>
    rw [List.cons_append, List.cons_append]
    rcases isName_or_eq_parent_or segment with hsegment | rfl | hidle
    · rw [keep_name hsegment, keep_name hsegment, ih]
    · cases kept with
      | nil => rfl
      | cons _ kept => exact ih kept
    · rw [keep_idle hidle, keep_idle hidle, ih]

/-- The names that are left are kept. -/
theorem Leaves.keep_eq {segments names : List Text} (h : Leaves segments names) :
    keep [] segments = some names.reverse := by
  induction h with
  | names h => rw [keep_names [] h, List.append_nil]
  | takeAway hname _ ih => rw [keep_takeAway hname, ih]

/-- The names that are kept are left. -/
theorem leaves_of_keep {kept segments names : List Text}
    (hkept : ∀ name ∈ kept, isName name = true) (h : keep kept segments = some names) :
    Leaves (kept.reverse ++ segments.filter counts) names.reverse := by
  induction segments generalizing kept with
  | nil =>
    cases h
    rw [List.filter_nil, List.append_nil]
    exact .names fun name hmem => hkept name (List.mem_reverse.1 hmem)
  | cons segment rest ih =>
    rcases isName_or_eq_parent_or segment with hname | rfl | hidle
    · rw [keep_name hname] at h
      have hleaves := ih (List.forall_mem_cons.2 ⟨hname, hkept⟩) h
      have hcounts : counts segment = true := by simp [counts, hname]
      rwa [List.reverse_cons, List.append_assoc, List.singleton_append,
        ← List.filter_cons_of_pos hcounts] at hleaves
    · cases kept with
      | nil => cases h
      | cons name kept =>
        obtain ⟨hname, hkept⟩ := List.forall_mem_cons.1 hkept
        rw [List.filter_cons_of_pos (by decide), List.reverse_cons, List.append_assoc,
          List.singleton_append]
        exact .takeAway hname (ih hkept h)
    · rw [keep_idle hidle] at h
      rw [List.filter_cons_of_neg (by simp [hidle])]
      exact ih hkept h

/-- The names that are kept of some segments are those that are left of them. -/
theorem map_keep_eq_some_iff {segments names : List Text} :
    (keep [] segments).map List.reverse = some names ↔ Leaves (segments.filter counts) names := by
  constructor
  · intro h
    obtain ⟨kept, hkeep, rfl⟩ := Option.map_eq_some_iff.1 h
    exact leaves_of_keep (fun name hmem => absurd hmem List.not_mem_nil) hkeep
  · intro h
    rw [← keep_filter_counts, h.keep_eq, Option.map_some, List.reverse_reverse]

/-- Names are kept to the end exactly when no front of the segments goes up more often than it has
names, those included that were kept before. -/
theorem isSome_keep_iff (kept segments : List Text) :
    (keep kept segments).isSome = true ↔
      ∀ front, front <+: segments → front.count parent ≤ kept.length + front.countP isName := by
  induction segments generalizing kept with
  | nil => simp [keep]
  | cons segment rest ih =>
    -- No names are needed for the empty front, so only those matter that begin with the segment.
    have hcons : (∀ front, front <+: segment :: rest →
        front.count parent ≤ kept.length + front.countP isName) ↔
        ∀ front, front <+: rest → (segment :: front).count parent ≤
          kept.length + (segment :: front).countP isName := by
      constructor
      · exact fun h front hfront => h _ (List.cons_prefix_cons.2 ⟨rfl, hfront⟩)
      · intro h front hfront
        rcases List.prefix_cons_iff.1 hfront with rfl | ⟨front, rfl, hrest⟩
        · exact Nat.zero_le _
        · exact h front hrest
    rw [hcons]
    rcases isName_or_eq_parent_or segment with hname | rfl | hidle
    · have hne : segment ≠ parent := fun heq => by simp [heq, isName] at hname
      rw [keep_name hname, ih]
      refine forall₂_congr fun front _ => ?_
      rw [List.count_cons_of_ne hne, List.countP_cons_of_pos hname, List.length_cons]
      omega
    · have hnot : ¬ isName parent = true := by decide
      cases kept with
      | nil =>
        rw [keep_parent_nil]
        exact iff_of_false Bool.false_ne_true fun h => absurd (h [] List.nil_prefix) (by decide)
      | cons name kept =>
        rw [keep_parent_cons, ih]
        refine forall₂_congr fun front _ => ?_
        rw [List.count_cons_self, List.countP_cons_of_neg hnot, List.length_cons]
        omega
    · have hne : segment ≠ parent := fun heq => by simp [heq, counts] at hidle
      have hnot : ¬ isName segment = true := fun hname => by simp [counts, hname] at hidle
      rw [keep_idle hidle, ih]
      refine forall₂_congr fun front _ => ?_
      rw [List.count_cons_of_ne hne, List.countP_cons_of_neg hnot]

/-! ## Roots -/

/-- A root without the blanks around it, with slashes for its backslashes and without the slashes at
its end, except that slashes alone are one slash. -/
structure IsRootOf (normal root : Text) : Prop where
  eq_append : ∃ slashes, (∀ c ∈ slashes, c = '/') ∧
    Text.replaceChar '\\' '/' (Text.trim root) = normal ++ slashes
  ne_nil : Text.trim root ≠ [] → normal ≠ []
  last : normal = ['/'] ∨ normal.getLast? ≠ some '/'

/-- A root is what its text names, without the blanks, backslashes and slashes that do not count. -/
theorem isRootOf_normalizeRoot (root : Text) : IsRootOf (normalizeRoot root) root := by
  generalize hslashed : Text.replaceChar '\\' '/' (Text.trim root) = slashed
  obtain ⟨slashes, hslashes, heq⟩ := exists_eq_dropEndWhile_append (· == '/') slashed
  have hall : ∀ c ∈ slashes, c = '/' := fun c hc => by simpa using hslashes c hc
  unfold normalizeRoot
  rw [hslashed]
  dsimp only
  split
  · rename_i honly
    obtain ⟨hne, hnil⟩ := honly
    rw [hnil, List.nil_append] at heq
    obtain ⟨c, rest, hcons⟩ := List.exists_cons_of_ne_nil (heq ▸ hne)
    refine ⟨⟨rest, fun c hc => hall c (hcons ▸ List.mem_cons_of_mem _ hc), ?_⟩, ?_, Or.inl rfl⟩
    · rw [hslashed, heq, hcons, hall c (hcons ▸ List.mem_cons_self)]
      rfl
    · exact fun _ => List.cons_ne_nil _ _
  · rename_i hnot
    refine ⟨⟨slashes, hall, hslashed.trans heq⟩, fun hne hnil => hnot ⟨?_, hnil⟩, Or.inr ?_⟩
    · rintro rfl
      exact hne (List.map_eq_nil_iff.1 hslashed)
    · exact dropEndWhile_beq_eq_self_iff.1 (List.rdropWhile_idempotent (· == '/') slashed)

/-! ## Paths -/

/-- When a path names a resource, and which one. -/
theorem make_eq_ok_iff {root path : Text} {resource : ResourcePath} :
    make root path = .ok resource ↔
      ∃ names, Leaves ((segments path).filter counts) names ∧ names ≠ [] ∧
        resource = ⟨normalizeRoot root, Text.join ['/'] names,
          underRoot (normalizeRoot root) (Text.join ['/'] names)⟩ := by
  have hnames : ∀ names, namesOf? (Text.replaceChar '\\' '/' (Text.trim path)) = some names ↔
      Leaves ((segments path).filter counts) names := fun names => map_keep_eq_some_iff
  unfold make
  dsimp only
  constructor
  · intro h
    split at h
    · cases h
    · cases h
    · rename_i names hne hsome
      cases h
      exact ⟨names, (hnames names).1 hsome, hne, rfl⟩
  · rintro ⟨names, hleaves, hne, rfl⟩
    rw [(hnames names).2 hleaves]
    cases names with
    | nil => exact absurd rfl hne
    | cons name names => rfl

/-- Something is left of a path exactly when no front of it goes up too often. -/
theorem exists_leaves_iff {path : Text} :
    (∃ names, Leaves ((segments path).filter counts) names) ↔ StaysInside (segments path) := by
  have hinside := isSome_keep_iff [] (segments path)
  simp only [List.length_nil, Nat.zero_add] at hinside
  rw [StaysInside, ← hinside, ← Option.isSome_map, Option.isSome_iff_exists]
  exact exists_congr fun names => map_keep_eq_some_iff.symm

/-- Only one list of names is left. -/
theorem Leaves.unique {segments names names' : List Text} (h : Leaves segments names)
    (h' : Leaves segments names') : names = names' := by
  have hkeep := h.keep_eq
  rw [h'.keep_eq, Option.some.injEq, List.reverse_inj] at hkeep
  exact hkeep.symm

/-- The names that are left of a path have neither slashes nor backslashes. -/
theorem slash_notMem_of_leaves {path : Text} {names : List Text}
    (h : Leaves ((segments path).filter counts) names) :
    ∀ name ∈ names, '/' ∉ name ∧ '\\' ∉ name := by
  intro name hmem
  have hsegment : name ∈ segments path := List.mem_of_mem_filter (h.subset hmem)
  refine ⟨notMem_of_mem_splitOn hsegment, fun hback => ?_⟩
  exact backslash_notMem_slashed _ ((infix_of_mem_splitOn hsegment).subset hback)

/-- A path names a resource exactly when no front of it goes up more often than it has names, and
the names that are left of it are not none.  The resource is then found by these names, under the
root. -/
theorem make_confined (root path : Text) :
    ((∃ resource, make root path = .ok resource) ↔
      StaysInside (segments path) ∧
        ∀ names, Leaves ((segments path).filter counts) names → names ≠ []) ∧
    ∀ resource, make root path = .ok resource →
      ∃ names, Leaves ((segments path).filter counts) names ∧
        resource.path = Text.join ['/'] names ∧
        (∀ name ∈ names,
          name ≠ [] ∧ name ≠ ['.'] ∧ name ≠ ['.', '.'] ∧ '/' ∉ name ∧ '\\' ∉ name) ∧
        IsRootOf resource.root root ∧
        resource.fullPath =
          if resource.root = [] ∨ resource.root = ['.'] then resource.path
          else if resource.root = ['/'] then '/' :: resource.path
          else resource.root ++ '/' :: resource.path := by
  constructor
  · simp only [make_eq_ok_iff, ← exists_leaves_iff]
    constructor
    · rintro ⟨_, names, hleaves, hne, -⟩
      exact ⟨⟨names, hleaves⟩, fun _ hother => hleaves.unique hother ▸ hne⟩
    · rintro ⟨⟨names, hleaves⟩, hne⟩
      exact ⟨_, names, hleaves, hne names hleaves, rfl⟩
  · intro resource hok
    obtain ⟨names, hleaves, -, rfl⟩ := make_eq_ok_iff.1 hok
    refine ⟨names, hleaves, rfl, fun name hmem => ?_, isRootOf_normalizeRoot root, rfl⟩
    obtain ⟨hne, hdot, hparent⟩ := of_decide_eq_true (hleaves.isName name hmem)
    exact ⟨hne, hdot, hparent, slash_notMem_of_leaves hleaves name hmem⟩

/-- A resource under a root of its own. -/
def page : ResourcePath where
  root := "golden".toList
  path := "servlet/page.html".toList
  fullPath := "golden/servlet/page.html".toList

/-- A path that goes up and down again stays in its root. -/
theorem make_confined_page :
    make " golden\\ ".toList "./servlet//old\\..\\page.html".toList = .ok page ∧
      ∃ names,
        Leaves ((segments "./servlet//old\\..\\page.html".toList).filter counts) names ∧
        page.path = Text.join ['/'] names ∧
        (∀ name ∈ names,
          name ≠ [] ∧ name ≠ ['.'] ∧ name ≠ ['.', '.'] ∧ '/' ∉ name ∧ '\\' ∉ name) ∧
        IsRootOf page.root " golden\\ ".toList ∧
        page.fullPath =
          if page.root = [] ∨ page.root = ['.'] then page.path
          else if page.root = ['/'] then '/' :: page.path
          else page.root ++ '/' :: page.path :=
  have hpage : make " golden\\ ".toList "./servlet//old\\..\\page.html".toList = .ok page := by
    decide
  ⟨hpage, (make_confined _ _).2 page hpage⟩

end HttpConformance.ResourcePath

import HttpConformance.Simulation.FileTree
import HttpConformance.Proofs.Text.Cut
import Mathlib.Tactic.SplitIfs

/-!
# What is read of a file that has been written

A file that has been made is empty, and bytes that are added to it are read behind those that were
there.  Both rest on one fact: writing a file does not change where its path leads.  A walk meets
the file only at its end, since nothing but a directory is walked through, so every step on the way
looks at nodes that have not changed.

Main results:

- `FileTree.resolve_put`: where a path leads after a file has been written there.
- `FileTree.read_of_create`: a file that has been made is empty.
- `FileTree.append_of_read`: a file that can be read can be added to, and what is added is read
  behind the rest.
-/

namespace HttpConformance.Simulation.FileTree

variable {tree after : FileTree} {names start : List Text} {segments : List Text} {path : Text}

/-! ## One node -/

section

variable {node : Node}

theorem node?_nil (tree : FileTree) : tree.node? [] = some .directory :=
  if_pos rfl

/-- A place that is no directory has a name. -/
theorem ne_nil_of_node? (h : tree.node? names ≠ some .directory) : names ≠ [] := by
  rintro rfl
  exact h (node?_nil tree)

/-- A node that has been put somewhere is found there. -/
theorem node?_put_self (h : names ≠ []) : (tree.put names node).node? names = some node := by
  simp [node?, put, h]

/-- A node that has been put somewhere is not found elsewhere. -/
theorem node?_put_of_ne {other : List Text} (h : other ≠ names) :
    (tree.put names node).node? other = tree.node? other := by
  have hrest : (tree.nodes.filter (·.1 ≠ names)).lookup other = tree.nodes.lookup other := by
    induction tree.nodes with
    | nil => rfl
    | cons entry entries ih =>
      obtain ⟨key, value⟩ := entry
      by_cases hkey : key = names
      · have hother : (other == key) = false := beq_eq_false_iff_ne.2 (hkey ▸ h)
        rw [List.filter_cons_of_neg (by simpa using hkey), ih, List.lookup_cons, hother]
      · rw [List.filter_cons_of_pos (by simpa using hkey), List.lookup_cons, List.lookup_cons, ih]
  have hother : (other == names) = false := beq_eq_false_iff_ne.2 h
  simp only [node?, put, List.lookup_cons, hother, hrest]

end

/-! ## Walks that end at the node -/

/-- A node that is put elsewhere does not change a step of a walk. -/
theorem walkSegment_put_of_ne {node : Node} (h : start ≠ names) (segment : Text) :
    (tree.put names node).walkSegment start segment = tree.walkSegment start segment := by
  simp only [walkSegment, node?_put_of_ne h]

/-- From a name that is not there only empty segments can be walked. -/
theorem eq_nil_of_mem_of_walk (hnode : tree.node? start = none)
    (h : segments.foldlM tree.walkSegment start = .ok names) :
    ∀ segment ∈ segments, segment = [] := by
  induction segments with
  | nil => exact fun _ hmem => absurd hmem List.not_mem_nil
  | cons segment segments ih =>
    obtain ⟨next, hstep, hrest⟩ := exists_foldlM_cons h
    simp only [walkSegment, hnode] at hstep
    split_ifs at hstep with hempty
    cases hstep
    exact List.forall_mem_cons.2 ⟨hempty, ih hrest⟩

/-- A walk that leads to something other than a directory leads to a file that is put there.  If
nothing is there yet, the walk must not end in an empty segment, which asks for a directory. -/
theorem walk_put (hwalk : segments.foldlM tree.walkSegment start = .ok names)
    (hnode : tree.node? names ≠ some .directory)
    (hlast : tree.node? names = none → segments.getLast? ≠ some []) (content : Bytes) :
    segments.foldlM (tree.put names (.file content)).walkSegment start = .ok names := by
  induction segments generalizing start with
  | nil => exact hwalk
  | cons segment segments ih =>
    by_cases hstart : start = names
    · -- The walk stands where it will end, and cannot go on from there.
      subst hstart
      exfalso
      cases hfound : tree.node? start with
      | none =>
        refine hlast hfound ?_
        have hempty := eq_nil_of_mem_of_walk hfound hwalk
        rw [List.getLast?_eq_some_getLast (List.cons_ne_nil segment segments)]
        exact congrArg some (hempty _ (List.getLast_mem _))
      | some node =>
        cases node with
        | directory => exact hnode hfound
        | file old =>
          obtain ⟨next, hstep, -⟩ := exists_foldlM_cons hwalk
          simp [walkSegment, hfound] at hstep
    · obtain ⟨next, hstep, hrest⟩ := exists_foldlM_cons hwalk
      have hlater : tree.node? names = none → segments.getLast? ≠ some [] := by
        intro hfound
        cases segments with
        | nil => simp
        | cons next segments => simpa using hlast hfound
      rw [List.foldlM_cons, walkSegment_put_of_ne hstart, hstep]
      exact ih hrest hlater

/-! ## Paths -/

/-- Where a path leads does not change when a file is put there. -/
theorem resolve_put (hresolve : tree.resolve path = .ok names)
    (hnode : tree.node? names ≠ some .directory)
    (hlast : tree.node? names = none → path.getLast? ≠ some '/') (content : Bytes) :
    (tree.put names (.file content)).resolve path = .ok names := by
  unfold resolve walk at hresolve ⊢
  split_ifs at hresolve ⊢ with hnul hempty hlong hrooted
  all_goals
    refine walk_put hresolve hnode ?_ content
    exact fun hfound => getLast?_splitOn_ne_nil hempty (hlast hfound)

/-! ## Contents -/

/-- A file is read exactly when its path leads to it. -/
theorem read_eq_ok_iff {content : Bytes} :
    tree.read path = .ok content ↔
      ∃ names, tree.resolve path = .ok names ∧ tree.node? names = some (.file content) := by
  cases hresolve : tree.resolve path with
  | error fault => simp [read, hresolve, bind, Except.bind]
  | ok names =>
    simp only [read, hresolve, bind, Except.bind]
    cases hfound : tree.node? names with
    | none => simp [hfound]
    | some node => cases node <;> simp [hfound]

/-- What has been put where a path leads is read under the path. -/
theorem read_put (hresolve : tree.resolve path = .ok names)
    (hnode : tree.node? names ≠ some .directory)
    (hlast : tree.node? names = none → path.getLast? ≠ some '/') (content : Bytes) :
    (tree.put names (.file content)).read path = .ok content :=
  read_eq_ok_iff.2 ⟨names, resolve_put hresolve hnode hlast content,
    node?_put_self (ne_nil_of_node? hnode)⟩

/-- A file that has been made is empty, whatever was there before. -/
theorem read_of_createFile (h : tree.createFile path = .ok after) : after.read path = .ok [] := by
  unfold createFile at h
  split_ifs at h with hslash
  · cases hparent : tree.resolveParent path <;> rw [hparent] at h <;> cases h
  · cases hresolve : tree.resolve path with
    | error fault =>
      rw [hresolve] at h
      cases h
    | ok names =>
      simp only [hresolve, bind, Except.bind] at h
      split at h
      · cases h
      · rename_i hnode
        cases h
        exact read_put hresolve hnode (fun _ => hslash) []

/-- A file that was just made is empty. -/
theorem read_of_create (h : tree.create path = (after, none)) : after.read path = .ok [] := by
  unfold create at h
  split at h
  · rename_i made _
    cases hfile : made.createFile path with
    | error fault =>
      rw [hfile] at h
      cases h
    | ok written =>
      rw [hfile] at h
      cases h
      exact read_of_createFile hfile
  · rename_i hfailed
    exact absurd h (hfailed after)

/-- A file that can be read can be added to, and what is added is read behind the rest. -/
theorem append_of_read {content : Bytes} (h : tree.read path = .ok content) (bytes : Bytes) :
    ∃ after, tree.append path bytes = .ok after ∧ after.read path = .ok (content ++ bytes) := by
  obtain ⟨names, hresolve, hfile⟩ := read_eq_ok_iff.1 h
  refine ⟨tree.put names (.file (content ++ bytes)), ?_, ?_⟩
  · simp only [append, hresolve, hfile, bind, Except.bind]
  · exact read_put hresolve (by simp [hfile]) (by simp [hfile]) _

end HttpConformance.Simulation.FileTree

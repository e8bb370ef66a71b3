import HttpConformance.Log.Journal
import HttpConformance.Proofs.Simulation.FileContent
import HttpConformance.Proofs.Text.Join
import HttpConformance.Proofs.Text.Utf8

/-!
# A journal and its files

A journal only says what is to be written.  Here it stands beside the files that it is written to,
and what it says is done, so that the two can be spoken of together: what is in the current file
and what still waits behind it are, in this order, the entries that waited when the file was made
and those that have been added since.

Writing moves entries from one place to the other and changes nothing about the two together, be it
one block or many; a new file starts with nothing in it and leaves what waits where it is.  Before
there is a file, nothing is kept at all.

Main definitions: `Logbook`, `Logbook.Operation`, `Logbook.run`, `Logbook.Holds`,
`Journal.IsSettled`.

Main results:

- `Journal.content_eq_join`: the text that a journal hands over for writing.
- `Journal.flush_cases`: what writing does to a journal with a file.
- `Logbook.isSettled_of_perform`: few entries wait after an operation, and none without a file.
- `Logbook.Holds.exists_run`: with a file, adding and writing cannot fail and lose nothing.
- `Logbook.run_loses_no_entry`: what is in the file and in the journal after any operations.
-/

namespace HttpConformance

/-! ## Journals -/

namespace Journal

/-- Entries as they stand in a file, each ended by a line break. -/
def linesOf (entries : List Text) : Text :=
  entries.flatMap (· ++ ['\n'])

@[simp]
theorem linesOf_append (front rest : List Text) :
    linesOf (front ++ rest) = linesOf front ++ linesOf rest :=
  List.flatMap_append

/-- What is written is the entries joined by line breaks, with one more at the end. -/
theorem content_eq_join {journal : Journal} (h : journal.entries ≠ []) :
    journal.content = Text.join ['\n'] journal.entries ++ ['\n'] := by
  unfold content
  generalize journal.entries = entries at h
  induction entries with
  | nil => exact absurd rfl h
  | cons entry entries ih =>
    by_cases hrest : entries = []
    · simp [hrest, Text.join]
    · rw [join_cons_of_ne_nil _ _ hrest, List.flatMap_cons, ih hrest]
      simp only [List.append_assoc]

/-- Writing leaves a journal as it is when there is no need for it.  Otherwise it hands over all of
the entries that wait. -/
theorem flush_cases {journal : Journal} {path : Text} (h : journal.path = some path)
    (force : Bool) :
    (journal.flush force = (journal, none) ∧
        (journal.entries = [] ∨ force = false ∧ journal.entries.length < journal.limit)) ∨
      journal.flush force =
          ({ journal with entries := [] }, some ⟨path, linesOf journal.entries⟩) ∧
        journal.entries ≠ [] ∧ (force = true ∨ journal.limit ≤ journal.entries.length) := by
  unfold flush
  rw [h]
  dsimp only
  split
  · rename_i hneedless
    exact Or.inl ⟨rfl, by simpa using hneedless⟩
  · rename_i hneeded
    obtain ⟨hentries, hdue⟩ := not_or.1 hneeded
    exact Or.inr ⟨rfl, hentries, by simpa [Decidable.or_iff_not_imp_left] using hdue⟩

/-- Without a file there is nothing to do. -/
theorem flush_of_path_none {journal : Journal} (h : journal.path = none) (force : Bool) :
    journal.flush force = (journal, none) := by
  rw [flush, h]

/-- Without a log file, no entry is kept. -/
theorem add_of_path_none {journal : Journal} (h : journal.path = none) (entry : Text) :
    journal.add entry = (journal, none) := by
  rw [add, h]

/-- With a log file, an entry joins those that wait, and all are written if it is time. -/
theorem add_of_path_some {journal : Journal} {path : Text} (h : journal.path = some path)
    (entry : Text) :
    journal.add entry = flush false { journal with entries := journal.entries ++ [entry] } := by
  rw [add, h]

/-- A journal as an operation leaves it: fewer entries wait than are written at once, and none
without a file. -/
structure IsSettled (journal : Journal) : Prop where
  limit_eq : journal.limit = 50
  length_lt : journal.entries.length < journal.limit
  entries_eq_nil : journal.path = none → journal.entries = []

/-- Writing settles a journal, however many entries wait. -/
theorem isSettled_flush {journal : Journal} {path : Text} (hpath : journal.path = some path)
    (hlimit : journal.limit = 50) (force : Bool) : (journal.flush force).1.IsSettled := by
  have hpos : 0 < journal.limit := by omega
  rcases flush_cases hpath force with ⟨hflush, hneedless⟩ | ⟨hflush, -⟩
  · rw [hflush]
    refine ⟨hlimit, ?_, by simp [hpath]⟩
    rcases hneedless with hempty | ⟨-, hlt⟩
    · simpa [hempty] using hpos
    · exact hlt
  · rw [hflush]
    exact ⟨hlimit, hpos, fun _ => rfl⟩

/-- No entry waits after a write that was forced. -/
theorem IsSettled.entries_flush_true {journal : Journal} (h : journal.IsSettled) :
    (journal.flush true).1.entries = [] := by
  cases hpath : journal.path with
  | none =>
    rw [flush_of_path_none hpath]
    exact h.entries_eq_nil hpath
  | some path =>
    rcases flush_cases hpath true with ⟨hflush, hneedless⟩ | ⟨hflush, -⟩
    · rw [hflush]
      simpa using hneedless
    · rw [hflush]

end Journal

open Simulation (FileTree FileFault)

/-! ## Logbooks -/

/-- A journal and the files that it is written to. -/
structure Logbook where
  journal : Journal
  files : FileTree
  deriving DecidableEq, Repr

namespace Logbook

/-- What can be done with a logbook. -/
inductive Operation where
  | openFile (path : Text)
  | add (entry : Text)
  | flush (force : Bool)
  deriving DecidableEq, Repr

/-- The entry that an operation adds. -/
def Operation.entry? : Operation → Option Text
  | .add entry => some entry
  | .openFile _ | .flush _ => none

/-- The entries that are added, in order. -/
def added (operations : List Operation) : List Text :=
  operations.filterMap Operation.entry?

/-- None of the operations makes a file. -/
def OpensNone (operations : List Operation) : Prop :=
  ∀ operation ∈ operations, ∀ path, operation ≠ .openFile path

/-- A new journal beside some files. -/
def start (id : Text) (files : FileTree) : Logbook :=
  ⟨{ id }, files⟩

/-- Does with the files what a journal says. -/
def write (files : FileTree) : Journal × Option Appending → Except FileFault Logbook
  | (journal, none) => .ok ⟨journal, files⟩
  | (journal, some appending) =>
    (files.append appending.path (Utf8.encode appending.content)).map (⟨journal, ·⟩)

/-- Performs an operation, if the files let it. -/
def perform (log : Logbook) : Operation → Except FileFault Logbook
  | .openFile path =>
    match log.files.create path with
    | (files, none) => .ok ⟨log.journal.openFile path, files⟩
    | (_, some fault) => .error fault
  | .add entry => write log.files (log.journal.add entry)
  | .flush force => write log.files (log.journal.flush force)

/-- Performs operations one after the other. -/
def run (log : Logbook) (operations : List Operation) : Except FileFault Logbook :=
  operations.foldlM perform log

variable {log after : Logbook} {operation : Operation} {operations : List Operation}
variable {path : Text} {entries : List Text}

/-- Writing to a file changes nothing in the journal. -/
theorem journal_of_write {files : FileTree} {handed : Journal × Option Appending}
    (h : write files handed = .ok after) : after.journal = handed.1 := by
  obtain ⟨journal, appending⟩ := handed
  cases appending with
  | none =>
    cases h
    rfl
  | some appending =>
    rw [write] at h
    cases hfiles : files.append appending.path (Utf8.encode appending.content) with
    | error fault =>
      rw [hfiles] at h
      cases h
    | ok written =>
      rw [hfiles] at h
      cases h
      rfl

/-- A file that could be made is empty, and the journal has not lost what waited. -/
theorem eq_of_perform_openFile (h : log.perform (.openFile path) = .ok after) :
    after.journal = log.journal.openFile path ∧ after.files.read path = .ok [] := by
  rw [perform] at h
  split at h
  · rename_i files hcreate
    cases h
    exact ⟨rfl, FileTree.read_of_create hcreate⟩
  · cases h

/-! ## What waits -/

/-- A settled journal is settled after any operation. -/
theorem isSettled_of_perform (hlog : log.journal.IsSettled)
    (h : log.perform operation = .ok after) : after.journal.IsSettled := by
  cases operation with
  | openFile path =>
    rw [(eq_of_perform_openFile h).1]
    exact ⟨hlog.limit_eq, hlog.length_lt, fun hnone => nomatch hnone⟩
  | add entry =>
    rw [journal_of_write h]
    cases hpath : log.journal.path with
    | none =>
      rw [Journal.add_of_path_none hpath]
      exact hlog
    | some path =>
      rw [Journal.add_of_path_some hpath]
      apply Journal.isSettled_flush
      · exact hpath
      · exact hlog.limit_eq
  | flush force =>
    rw [journal_of_write h]
    cases hpath : log.journal.path with
    | none =>
      rw [Journal.flush_of_path_none hpath]
      exact hlog
    | some path => exact Journal.isSettled_flush hpath hlog.limit_eq force

/-- A run leaves a settled journal settled. -/
theorem isSettled_of_run (hlog : log.journal.IsSettled) (h : log.run operations = .ok after) :
    after.journal.IsSettled := by
  induction operations generalizing log with
  | nil =>
    cases h
    exact hlog
  | cons operation operations ih =>
    obtain ⟨next, hstep, hrest⟩ := exists_foldlM_cons h
    exact ih (isSettled_of_perform hlog hstep) hrest

theorem isSettled_start (id : Text) (files : FileTree) : (start id files).journal.IsSettled :=
  ⟨rfl, (by decide : 0 < 50), fun _ => rfl⟩

/-- No entry waits when the last operation was a write that was forced. -/
theorem entries_of_run_flush_true (hlog : log.journal.IsSettled)
    (hlast : operations.getLast? = some (.flush true)) (h : log.run operations = .ok after) :
    after.journal.entries = [] := by
  obtain ⟨before, rfl⟩ := List.getLast?_eq_some_iff.1 hlast
  obtain ⟨between, hbefore, hflush⟩ := exists_foldlM_append h
  obtain ⟨final, hwrite, hend⟩ := exists_foldlM_cons hflush
  cases hend
  rw [journal_of_write hwrite]
  exact (isSettled_of_run hlog hbefore).entries_flush_true

/-! ## Without a file -/

/-- Without a log file, nothing happens until one is opened. -/
theorem perform_of_path_none (hpath : log.journal.path = none)
    (hopens : ∀ path, operation ≠ .openFile path) : log.perform operation = .ok log := by
  cases operation with
  | openFile path => exact absurd rfl (hopens path)
  | add entry => rw [perform, Journal.add_of_path_none hpath, write]
  | flush force => rw [perform, Journal.flush_of_path_none hpath, write]

/-- Without a file nothing is kept and nothing is written. -/
theorem run_of_path_none (hpath : log.journal.path = none) (hopens : OpensNone operations) :
    log.run operations = .ok log := by
  induction operations with
  | nil => rfl
  | cons operation operations ih =>
    obtain ⟨hfirst, hlater⟩ := List.forall_mem_cons.1 hopens
    rw [run, List.foldlM_cons, perform_of_path_none hpath hfirst]
    exact ih hlater

/-! ## With a file -/

/-- The current file, and behind it what waits, are the lines of the entries. -/
structure Holds (log : Logbook) (path : Text) (entries : List Text) : Prop where
  path_eq : log.journal.path = some path
  exists_content : ∃ content, log.files.read path = .ok content ∧
    content ++ Utf8.encode (Journal.linesOf log.journal.entries) =
      Utf8.encode (Journal.linesOf entries)

/-- An entry that is to wait comes last. -/
theorem Holds.wait (h : log.Holds path entries) (entry : Text) :
    Holds ⟨{ log.journal with entries := log.journal.entries ++ [entry] }, log.files⟩ path
      (entries ++ [entry]) := by
  obtain ⟨content, hread, hcontent⟩ := h.exists_content
  refine ⟨h.path_eq, content, hread, ?_⟩
  rw [Journal.linesOf_append, Journal.linesOf_append, Utf8.encode_append, Utf8.encode_append,
    ← hcontent, List.append_assoc]

/-- What has been written was there to be written: it goes behind the rest, and none of it waits
any more. -/
theorem Holds.exists_write_flush (h : log.Holds path entries) (force : Bool) :
    ∃ after, write log.files (log.journal.flush force) = .ok after ∧
      after.Holds path entries := by
  rcases Journal.flush_cases h.path_eq force with ⟨hflush, -⟩ | ⟨hflush, -⟩
  · rw [hflush]
    exact ⟨log, rfl, h⟩
  · obtain ⟨content, hread, hcontent⟩ := h.exists_content
    obtain ⟨files, happend, hafter⟩ := FileTree.append_of_read hread
      (Utf8.encode (Journal.linesOf log.journal.entries))
    rw [hflush, write, happend]
    refine ⟨_, rfl, h.path_eq, _, hafter, ?_⟩
    rw [hcontent]
    exact List.append_nil _

/-- With a file, adding and writing cannot fail, and the entry comes behind the others. -/
theorem Holds.exists_perform (h : log.Holds path entries)
    (hopens : ∀ path, operation ≠ .openFile path) :
    ∃ after, log.perform operation = .ok after ∧
      after.Holds path (entries ++ operation.entry?.toList) := by
  cases operation with
  | openFile path => exact absurd rfl (hopens path)
  | add entry =>
    rw [perform, Journal.add_of_path_some h.path_eq]
    exact (h.wait entry).exists_write_flush false
  | flush force =>
    rw [perform, Operation.entry?, Option.toList_none, List.append_nil]
    exact h.exists_write_flush force

/-- As long as no other file is made, every entry that is added comes behind the others. -/
theorem Holds.exists_run (h : log.Holds path entries) (hopens : OpensNone operations) :
    ∃ after, log.run operations = .ok after ∧ after.Holds path (entries ++ added operations) := by
  -- Both the logbook and the entries that it holds go on from one operation to the next.
  induction operations generalizing log entries with
  | nil => exact ⟨log, rfl, by simpa [added] using h⟩
  | cons operation operations ih =>
    obtain ⟨hfirst, hlater⟩ := List.forall_mem_cons.1 hopens
    obtain ⟨next, hstep, hnext⟩ := h.exists_perform hfirst
    obtain ⟨after, hrest, hafter⟩ := ih hnext hlater
    refine ⟨after, ?_, ?_⟩
    · rw [run, List.foldlM_cons, hstep]
      exact hrest
    · have hadded : added (operation :: operations) =
          operation.entry?.toList ++ added operations := by
        cases hentry : operation.entry? <;> simp [added, hentry]
      rw [hadded, ← List.append_assoc]
      exact hafter

/-- In a new file there is nothing yet, and what waited before still waits. -/
theorem holds_of_perform_openFile (h : log.perform (.openFile path) = .ok after) :
    after.Holds path log.journal.entries := by
  obtain ⟨hjournal, hread⟩ := eq_of_perform_openFile h
  refine ⟨by rw [hjournal]; rfl, [], hread, ?_⟩
  rw [hjournal]
  rfl

/-! ## Any operations -/

/-- A logbook that operations have led to, from a new journal and without a fault:

- fewer than fifty entries wait, and none when the last operation was a write that was forced;
- from the operation on that has made the current file, the content of the file and behind it the
  lines of what waits are the lines of the entries that waited at that operation and of those that
  have been added since;
- what was done before there was a file has changed neither the journal nor the files. -/
theorem run_loses_no_entry {id : Text} {files : FileTree} {operations : List Operation}
    {log : Logbook} (h : (start id files).run operations = .ok log) :
    (log.journal.limit = 50 ∧ log.journal.entries.length < log.journal.limit) ∧
      (operations.getLast? = some (.flush true) → log.journal.entries = []) ∧
      (∀ before path later, operations = before ++ .openFile path :: later → OpensNone later →
        ∃ earlier, (start id files).run before = .ok earlier ∧
          log.Holds path (earlier.journal.entries ++ added later)) ∧
      ∀ before later, operations = before ++ later → OpensNone before →
        (start id files).run before = .ok (start id files) ∧
          (start id files).run later = .ok log := by
  have hsettled := isSettled_of_run (isSettled_start id files) h
  refine ⟨⟨hsettled.limit_eq, hsettled.length_lt⟩, fun hlast =>
    entries_of_run_flush_true (isSettled_start id files) hlast h, ?_, ?_⟩
  · rintro before path later rfl hopens
    obtain ⟨earlier, hbefore, hrest⟩ := exists_foldlM_append h
    obtain ⟨opened, hopen, hlater⟩ := exists_foldlM_cons hrest
    -- Operations have one outcome, so the run that keeps all entries is the one at hand.
    obtain ⟨final, hfinal, hholds⟩ := (holds_of_perform_openFile hopen).exists_run hopens
    obtain rfl : final = log := Except.ok.inj (hfinal.symm.trans hlater)
    exact ⟨earlier, hbefore, hholds⟩
  · rintro before later rfl hopens
    have hbefore : (start id files).run before = .ok (start id files) :=
      run_of_path_none rfl hopens
    obtain ⟨earlier, hearlier, hlater⟩ := exists_foldlM_append h
    obtain rfl : start id files = earlier := Except.ok.inj (hbefore.symm.trans hearlier)
    exact ⟨hbefore, hlater⟩

/-- One entry before there is a file and fifty-one behind it. -/
def fiftyOne : List Operation :=
  .add "early".toList :: .openFile "run.log".toList :: List.replicate 51 (.add "entry".toList)

/-- Of fifty-one entries one still waits when another file is made, and is the first one in it. -/
theorem run_loses_no_entry_fiftyOne :
    ∃ log, (start "app".toList FileTree.empty).run (fiftyOne ++
        [.openFile "logs/run.log".toList, .add "last".toList, .flush true]) = .ok log ∧
      log.journal.entries = [] ∧
      log.Holds "logs/run.log".toList ["entry".toList, "last".toList] := by
  have hwaits : ((start "app".toList FileTree.empty).run fiftyOne).map (·.journal.entries) =
      .ok ["entry".toList] := by decide +kernel
  have hruns : ((start "app".toList FileTree.empty).run (fiftyOne ++
      [.openFile "logs/run.log".toList, .add "last".toList, .flush true])).isOk = true := by
    decide +kernel
  cases hrun : (start "app".toList FileTree.empty).run (fiftyOne ++
      [.openFile "logs/run.log".toList, .add "last".toList, .flush true]) with
  | error fault =>
    rw [hrun] at hruns
    cases hruns
  | ok log =>
    obtain ⟨-, hforced, hheld, -⟩ := run_loses_no_entry hrun
    obtain ⟨earlier, hearlier, hholds⟩ := hheld fiftyOne _ _ rfl (by simp [OpensNone])
    have hentries : earlier.journal.entries = ["entry".toList] := by
      rw [hearlier] at hwaits
      exact Except.ok.inj hwaits
    rw [hentries] at hholds
    exact ⟨log, rfl, hforced (by decide), hholds⟩

end Logbook

end HttpConformance

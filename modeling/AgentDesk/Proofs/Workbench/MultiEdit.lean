import AgentDesk.Proofs.Workbench.Edit
import AgentDesk.Proofs.Workbench.Requests
/-!
# Several edits are single edits, all or none

A list of edits that applies to a file leaves it as single edits do that are made one after another.
If one of them fails, nothing is touched: neither the file, nor the directories that would have been
made for it.

## Main definitions

* `Edit.runAll?` — single edits one after another, up to the first that fails.
* `MultiEdit.Target` — the files and lists of edits for which the two are compared.
-/

namespace AgentDesk

open Text (Replacement)
open WorkbenchSettings (workplace)

variable {settings : WorkbenchSettings} {call : Invocation} {calls : List Invocation}
  {files : FileTree} {path : Path} {r first : Replacement} {edits rest : List Replacement}
  {raw content new : String} {k : Nat}

namespace Edit

/-- The files after calls that are made one after another, if all of them succeed. -/
def runAll? (settings : WorkbenchSettings) : List Invocation → FileTree → Option FileTree
  | [], files => some files
  | call :: calls, files =>
    match run settings call files with
    | (outcome, files) => if outcome.succeeded then runAll? settings calls files else none

/-- The calls ask for the edits of one file. -/
def Asks (calls : List Invocation) (raw : String) (edits : List Replacement) : Prop :=
  List.Forall₂ (fun call r => call.parameters? Request.shape = .ok ⟨raw, r⟩) calls edits

theorem runAll?_cons (settings : WorkbenchSettings) (call : Invocation) (calls : List Invocation)
    (files : FileTree) : runAll? settings (call :: calls) files =
      if (run settings call files).1.succeeded then
        runAll? settings calls (run settings call files).2
      else none := rfl

/-- Where nothing is wrong with a call, it creates a file or replaces something. -/
theorem run_eq (hparse : call.parameters? Request.shape = .ok ⟨raw, r⟩) (hraw : raw ≠ "")
    (hopen : Path.guardedBy? settings.home (settings.resolve raw) = none) (hne : r.old ≠ r.new)
    (files : FileTree) : run settings call files =
      if r.old.isEmpty then create files (settings.resolve raw) r.new
      else replace files (settings.resolve raw) r := by
  have hempty : ¬(r.old = "" ∧ r.new = "") := fun h => hne (h.1.trans h.2.symm)
  simp only [run, hparse, Bool.and_eq_true, String.isEmpty_iff, hraw, hempty, beq_iff_eq, hne,
    if_false, WorkbenchSettings.refusal?, hopen, Option.map_none]

theorem succeeded_changed (message : String) (path : Path) (old new : String) :
    (changed message path old new).succeeded := rfl

/-- Single edits of a file do to its text what the list of edits does, and fail if it fails. -/
theorem runAll?_of_file (hcalls : Asks calls raw edits) (hraw : raw ≠ "")
    (hopen : Path.guardedBy? settings.home (settings.resolve raw) = none)
    (hvalid : ∀ r ∈ edits, r.old ≠ "" ∧ r.old ≠ r.new)
    (hread : files.readText (settings.resolve raw) = .ok content) (k : Nat) :
    match MultiEdit.applyAll? k content edits with
    | .ok new => ∃ final, runAll? settings calls files = some final ∧
        final.readText (settings.resolve raw) = .ok new
    | .error _ => runAll? settings calls files = none := by
  induction hcalls generalizing files content k with
  | nil => exact ⟨files, rfl, hread⟩
  | @cons call r calls edits hparse _ ih =>
    obtain ⟨hold, hne⟩ := hvalid r List.mem_cons_self
    have hrun := run_eq hparse hraw hopen hne files
    rw [if_neg (by simpa using hold)] at hrun
    rw [MultiEdit.applyAll?, runAll?_cons, hrun]
    cases hperform : r.perform? content with
    | error fault =>
      rw [replace_eq_refused hread hperform]
      rfl
    | ok out =>
      obtain ⟨new, n⟩ := out
      obtain ⟨after, hreplace, hafter⟩ :=
        replace_eq_changed hread hperform (Replacement.ne_of_perform? hold hne hperform)
      rw [hreplace, if_pos (succeeded_changed _ _ _ _)]
      exact ih (fun r hr => hvalid r (List.mem_cons_of_mem _ hr)) hafter (k + 1)

/-- A file is created where none is. -/
theorem succeeded_create (hnone : files.exists? path = false) (hsound : files.Sound)
    (haccepts : files.Accepts path) (content : String) :
    (create files path content).1.succeeded ∧
      (create files path content).2.readText path = .ok content := by
  obtain ⟨e, hfind⟩ := FileTree.exists?_eq_false_iff.mp hnone
  obtain ⟨above, after, hmake, hwrite, modified, hfound⟩ := haccepts.write hsound content.toUTF8
  simp only [create, hfind, hmake, hwrite]
  exact ⟨rfl, FileTree.readText_of_find hfound⟩

/-- No file is created in the place of one. -/
theorem create_of_file (hread : files.readText path = .ok content) (new : String) :
    (create files path new).1.succeeded = false := by
  obtain ⟨modified, hfind⟩ := FileTree.find_of_readText hread
  simp only [create, hfind]
  rfl

end Edit

namespace MultiEdit

/-! ## What is wrong with a list of edits -/

theorem editFault?_eq_none_iff : editFault? k r = none ↔
    r.old ≠ r.new ∧ (1 < k → r.old ≠ "") := by
  rw [editFault?]
  split_ifs with hempty hsame hlater
  · simp only [Bool.and_eq_true, String.isEmpty_iff] at hempty
    simp [hempty.1, hempty.2]
  · simp [beq_iff_eq.mp hsame]
  · simp only [Bool.and_eq_true, decide_eq_true_eq, String.isEmpty_iff] at hlater
    simp [hlater.1, hlater.2]
  · simp only [Bool.and_eq_true, decide_eq_true_eq, String.isEmpty_iff, beq_iff_eq] at hsame hlater
    simpa [hsame] using fun h hold => hlater ⟨h, hold⟩

theorem firstFault?_eq_none (hk : 1 < k) (h : firstFault? k edits = none) :
    ∀ r ∈ edits, r.old ≠ "" ∧ r.old ≠ r.new := by
  induction edits generalizing k with
  | nil => simp
  | cons r rest ih =>
    rw [firstFault?, Option.or_eq_none_iff] at h
    obtain ⟨hne, hold⟩ := editFault?_eq_none_iff.mp h.1
    intro r' hr'
    rcases List.mem_cons.mp hr' with rfl | hr'
    · exact ⟨hold hk, hne⟩
    · exact ih (by omega) h.2 r' hr'

/-- **Nothing is wrong with a list of edits** that begins with one that changes something, and goes
on with others that replace something. -/
theorem fault?_eq_none (h : fault? edits = none) : ∃ first rest, edits = first :: rest ∧
    first.old ≠ first.new ∧ ∀ r ∈ rest, r.old ≠ "" ∧ r.old ≠ r.new := by
  cases edits with
  | nil => cases h
  | cons first rest =>
    rw [fault?, firstFault?, Option.or_eq_none_iff] at h
    · exact ⟨first, rest, rfl, (editFault?_eq_none_iff.mp h.1).1,
        firstFault?_eq_none (by omega) h.2⟩
    · simp

/-! ## Runs on files without carriage returns -/

theorem withoutReturns_eq_self (h : Text.contains "\r\n" content = false) :
    withoutReturns content = content := by
  rw [Text.contains, Text.occursIn, Option.isSome_eq_false_iff, Option.isNone_iff_eq_none] at h
  refine String.toList_injective ?_
  rw [withoutReturns, Text.toList_replace, Text.replaceText_of_none h]

theorem editExisting_eq_refused (hread : files.readText path = .ok content)
    (hfeeds : Text.contains "\r\n" content = false) {reason : String}
    (hfault : applyAll? 1 content edits = .error reason) :
    editExisting files path edits = .refused files reason := by
  obtain ⟨modified, hfind⟩ := FileTree.find_of_readText hread
  simp only [editExisting, hfind, hread, withoutReturns_eq_self hfeeds, hfault]

/-- A list of edits that applies leaves the file with the new text, and reports a failure if this is
the old one. -/
theorem editExisting_eq (hread : files.readText path = .ok content)
    (hfeeds : Text.contains "\r\n" content = false)
    (happly : applyAll? 1 content edits = .ok new) :
    (editExisting files path edits).2.readText path = .ok new ∧
      ((editExisting files path edits).1.succeeded = false ↔ new = content) := by
  obtain ⟨modified, hfind⟩ := FileTree.find_of_readText hread
  obtain ⟨after, hwrite, hfound⟩ := FileTree.exists_write hfind new.toUTF8
  by_cases hsame : new = content
  · simp only [editExisting, hfind, hread, withoutReturns_eq_self hfeeds, happly, beq_iff_eq, hsame,
      if_true]
    exact ⟨hread, by simp [ToolRun.refused, ToolOutcome.succeeded, ToolResponse.error]⟩
  · simp only [editExisting, hfind, hread, withoutReturns_eq_self hfeeds, happly, beq_iff_eq, hsame,
      if_false, hfeeds, Bool.false_eq_true, hwrite]
    exact ⟨FileTree.readText_of_find hfound, by simp [changed, ToolOutcome.succeeded,
      ToolResponse.withMetadata, ToolResponse.text]⟩

/-! ## Runs that create a file -/

theorem create_eq_refused (hnone : files.exists? path = false) {reason : String}
    (hfault : applyAll? 2 first.new rest = .error reason) :
    create files path first rest = .refused files reason := by
  simp only [create, hnone, Bool.false_eq_true, if_false, hfault]

theorem succeeded_create (hnone : files.exists? path = false) (hsound : files.Sound)
    (haccepts : files.Accepts path) (happly : applyAll? 2 first.new rest = .ok new) :
    (create files path first rest).1.succeeded ∧
      (create files path first rest).2.readText path = .ok new := by
  obtain ⟨above, after, hmake, hwrite, modified, hfound⟩ := haccepts.write hsound new.toUTF8
  simp only [create, hnone, Bool.false_eq_true, if_false, happly, hmake, hwrite]
  exact ⟨rfl, FileTree.readText_of_find hfound⟩

/-! ## Lists of edits and single edits -/

/-- Where a list of edits is made: in a file that holds text without carriage returns in front of
line feeds, or at a path where there is no file, but one can be written, and the first edit creates
it. -/
inductive Target (files : FileTree) (path : Path) (edits : List Replacement) : Prop
  | file (content : String) (text : files.readText path = .ok content)
    (feeds : Text.contains "\r\n" content = false)
  | absent (none : files.exists? path = false) (first : ∃ r ∈ edits.head?, r.old = "")
    (sound : files.Sound) (accepts : files.Accepts path)

theorem run_eq (hparse : call.parameters? Request.shape = .ok ⟨raw, first :: rest⟩)
    (hraw : raw ≠ "") (hopen : Path.guardedBy? settings.home (settings.resolve raw) = none)
    (hfault : fault? (first :: rest) = none) :
    run settings call files =
      if first.old.isEmpty then create files (settings.resolve raw) first rest
      else editExisting files (settings.resolve raw) (first :: rest) := by
  simp only [run, hparse, String.isEmpty_iff, hraw, if_false, hfault, WorkbenchSettings.refusal?,
    hopen, Option.map_none]

/-- All edits are made, or none: if single edits lead to other files, a run leaves the file at the
path with the text that it has there, and reports a failure only if it had this text before; if they
fail, the run is refused. -/
structure AllOrNone (files : FileTree) (path : Path) (single : Option FileTree) (run : ToolRun) :
    Prop where
  all : ∀ final, single = some final → ∃ content, final.readText path = .ok content ∧
    run.2.readText path = .ok content ∧
    (run.1.succeeded = false ↔ files.readText path = .ok content)
  none : single = none → ∃ message, run = .refused files message

theorem AllOrNone.of_refused {single : Option FileTree} {run : ToolRun} {message : String}
    (hsingle : single = Option.none) (hrun : run = .refused files message) :
    AllOrNone files path single run where
  all final hfinal := by simp [hsingle] at hfinal
  none _ := ⟨message, hrun⟩

theorem AllOrNone.of_made {final : FileTree} {single : Option FileTree} {run : ToolRun}
    (hsingle : single = some final) (hfinal : final.readText path = .ok new)
    (hrun : run.2.readText path = .ok new)
    (hsucceeded : run.1.succeeded = false ↔ files.readText path = .ok new) :
    AllOrNone files path single run where
  all final' hfinal' := by
    obtain rfl : final = final' := by simpa [hsingle] using hfinal'
    exact ⟨new, hfinal, hrun, hsucceeded⟩
  none hnone := by simp [hsingle] at hnone

/-- Edits of a file that holds text without carriage returns in front of line feeds. -/
theorem allOrNone_editExisting (hcalls : Edit.Asks calls raw edits) (hraw : raw ≠ "")
    (hopen : Path.guardedBy? settings.home (settings.resolve raw) = none)
    (hvalid : ∀ r ∈ edits, r.old ≠ "" ∧ r.old ≠ r.new)
    (hread : files.readText (settings.resolve raw) = .ok content)
    (hfeeds : Text.contains "\r\n" content = false) :
    AllOrNone files (settings.resolve raw) (Edit.runAll? settings calls files)
      (editExisting files (settings.resolve raw) edits) := by
  have hsingle := Edit.runAll?_of_file hcalls hraw hopen hvalid hread 1
  cases happly : applyAll? 1 content edits with
  | error reason =>
    rw [happly] at hsingle
    exact .of_refused hsingle (editExisting_eq_refused hread hfeeds happly)
  | ok new =>
    rw [happly] at hsingle
    obtain ⟨final, hfinal, hnew⟩ := hsingle
    obtain ⟨hrun, hsucceeded⟩ := editExisting_eq hread hfeeds happly
    refine .of_made hfinal hnew hrun (hsucceeded.trans ?_)
    rw [hread, Except.ok.injEq, eq_comm]

/-- Edits that begin with the creation of a file. -/
theorem allOrNone_create {after : FileTree} (hcalls : Edit.Asks calls raw rest) (hraw : raw ≠ "")
    (hopen : Path.guardedBy? settings.home (settings.resolve raw) = none)
    (hvalid : ∀ r ∈ rest, r.old ≠ "" ∧ r.old ≠ r.new)
    (hnone : files.exists? (settings.resolve raw) = false) (hsound : files.Sound)
    (haccepts : files.Accepts (settings.resolve raw))
    (hafter : after.readText (settings.resolve raw) = .ok first.new) :
    AllOrNone files (settings.resolve raw) (Edit.runAll? settings calls after)
      (create files (settings.resolve raw) first rest) := by
  have hsingle := Edit.runAll?_of_file hcalls hraw hopen hvalid hafter 2
  cases happly : applyAll? 2 first.new rest with
  | error reason =>
    rw [happly] at hsingle
    exact .of_refused hsingle (create_eq_refused hnone happly)
  | ok new =>
    rw [happly] at hsingle
    obtain ⟨final, hfinal, hnew⟩ := hsingle
    obtain ⟨hsucceeded, hrun⟩ := succeeded_create hnone hsound haccepts happly
    refine .of_made hfinal hnew hrun ?_
    have hunread : files.readText (settings.resolve raw) ≠ .ok new := fun hread => by
      obtain ⟨e, he⟩ := FileTree.exists?_eq_false_iff.mp hnone
      obtain ⟨modified, hfind⟩ := FileTree.find_of_readText hread
      rw [he] at hfind
      cases hfind
    simp [hsucceeded, hunread]

/-- **A list of edits is the composition of single edits, all or none.** If the single edits succeed
one after another, the list leaves the file with the text that they leave, and reports a failure
only if this is the text that was there before. If one of them fails, the list is refused and all
files are as they were. -/
theorem composes (hparse : call.parameters? Request.shape = .ok ⟨raw, edits⟩)
    (hcalls : Edit.Asks calls raw edits) (hfault : fault? edits = none)
    (hopen : Path.guardedBy? settings.home (settings.resolve raw) = none)
    (htarget : Target files (settings.resolve raw) edits) :
    AllOrNone files (settings.resolve raw) (Edit.runAll? settings calls files)
      (run settings call files) := by
  obtain ⟨first, rest, rfl, hne, hvalid⟩ := fault?_eq_none hfault
  cases hcalls with
  | @cons editCall _ editCalls _ hedit hrest =>
  by_cases hraw : raw = ""
  · refine .of_refused ?_ (?_ : _ = ToolRun.refused files "file_path is required")
    · rw [Edit.runAll?_cons, Edit.run, hedit]
      simp [hraw, ToolRun.refused, ToolOutcome.succeeded, ToolResponse.error]
    · simp [run, hparse, hraw]
  rw [run_eq hparse hraw hopen hfault]
  have hcreates (hold : first.old = "") : Edit.run settings editCall files =
      Edit.create files (settings.resolve raw) first.new := by
    rw [Edit.run_eq hedit hraw hopen hne files, if_pos (by simpa using hold)]
  cases htarget with
  | file content hread hfeeds =>
    by_cases hold : first.old = ""
    · -- There is a file already: neither way creates one.
      obtain ⟨modified, hfind⟩ := FileTree.find_of_readText hread
      have hexists : files.exists? (settings.resolve raw) = true := by
        simp [FileTree.exists?, hfind]
      rw [if_pos (by simpa using hold), create, if_pos hexists]
      refine .of_refused ?_ rfl
      rw [Edit.runAll?_cons, hcreates hold, Edit.create_of_file hread]
      rfl
    · rw [if_neg (by simpa using hold)]
      refine allOrNone_editExisting (.cons hedit hrest) hraw hopen ?_ hread hfeeds
      exact List.forall_mem_cons.mpr ⟨⟨hold, hne⟩, hvalid⟩
  | absent hnone hfirst hsound haccepts =>
    have hold : first.old = "" := by simpa using hfirst
    obtain ⟨hsucceeded, hafter⟩ := Edit.succeeded_create hnone hsound haccepts first.new
    rw [if_pos (by simpa using hold), Edit.runAll?_cons, hcreates hold, if_pos hsucceeded]
    exact allOrNone_create hrest hraw hopen hvalid hnone hsound haccepts hafter

/-- The second edit replaces what the first one has inserted. -/
def chainedEdits : List Replacement := [⟨"one", "1\r\n2", false⟩, ⟨"2\ntwo", "two", true⟩]

/-- The second edit finds two occurrences of what it replaces. -/
def failingEdits : List Replacement := [⟨"", "x x", false⟩, ⟨"x", "y", false⟩]

theorem asks_calls (raw : String) (edits : List Replacement) :
    Edit.Asks (edits.map fun r => Edit.Request.call ⟨raw, r⟩) raw edits := by
  induction edits with
  | nil => exact .nil
  | cons r edits ih => exact .cons (Edit.Request.parameters?_call ⟨raw, r⟩) ih

/-- Two edits are made in a file, and two others create none. -/
theorem composes_oneFile :
    (∃ final, Edit.runAll? workplace (chainedEdits.map fun r => Edit.Request.call ⟨"f", r⟩)
        (FileTree.oneFile "one\ntwo\n".toUTF8) = some final ∧
      final.readText (workplace.resolve "f") = .ok "1\r\ntwo\n" ∧
      (run workplace (Request.call ⟨"f", chainedEdits⟩)
        (FileTree.oneFile "one\ntwo\n".toUTF8)).2.readText (workplace.resolve "f") =
          .ok "1\r\ntwo\n") ∧
    (Edit.runAll? workplace (failingEdits.map fun r => Edit.Request.call ⟨"d/f", r⟩)
        (FileTree.oneFile "one\ntwo\n".toUTF8) = none ∧
      (run workplace (Request.call ⟨"d/f", failingEdits⟩)
        (FileTree.oneFile "one\ntwo\n".toUTF8)).2 = FileTree.oneFile "one\ntwo\n".toUTF8) := by
  have hread : (FileTree.oneFile "one\ntwo\n".toUTF8).readText (workplace.resolve "f") =
      .ok "one\ntwo\n" := FileTree.readText_of_find (FileTree.find_oneFile _)
  constructor
  · have hcalls := asks_calls "f" chainedEdits
    have hsingle := Edit.runAll?_of_file hcalls (by decide) (by decide) (by decide) hread 1
    have happly : applyAll? 1 "one\ntwo\n" chainedEdits = .ok "1\r\ntwo\n" := by decide
    rw [happly] at hsingle
    obtain ⟨final, hfinal, hnew⟩ := hsingle
    obtain ⟨content, hcontent, hrun, -⟩ := (composes (Request.parameters?_call ⟨"f", chainedEdits⟩)
      hcalls (by decide) (by decide) (.file _ hread (by decide))).all final hfinal
    rw [hnew, Except.ok.injEq] at hcontent
    exact ⟨final, hfinal, hnew, hcontent ▸ hrun⟩
  · have hcalls := asks_calls "d/f" failingEdits
    have hplace : workplace.resolve "d/f" = Path.ofNames ["w", "d", "f"] := by decide
    have hnone := FileTree.not_exists_oneFile_below "one\ntwo\n".toUTF8
    have hsound := FileTree.sound_oneFile "one\ntwo\n".toUTF8
    have haccepts := FileTree.accepts_oneFile_below "one\ntwo\n".toUTF8
    rw [← hplace] at hnone haccepts
    have hsingle : Edit.runAll? workplace (failingEdits.map fun r => Edit.Request.call ⟨"d/f", r⟩)
        (FileTree.oneFile "one\ntwo\n".toUTF8) = none := by
      obtain ⟨hsucceeded, hcreated⟩ := Edit.succeeded_create hnone hsound haccepts "x x"
      have hcreate : Edit.run workplace (Edit.Request.call ⟨"d/f", ⟨"", "x x", false⟩⟩)
            (FileTree.oneFile "one\ntwo\n".toUTF8) =
          Edit.create (FileTree.oneFile "one\ntwo\n".toUTF8) (workplace.resolve "d/f") "x x" := by
        rw [Edit.run_eq (Edit.Request.parameters?_call ⟨"d/f", ⟨"", "x x", false⟩⟩) (by decide)
          (by decide) (by decide), if_pos (by decide)]
      rw [failingEdits, List.map_cons, Edit.runAll?_cons, hcreate, if_pos hsucceeded]
      exact Edit.runAll?_of_file (asks_calls "d/f" [⟨"x", "y", false⟩]) (by decide) (by decide)
        (by decide) hcreated 2
    obtain ⟨message, hrun⟩ := (composes (Request.parameters?_call ⟨"d/f", failingEdits⟩) hcalls
      (by decide) (by decide) (.absent hnone ⟨_, rfl, rfl⟩ hsound haccepts)).none hsingle
    exact ⟨hsingle, by rw [hrun]; rfl⟩

end MultiEdit

end AgentDesk

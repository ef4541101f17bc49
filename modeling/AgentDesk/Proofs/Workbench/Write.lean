import AgentDesk.Proofs.Files
import AgentDesk.Proofs.Text.LineChanges
import AgentDesk.Proofs.Workbench.Requests
/-!
# What writing a file establishes

After a run the file holds the content that was asked for, and what is reported is what has changed.
There is one exception: a file that holds no text is taken for an empty one, so that the empty
content is not written over it.

## Main definitions

* `FileTree.HoldsNoText` — a file holds bytes that are no text.
* `Write.Reports` — an answer with the numbers of lines added and removed.
* `Write.Establishes` — the content is there, and what is reported is true.
-/

namespace AgentDesk

/-- A file holds bytes that are no text. -/
def FileTree.HoldsNoText (t : FileTree) (path : Path) : Prop :=
  ∃ bytes, t.read path = .ok bytes ∧ String.fromUTF8? bytes = none

namespace Write

open WorkbenchSettings (workplace)

variable {settings : WorkbenchSettings} {call : Invocation} {files : FileTree} {path : Path}
  {raw content : String} {made : ToolRun}

/-- The answer of a run that found nothing to do. -/
def unchanged : ToolOutcome := .ok (.error "File content unchanged. No write performed.")

/-- The answer of a run that has written, with the numbers of lines that only one of the texts has.
-/
def Reports (path : Path) (earlier content : String) (outcome : ToolOutcome) : Prop :=
  ∃ message, outcome = .ok ((ToolResponse.text message).withMetadata (.object
    [("file_path", .string path.text),
      ("additions", .nat ((Text.lines content : Multiset String) - Text.lines earlier).card),
      ("removals", .nat ((Text.lines earlier : Multiset String) - Text.lines content).card)]))

/-- After a run the file holds the content. The run says that nothing was to be written if the file
held these bytes before, and reports the changed lines otherwise. -/
structure Establishes (files : FileTree) (path : Path) (content : String) (made : ToolRun) :
    Prop where
  holds : made.2.read path = .ok content.toUTF8
  unchanged_iff : made.1 = unchanged ↔ files.read path = .ok content.toUTF8
  reported : made.1 ≠ unchanged → Reports path (earlierText files path) content made.1

/-- A file that is there holds no text if none can be read from it. -/
theorem holdsNoText_iff (hsound : files.Sound) (hdirectory : files.isDirectory path = false) :
    files.HoldsNoText path ↔
      files.exists? path = true ∧ ∀ text, files.readText path ≠ .ok text := by
  constructor
  · rintro ⟨bytes, hread, hnone⟩
    obtain ⟨modified, hfind⟩ := FileTree.read_eq_ok_iff.mp hread
    refine ⟨FileTree.exists?_iff.mpr ⟨_, hfind⟩, fun text htext => ?_⟩
    rw [FileTree.readText_eq_ok_iff, hread, Except.ok.injEq, ← FileTree.fromUTF8?_eq_some_iff,
      hnone] at htext
    cases htext
  · rintro ⟨hexists, hno⟩
    obtain ⟨bytes, hread⟩ := hsound.exists_read hexists hdirectory
    refine ⟨bytes, hread, Option.eq_none_iff_forall_ne_some.mpr fun text htext => hno text ?_⟩
    rw [FileTree.readText_eq_ok_iff, hread, FileTree.fromUTF8?_eq_some_iff.mp htext]

theorem Reports.ne_unchanged {earlier : String} {outcome : ToolOutcome}
    (h : Reports path earlier content outcome) : outcome ≠ unchanged := by
  obtain ⟨message, rfl⟩ := h
  simp [unchanged, ToolResponse.withMetadata, ToolResponse.text, ToolResponse.error]

/-- **A file is taken for unchanged** if it holds the content, or if it holds no text and the
content is empty. -/
theorem taken_for_unchanged_iff (hsound : files.Sound) (hdirectory : files.isDirectory path = false)
    (content : String) :
    (files.exists? path = true ∧ earlierText files path = content) ↔
      files.read path = .ok content.toUTF8 ∨ (content = "" ∧ files.HoldsNoText path) := by
  rw [holdsNoText_iff hsound hdirectory, ← FileTree.readText_eq_ok_iff]
  cases htext : files.readText path with
  | ok text =>
    obtain ⟨modified, hfind⟩ := FileTree.find_of_readText htext
    have hexists := FileTree.exists?_iff.mpr ⟨_, hfind⟩
    simp [earlierText, htext, hexists]
  | error fault =>
    simp only [earlierText, htext, reduceCtorEq, false_or, ne_eq, not_false_eq_true, implies_true,
      and_true]
    exact ⟨fun h => ⟨h.2.symm, h.1⟩, fun h => ⟨h.2, h.1.symm⟩⟩

/-- A run that writes and reports what it has changed establishes the content. -/
theorem establishes_of_changed (hreports : Reports path (earlierText files path) content made.1)
    (hholds : made.2.read path = .ok content.toUTF8)
    (hchanged : files.read path ≠ .ok content.toUTF8) : Establishes files path content made where
  holds := hholds
  unchanged_iff := iff_of_false hreports.ne_unchanged hchanged
  reported _ := hreports

/-- Nothing needs to be written where the content is already. -/
theorem establishes_of_unchanged (hsame : files.read path = .ok content.toUTF8) :
    Establishes files path content (unchanged, files) where
  holds := hsame
  unchanged_iff := iff_of_true rfl hsame
  reported h := absurd rfl h

/-- A run on a path where no directory lies stores the content there. -/
theorem run_eq (hparse : call.parameters? Request.shape = .ok ⟨raw, content⟩) (hraw : raw ≠ "")
    (hopen : Path.guardedBy? settings.home (settings.resolve raw) = none)
    (hdirectory : files.isDirectory (settings.resolve raw) = false) :
    run settings call files = store files (settings.resolve raw) content := by
  simp only [run, hparse, String.isEmpty_iff, hraw, if_false, WorkbenchSettings.refusal?, hopen,
    Option.map_none, hdirectory, Bool.false_eq_true]

theorem store_of_unchanged (hexists : files.exists? path = true)
    (hsame : earlierText files path = content) : store files path content = (unchanged, files) := by
  simp only [store, hexists, hsame, Bool.true_and, beq_self_eq_true, if_true]
  rfl

theorem store_of_changed (hchanged : ¬(files.exists? path = true ∧
    earlierText files path = content))
    (hsound : files.Sound) (haccepts : files.Accepts path) :
    Reports path (earlierText files path) content (store files path content).1 ∧
      (store files path content).2.read path = .ok content.toUTF8 := by
  obtain ⟨above, after, hmake, hwrite, modified, hfound⟩ := haccepts.write hsound content.toUTF8
  simp only [store, Bool.and_eq_true, beq_iff_eq, hchanged, if_false, hmake, hwrite,
    Text.lineChanges_eq]
  exact ⟨⟨_, rfl⟩, FileTree.read_eq_ok_iff.mpr ⟨modified, hfound⟩⟩

/-- **A run establishes the content unless it is empty and the file holds no text.** Then nothing is
written, although the file does not hold the content. -/
theorem establishes_iff (hparse : call.parameters? Request.shape = .ok ⟨raw, content⟩)
    (hraw : raw ≠ "")
    (hopen : Path.guardedBy? settings.home (settings.resolve raw) = none) (hsound : files.Sound)
    (hdirectory : files.isDirectory (settings.resolve raw) = false)
    (haccepts : files.Accepts (settings.resolve raw)) :
    (Establishes files (settings.resolve raw) content (run settings call files) ↔
      ¬(content = "" ∧ files.HoldsNoText (settings.resolve raw))) ∧
    (content = "" ∧ files.HoldsNoText (settings.resolve raw) →
      run settings call files = (unchanged, files)) := by
  rw [run_eq hparse hraw hopen hdirectory]
  have htaken := taken_for_unchanged_iff hsound hdirectory content
  have hlost (h : content = "" ∧ files.HoldsNoText (settings.resolve raw)) :
      store files (settings.resolve raw) content = (unchanged, files) := by
    obtain ⟨hexists, hsame⟩ := htaken.mpr (.inr h)
    exact store_of_unchanged hexists hsame
  refine ⟨⟨fun hest hcase => ?_, fun hcase => ?_⟩, hlost⟩
  · -- The content would be the bytes of a text.
    obtain ⟨bytes, hread, hnone⟩ := hcase.2
    have hholds := hest.holds
    rw [hlost hcase, hread, Except.ok.injEq, ← FileTree.fromUTF8?_eq_some_iff, hnone] at hholds
    cases hholds
  · by_cases hsame : files.exists? (settings.resolve raw) = true ∧
        earlierText files (settings.resolve raw) = content
    · rw [store_of_unchanged hsame.1 hsame.2]
      exact establishes_of_unchanged ((htaken.mp hsame).resolve_right hcase)
    · obtain ⟨hreports, hholds⟩ := store_of_changed hsame hsound haccepts
      exact establishes_of_changed hreports hholds fun hread => hsame (htaken.mpr (.inl hread))

/-- Over bytes that are no text, a text is written, but nothing is not. -/
theorem establishes_over_bytes :
    Establishes (FileTree.oneFile ⟨#[255]⟩) (workplace.resolve "f") "a\n"
      (run workplace (Request.call ⟨"f", "a\n"⟩) (FileTree.oneFile ⟨#[255]⟩)) ∧
    ¬Establishes (FileTree.oneFile ⟨#[255]⟩) (workplace.resolve "f") ""
      (run workplace (Request.call ⟨"f", ""⟩) (FileTree.oneFile ⟨#[255]⟩)) ∧
    (run workplace (Request.call ⟨"f", ""⟩) (FileTree.oneFile ⟨#[255]⟩)).2.read
      (workplace.resolve "f") = .ok ⟨#[255]⟩ := by
  have hplace : workplace.resolve "f" = Path.ofNames ["w", "f"] := by decide
  have hfind := FileTree.find_oneFile ⟨#[255]⟩
  have haccepts := FileTree.accepts_oneFile ⟨#[255]⟩
  rw [← hplace] at hfind haccepts
  have hread := FileTree.read_eq_ok_iff.mpr ⟨_, hfind⟩
  have hdirectory : (FileTree.oneFile ⟨#[255]⟩).isDirectory (workplace.resolve "f") = false := by
    rw [FileTree.isDirectory, hfind]
  have hno : (FileTree.oneFile ⟨#[255]⟩).HoldsNoText (workplace.resolve "f") :=
    ⟨_, hread, by decide⟩
  have hrun (content : String) := establishes_iff (Request.parameters?_call ⟨"f", content⟩)
    (by decide) (by decide) (FileTree.sound_oneFile ⟨#[255]⟩) hdirectory haccepts
  refine ⟨(hrun "a\n").1.mpr (by simp), fun hest => (hrun "").1.mp hest ⟨rfl, hno⟩, ?_⟩
  rw [(hrun "").2 ⟨rfl, hno⟩, hread]

end Write

end AgentDesk

import AgentDesk.Proofs.Workbench.MultiEdit
/-!
# Line ends of an edited file

Several edits at once see a file with line feeds only. If there was a carriage return in front of
one of them, every line feed is written with one again. The line ends of a file and of inserted
texts survive this exactly if no line feed of the file that is still there stood alone, and none was
inserted with its carriage return.

## Main definitions

* `Glyph` — a character as the edits see it, and where it comes from.
* `Glyph.ofFile`, `Glyph.edited` — the glyphs of a file, and those after all edits.
* `Glyph.textFrom` — the text that keeps the line ends.
* `Glyph.Restorable` — this text is what is written.
-/

namespace AgentDesk.MultiEdit

open Text (Replacement cutAt? piecesAt replaceText)
open WorkbenchSettings (workplace)

/-! ## Characters and where they come from -/

/-- What edits see as one character: a character of the file, a line feed with a carriage return in
front of it in the file, or a character that an edit has inserted. -/
inductive Glyph where
  | kept (c : Char)
  | keptBreak
  | inserted (c : Char)
deriving DecidableEq

namespace Glyph

variable {gs : List Glyph} {r : Replacement} {edits : List Replacement} {a b s : List Char}
  {content new : String} {k : Nat}

/-- The character that edits see. -/
def shown : Glyph → Char
  | kept c => c
  | keptBreak => '\n'
  | inserted c => c

/-- The glyphs of a file. -/
def ofFile : List Char → List Glyph
  | '\r' :: '\n' :: s => keptBreak :: ofFile s
  | c :: s => kept c :: ofFile s
  | [] => []

/-- How a glyph is written so that line ends are kept: a line break of the file as it stood there,
and an inserted one with a single carriage return. `behind` tells whether a carriage return was
inserted right in front of the glyph. -/
def written (behind : Bool) : Glyph → List Char
  | kept c => [c]
  | keptBreak => ['\r', '\n']
  | inserted c => if c = '\n' ∧ behind = false then ['\r', '\n'] else [c]

/-- The text that keeps all line ends. -/
def textFrom (behind : Bool) : List Glyph → List Char
  | [] => []
  | g :: gs => g.written behind ++ textFrom (g == inserted '\r') gs

/-- The text of a file is made of its glyphs. -/
theorem textFrom_ofFile (s : List Char) : textFrom false (ofFile s) = s := by
  fun_induction ofFile s with
  | case1 s ih => exact congrArg (['\r', '\n'] ++ ·) ih
  | case2 c s _ ih => exact congrArg ([c] ++ ·) ih
  | case3 => rfl

/-- What edits see of a file is its text with line feeds only. -/
theorem map_shown_ofFile (s : List Char) :
    (ofFile s).map shown = replaceText ['\r', '\n'] ['\n'] s := by
  fun_induction ofFile s with
  | case1 s ih =>
    rw [List.map_cons, ih, show '\r' :: '\n' :: s = ['\r', '\n'] ++ s from rfl,
      Text.replaceText_append (by simp)]
    rfl
  | case2 c s hbreak ih =>
    have hfront : ¬['\r', '\n'] <+: c :: s := by
      rintro ⟨rest, hrest⟩
      obtain ⟨hc, hs⟩ := List.cons.inj hrest
      exact hbreak rest hc.symm hs.symm
    rw [List.map_cons, ih, Text.replaceText_cons (by simp) hfront]
    rfl
  | case3 => rw [Text.replaceText_nil (by simp)]; rfl

theorem inserted_notMem_ofFile (c : Char) (s : List Char) : inserted c ∉ ofFile s := by
  fun_induction ofFile s with
  | case1 s ih => simpa using ih
  | case2 d s _ ih => simpa using ih
  | case3 => simp

/-- A line feed of a file stands alone where no carriage return is in front of it. -/
theorem kept_feed_mem_ofFile (s : List Char) : kept '\n' ∈ ofFile s ↔
    ∃ above below, s = above ++ '\n' :: below ∧ above.getLast? ≠ some '\r' := by
  fun_induction ofFile s with
  | case1 s ih =>
    simp only [List.mem_cons, reduceCtorEq, false_or, ih]
    constructor
    · rintro ⟨above, below, rfl, habove⟩
      refine ⟨'\r' :: '\n' :: above, below, rfl, ?_⟩
      cases above <;> simp_all
    · rintro ⟨above, below, hs, habove⟩
      match above with
      | [] => simp at hs
      | [c] =>
        obtain ⟨rfl, -⟩ := List.cons.inj hs
        simp at habove
      | c :: d :: above =>
        obtain ⟨-, -, rfl⟩ : '\r' = c ∧ '\n' = d ∧ s = above ++ '\n' :: below := by simpa using hs
        refine ⟨above, below, rfl, ?_⟩
        cases above <;> simp_all
  | case2 c s hbreak ih =>
    simp only [List.mem_cons, kept.injEq, ih]
    constructor
    · rintro (rfl | ⟨above, below, rfl, habove⟩)
      · exact ⟨[], s, rfl, by simp⟩
      · refine ⟨c :: above, below, rfl, ?_⟩
        cases above with
        | nil => simpa using fun hc => hbreak below hc rfl
        | cons d above => simpa using habove
    · rintro ⟨above, below, hs, habove⟩
      cases above with
      | nil => exact .inl (List.cons.inj hs).1.symm
      | cons d above =>
        obtain ⟨rfl, rfl⟩ := List.cons.inj hs
        refine .inr ⟨above, below, rfl, ?_⟩
        cases above <;> simp_all
  | case3 => simp

/-! ## Edits -/

/-- The glyphs of the pieces between the occurrences are kept, and those of the occurrences replaced
by inserted ones. -/
def keepPieces (old new : List Char) : List (List Char) → List Glyph → List Glyph
  | w :: v :: ws, gs => gs.take w.length ++ new.map inserted ++
    keepPieces old new (v :: ws) (gs.drop (w.length + old.length))
  | _, gs => gs

/-- The glyphs after an edit. -/
def edit (r : Replacement) (gs : List Glyph) : List Glyph :=
  keepPieces r.old.toList r.new.toList (piecesAt r.old.toList (gs.map shown)) gs

/-- The glyphs after edits that are made one after another. -/
def edited (edits : List Replacement) (gs : List Glyph) : List Glyph :=
  edits.foldl (fun gs r => edit r gs) gs

theorem edit_of_none (h : cutAt? r.old.toList (gs.map shown) = none) : edit r gs = gs := by
  rw [edit, Text.piecesAt_of_none h, keepPieces]
  simp

theorem edit_of_cut (hold : r.old.toList ≠ [])
    (h : cutAt? r.old.toList (gs.map shown) = some (a, b)) :
    (gs.drop (a.length + r.old.toList.length)).map shown = b ∧
      edit r gs = gs.take a.length ++ r.new.toList.map inserted ++
        edit r (gs.drop (a.length + r.old.toList.length)) := by
  have hrest : (gs.drop (a.length + r.old.toList.length)).map shown = b := by
    rw [List.map_drop, (Text.eq_of_cutAt? h).1, ← List.length_append, List.drop_left]
  refine ⟨hrest, ?_⟩
  obtain ⟨w, ws, hws⟩ := List.exists_cons_of_ne_nil (Text.piecesAt_ne_nil hold b)
  rw [edit, Text.piecesAt_of_cut hold h, hws, keepPieces, ← hws, ← hrest, ← edit]

/-- **Edits see the glyphs of what they make.** -/
theorem map_shown_edit (hold : r.old ≠ "") (gs : List Glyph) :
    (edit r gs).map shown = replaceText r.old.toList r.new.toList (gs.map shown) := by
  have hne := Replacement.toList_ne_nil hold
  -- The induction goes from cut to cut, and the glyphs behind a cut show the text behind it.
  generalize hs : gs.map shown = s
  induction s using Text.cut_induction hne generalizing gs with
  | none s hcut =>
    rw [edit_of_none (hs ▸ hcut), Text.replaceText_of_none hcut, hs]
  | some s a b hcut ih =>
    obtain ⟨hrest, hedit⟩ := edit_of_cut hne (hs ▸ hcut)
    have hfront : (gs.take a.length).map shown = a := by
      rw [List.map_take, hs, (Text.eq_of_cutAt? hcut).1, List.append_assoc, List.take_left]
    rw [hedit, Text.replaceText_of_cut hne hcut, List.map_append, List.map_append, hfront,
      ih _ hrest, List.map_map, show shown ∘ inserted = id from rfl, List.map_id]

theorem map_shown_edited (hvalid : ∀ r ∈ edits, r.old ≠ "")
    (hcontent : gs.map shown = content.toList)
    (happly : applyAll? k content edits = .ok new) : (edited edits gs).map shown = new.toList := by
  induction edits generalizing gs content k with
  | nil =>
    cases happly
    exact hcontent
  | cons r edits ih =>
    rw [applyAll?] at happly
    cases hperform : r.perform? content with
    | error fault => simp [hperform] at happly
    | ok out =>
      obtain ⟨next, n⟩ := out
      rw [hperform] at happly
      refine ih (fun r hr => hvalid r (List.mem_cons_of_mem _ hr)) ?_ happly
      obtain ⟨-, rfl, -⟩ := Replacement.perform?_eq_ok_iff.mp hperform
      rw [map_shown_edit (hvalid r List.mem_cons_self), hcontent, Text.toList_replace]

/-! ## What is written -/

/-- How a character is written in a file with carriage returns. -/
def returned (c : Char) : List Char := if c = '\n' then ['\r', '\n'] else [c]

theorem toList_withReturns (text : String) :
    (withReturns text).toList = text.toList.flatMap returned := by
  rw [withReturns, Text.toList_replace]
  induction text.toList with
  | nil => exact Text.replaceText_nil (by simp)
  | cons c s ih =>
    by_cases hc : c = '\n'
    · rw [hc, show '\n' :: s = "\n".toList ++ s by simp, Text.replaceText_append (by simp), ih]
      simp [returned]
    · have hfront : ¬"\n".toList <+: c :: s := by simpa using Ne.symm hc
      rw [Text.replaceText_cons (by simp) hfront, ih]
      simp [returned, hc]

/-- Writing all line feeds with a carriage return keeps the line ends: no line feed of the file that
is left stood alone, and none was inserted behind a carriage return. -/
structure Restorable (gs : List Glyph) : Prop where
  paired : kept '\n' ∉ gs
  single : ¬[inserted '\r', inserted '\n'] <:+: gs

theorem written_eq_returned_iff (g : Glyph) (behind : Bool) : g.written behind = returned g.shown ↔
    g ≠ kept '\n' ∧ (behind = true → g ≠ inserted '\n') := by
  cases g with
  | kept c => by_cases hc : c = '\n' <;> simp [written, returned, shown, hc]
  | keptBreak => simp [written, returned, shown]
  | inserted c => cases behind <;> by_cases hc : c = '\n' <;> simp [written, returned, shown, hc]

theorem length_written_le (g : Glyph) (behind : Bool) :
    (g.written behind).length ≤ (returned g.shown).length := by
  cases g with
  | kept c => by_cases hc : c = '\n' <;> simp [written, returned, shown, hc]
  | keptBreak => simp [written, returned, shown]
  | inserted c => cases behind <;> by_cases hc : c = '\n' <;> simp [written, returned, shown, hc]

theorem length_textFrom_le (behind : Bool) (gs : List Glyph) :
    (textFrom behind gs).length ≤ ((gs.map shown).flatMap returned).length := by
  induction gs generalizing behind with
  | nil => simp [textFrom]
  | cons g gs ih =>
    rw [textFrom, List.map_cons, List.flatMap_cons, List.length_append, List.length_append]
    exact Nat.add_le_add (length_written_le g behind) (ih _)

theorem textFrom_cons_eq_iff (behind : Bool) (g : Glyph) (gs : List Glyph) :
    textFrom behind (g :: gs) = ((g :: gs).map shown).flatMap returned ↔
      g.written behind = returned g.shown ∧
        textFrom (g == inserted '\r') gs = (gs.map shown).flatMap returned := by
  rw [textFrom, List.map_cons, List.flatMap_cons]
  refine ⟨fun heq => ?_, fun h => by rw [h.1, h.2]⟩
  -- Neither part is longer than what is written for it, so that equal texts are equal part by part.
  have hlen := congrArg List.length heq
  rw [List.length_append, List.length_append] at hlen
  have := length_written_le g behind
  have := length_textFrom_le (g == inserted '\r') gs
  exact List.append_inj heq (by omega)

/-- A carriage return and a line feed are inserted at the front of a text or later on. -/
theorem inserted_infix_cons (g : Glyph) (gs : List Glyph) :
    [inserted '\r', inserted '\n'] <:+: g :: gs ↔
      (g = inserted '\r' ∧ gs.head? = some (inserted '\n')) ∨
        [inserted '\r', inserted '\n'] <:+: gs := by
  rw [List.infix_cons_iff, List.cons_prefix_cons]
  refine or_congr (and_congr eq_comm ?_) Iff.rfl
  cases gs with
  | nil => simp
  | cons d gs => simpa [List.cons_prefix_cons] using eq_comm

/-- **The text that keeps all line ends is what is written** exactly if it can be restored: no glyph
is written longer than with a carriage return in front of its line feed. -/
theorem textFrom_eq_iff (behind : Bool) (gs : List Glyph) :
    textFrom behind gs = (gs.map shown).flatMap returned ↔
      Restorable gs ∧ (behind = true → gs.head? ≠ some (inserted '\n')) := by
  induction gs generalizing behind with
  | nil => exact ⟨fun _ => ⟨⟨by simp, by simp⟩, by simp⟩, fun _ => rfl⟩
  | cons g gs ih =>
    rw [textFrom_cons_eq_iff, written_eq_returned_iff, ih]
    constructor
    · rintro ⟨⟨hkept, hbehind⟩, ⟨hpaired, hsingle⟩, hnext⟩
      refine ⟨⟨?_, ?_⟩, by simpa using hbehind⟩
      · simpa [Ne.symm hkept] using hpaired
      · rw [inserted_infix_cons]
        rintro (⟨hg, hhead⟩ | hlater)
        · exact hnext (by simpa using hg) hhead
        · exact hsingle hlater
    · rintro ⟨⟨hpaired, hsingle⟩, hbehind⟩
      rw [inserted_infix_cons] at hsingle
      simp only [List.mem_cons, not_or] at hpaired hsingle
      refine ⟨⟨Ne.symm hpaired.1, by simpa using hbehind⟩, ⟨hpaired.2, hsingle.2⟩, ?_⟩
      intro hg hhead
      exact hsingle.1 ⟨by simpa using hg, hhead⟩

/-- The text of a file is restored exactly if none of its line feeds stands alone. -/
theorem restorable_ofFile_iff (s : List Char) : Restorable (ofFile s) ↔ kept '\n' ∉ ofFile s := by
  refine ⟨Restorable.paired, fun hpaired => ⟨hpaired, fun hinserted => ?_⟩⟩
  exact inserted_notMem_ofFile '\r' s (hinserted.subset List.mem_cons_self)

end Glyph

/-! ## Runs on files with carriage returns -/

variable {settings : WorkbenchSettings} {call : Invocation} {files : FileTree} {path : Path}
  {edits : List Replacement} {raw content new : String}

open Glyph (kept ofFile edited textFrom shown Restorable)

/-- A file with carriage returns is written with them, if its text changes. -/
theorem editExisting_of_returns (hread : files.readText path = .ok content)
    (hreturns : Text.contains "\r\n" content = true)
    (happly : applyAll? 1 (withoutReturns content) edits = .ok new)
    (hne : new ≠ withoutReturns content) :
    (editExisting files path edits).1.succeeded ∧
      (editExisting files path edits).2.readText path = .ok (withReturns new) := by
  obtain ⟨modified, hfind⟩ := FileTree.find_of_readText hread
  obtain ⟨after, hwrite, hfound⟩ := FileTree.exists_write hfind (withReturns new).toUTF8
  simp only [editExisting, hfind, hread, happly, beq_iff_eq, hne, if_false, hreturns, if_true,
    hwrite]
  exact ⟨rfl, FileTree.readText_of_find hfound⟩

theorem exists_applyAll?_of_succeeded (hread : files.readText path = .ok content)
    (h : (editExisting files path edits).1.succeeded) :
    ∃ new, applyAll? 1 (withoutReturns content) edits = .ok new ∧ new ≠ withoutReturns content := by
  obtain ⟨modified, hfind⟩ := FileTree.find_of_readText hread
  simp only [editExisting, hfind, hread] at h
  cases happly : applyAll? 1 (withoutReturns content) edits with
  | error reason =>
    rw [happly] at h
    cases h
  | ok new =>
    refine ⟨new, rfl, fun hsame => ?_⟩
    rw [happly] at h
    simp [hsame, ToolRun.refused, ToolOutcome.succeeded, ToolResponse.error] at h

/-- A run that succeeds on a file that is there edits it. -/
theorem run_of_succeeded (hparse : call.parameters? Request.shape = .ok ⟨raw, edits⟩)
    (hread : files.readText (settings.resolve raw) = .ok content)
    (h : (run settings call files).1.succeeded) :
    (∀ r ∈ edits, r.old ≠ "") ∧
      run settings call files = editExisting files (settings.resolve raw) edits := by
  have hraw : raw ≠ "" := by
    rintro rfl
    simp [run, hparse, ToolRun.refused, ToolOutcome.succeeded, ToolResponse.error] at h
  have hfault : fault? edits = none := by
    rw [Option.eq_none_iff_forall_ne_some]
    intro reason hreason
    simp [run, hparse, hraw, hreason, ToolRun.refused, ToolOutcome.succeeded,
      ToolResponse.error] at h
  obtain ⟨first, rest, rfl, -, hvalid⟩ := fault?_eq_none hfault
  have hopen : Path.guardedBy? settings.home (settings.resolve raw) = none := by
    rw [Option.eq_none_iff_forall_ne_some]
    intro location hlocation
    simp [run, hparse, hraw, hfault, WorkbenchSettings.refusal?, hlocation,
      ToolOutcome.succeeded] at h
  rw [run_eq hparse hraw hopen hfault] at h ⊢
  have hold : first.old ≠ "" := by
    intro hold
    obtain ⟨modified, hfind⟩ := FileTree.find_of_readText hread
    simp [hold, create, FileTree.exists?, hfind, ToolRun.refused, ToolOutcome.succeeded,
      ToolResponse.error] at h
  refine ⟨List.forall_mem_cons.mpr ⟨hold, fun r hr => (hvalid r hr).1⟩, ?_⟩
  rw [if_neg (by simpa using hold)]

/-- **Line ends survive a run exactly if they can be restored.** A run that succeeds on a file with
carriage returns writes each line feed with one. This keeps what edits do not replace, and writes
each inserted line break with a single carriage return, exactly if no line feed of the file that is
left stood alone, and none was inserted behind a carriage return. Without any edit the text of the
file is restored exactly if there is a carriage return in front of each of its line feeds. -/
theorem line_ends_survive_iff (hparse : call.parameters? Request.shape = .ok ⟨raw, edits⟩)
    (hread : files.readText (settings.resolve raw) = .ok content)
    (hreturns : Text.contains "\r\n" content = true)
    (hsucceeded : (run settings call files).1.succeeded) :
    ((run settings call files).2.readText (settings.resolve raw) =
        .ok (String.ofList (textFrom false (edited edits (ofFile content.toList)))) ↔
      Restorable (edited edits (ofFile content.toList))) ∧
    (run settings call files).2.readText (settings.resolve raw) =
      .ok (withReturns (String.ofList ((edited edits (ofFile content.toList)).map shown))) ∧
    (withReturns (withoutReturns content) = content ↔ ∀ above below,
      content.toList = above ++ '\n' :: below → above.getLast? = some '\r') := by
  obtain ⟨hvalid, hrun⟩ := run_of_succeeded hparse hread hsucceeded
  rw [hrun] at hsucceeded ⊢
  obtain ⟨new, happly, hne⟩ := exists_applyAll?_of_succeeded hread hsucceeded
  have hfile : (ofFile content.toList).map shown = (withoutReturns content).toList := by
    rw [Glyph.map_shown_ofFile, withoutReturns, Text.toList_replace]
    rfl
  have hnew := Glyph.map_shown_edited hvalid hfile happly
  obtain ⟨-, hwritten⟩ := editExisting_of_returns hread hreturns happly hne
  refine ⟨?_, by rw [hwritten, hnew, String.ofList_toList], ?_⟩
  · rw [hwritten, Except.ok.injEq, ← String.toList_inj, Glyph.toList_withReturns,
      String.toList_ofList, ← hnew, eq_comm, Glyph.textFrom_eq_iff]
    simp
  · rw [← String.toList_inj, Glyph.toList_withReturns, ← hfile]
    conv_lhs => rhs; rw [← Glyph.textFrom_ofFile content.toList]
    rw [eq_comm, Glyph.textFrom_eq_iff, Glyph.restorable_ofFile_iff, Glyph.kept_feed_mem_ofFile]
    simp

theorem succeeded_oneFile {first : Replacement} {rest : List Replacement} (new : String)
    (hold : first.old ≠ "") (hfault : fault? (first :: rest) = none)
    (hreturns : Text.contains "\r\n" content = true)
    (happly : applyAll? 1 (withoutReturns content) (first :: rest) = .ok new)
    (hne : new ≠ withoutReturns content) :
    (run workplace (Request.call ⟨"f", first :: rest⟩)
      (FileTree.oneFile content.toUTF8)).1.succeeded := by
  rw [run_eq (Request.parameters?_call ⟨"f", first :: rest⟩) (by decide) (by decide) hfault,
    if_neg (by simpa using hold)]
  exact (editExisting_of_returns (FileTree.readText_of_find (FileTree.find_oneFile _)) hreturns
    happly hne).1

/-- A carriage return that is inserted with its line feed is doubled, and a line feed that stands
alone in another line gets one. -/
theorem exists_line_ends_lost :
    (run workplace (Request.call ⟨"f", [⟨"two", "2\r\n3", false⟩]⟩)
        (FileTree.oneFile "one\r\ntwo\r\n".toUTF8)).2.readText (workplace.resolve "f") =
          .ok "one\r\n2\r\r\n3\r\n" ∧
      textFrom false (edited [⟨"two", "2\r\n3", false⟩] (ofFile "one\r\ntwo\r\n".toList)) =
        "one\r\n2\r\n3\r\n".toList ∧
    (run workplace (Request.call ⟨"f", [⟨"a", "x", false⟩]⟩)
        (FileTree.oneFile "a\r\nb\nc\n".toUTF8)).2.readText (workplace.resolve "f") =
          .ok "x\r\nb\r\nc\r\n" ∧
      textFrom false (edited [⟨"a", "x", false⟩] (ofFile "a\r\nb\nc\n".toList)) =
        "x\r\nb\nc\n".toList := by
  have hread (content : String) :
      (FileTree.oneFile content.toUTF8).readText (workplace.resolve "f") = .ok content :=
    FileTree.readText_of_find (FileTree.find_oneFile _)
  refine ⟨?_, by decide, ?_, by decide⟩
  · have hrun := (line_ends_survive_iff (Request.parameters?_call ⟨"f", [⟨"two", "2\r\n3", false⟩]⟩)
      (hread "one\r\ntwo\r\n") (by decide) (succeeded_oneFile "one\n2\r\n3\n" (by decide)
        (by decide) (by decide) (by decide) (by decide))).2.1
    exact hrun.trans (congrArg Except.ok (by decide))
  · have hrun := (line_ends_survive_iff (Request.parameters?_call ⟨"f", [⟨"a", "x", false⟩]⟩)
      (hread "a\r\nb\nc\n") (by decide) (succeeded_oneFile "x\nb\nc\n" (by decide)
        (by decide) (by decide) (by decide) (by decide))).2.1
    exact hrun.trans (congrArg Except.ok (by decide))

end AgentDesk.MultiEdit

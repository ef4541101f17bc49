import AgentDesk.Proofs.Files
import AgentDesk.Proofs.Text.Occurrences
import AgentDesk.Workbench.Edit
/-!
# What an edit does to a file

An edit of a file that holds text either replaces something and writes the file, or is refused and
leaves all files alone. A replacement that is not meant everywhere counts what it replaces without
overlap: it is ambiguous only if there are two occurrences that do not overlap.

## Main definitions

* `ToolOutcome.succeeded` — a call was answered, and not with a failure.
* `Edit.Unambiguous` — exactly a single occurrence is replaced, and nothing else is touched.
-/

namespace AgentDesk

/-- Whether a call was answered, and not with a failure. -/
def ToolOutcome.succeeded : ToolOutcome → Bool
  | .ok r => !r.isError
  | .error _ => false

namespace Text.Replacement

variable {r : Replacement} {content new : String} {n : Nat}

theorem toList_ne_nil (hold : r.old ≠ "") : r.old.toList ≠ [] := by
  simpa [String.toList_eq_nil_iff] using hold

theorem perform?_eq_ok_iff : r.perform? content = .ok (new, n) ↔
    n = countText r.old.toList content.toList ∧ new = replace r.old r.new content ∧ n ≠ 0 ∧
      (1 < n → r.everywhere = true) := by
  rw [perform?]
  split_ifs with hnone hseveral
  · simp only [false_iff]
    rintro ⟨rfl, -, hn, -⟩
    exact hn hnone
  · simp only [false_iff]
    rintro ⟨rfl, -, -, heverywhere⟩
    simp [heverywhere hseveral.1] at hseveral
  · simp only [Except.ok.injEq, Prod.mk.injEq]
    constructor
    · rintro ⟨rfl, rfl⟩
      exact ⟨rfl, rfl, hnone, fun h => by simpa using fun hfalse => hseveral ⟨h, hfalse⟩⟩
    · rintro ⟨rfl, rfl, -, -⟩
      exact ⟨rfl, rfl⟩

/-- **A replacement that is made changes the text.** -/
theorem ne_of_perform? (hold : r.old ≠ "") (hne : r.old ≠ r.new)
    (h : r.perform? content = .ok (new, n)) : new ≠ content := by
  obtain ⟨rfl, rfl, hn, -⟩ := perform?_eq_ok_iff.mp h
  intro hsame
  refine replaceText_ne (toList_ne_nil hold) (fun heq => hne (String.toList_injective heq)) hn ?_
  rw [← toList_replace, hsame]

/-- A replacement that is not meant everywhere is made exactly if the text that it replaces occurs,
and no two occurrences lie apart. -/
theorem exists_perform?_iff (hone : r.everywhere = false) (hold : r.old ≠ "") (content : String) :
    (∃ out, r.perform? content = .ok out) ↔
      (∃ i, OccursAt r.old.toList content.toList i) ∧
        ∀ i j, OccursAt r.old.toList content.toList i → OccursAt r.old.toList content.toList j →
          j < i + r.old.toList.length := by
  rw [← countText_eq_one_iff (toList_ne_nil hold), Prod.exists]
  simp only [perform?_eq_ok_iff, hone]
  constructor
  · rintro ⟨new, n, rfl, -, hn, hseveral⟩
    by_contra hne
    exact absurd (hseveral (by omega)) (by simp)
  · intro hcount
    exact ⟨_, 1, hcount.symm, rfl, Nat.one_ne_zero, fun h => absurd h (by simp)⟩

/-- It is made where the text that it replaces occurs first. -/
theorem perform?_eq_ok (hone : r.everywhere = false) (hold : r.old ≠ "")
    (h : ∃ out, r.perform? content = .ok out) :
    ∃ before after, content = before ++ r.old ++ after ∧
      (∀ i, OccursAt r.old.toList content.toList i → before.length ≤ i) ∧
      r.perform? content = .ok (before ++ r.new ++ after, 1) := by
  have hcount := (countText_eq_one_iff (toList_ne_nil hold)).mpr
    ((exists_perform?_iff hone hold content).mp h)
  obtain ⟨a, b, hs, hfirst, hreplace⟩ :=
    replaceText_of_countText_eq_one (toList_ne_nil hold) r.new.toList hcount
  refine ⟨String.ofList a, String.ofList b, ?_, ?_, perform?_eq_ok_iff.mpr ?_⟩
  · exact String.toList_injective (by simpa using hs)
  · simpa using hfirst
  · refine ⟨hcount.symm, String.toList_injective ?_, Nat.one_ne_zero, by simp⟩
    simpa using hreplace.symm

end Text.Replacement

namespace Edit

open Text (OccursAt Replacement Tangled)

variable {r : Replacement} {content new raw : String} {n : Nat} {files : FileTree} {path : Path}
  {settings : WorkbenchSettings} {call : Invocation} {fault : Text.MatchFault}

/-! ## Edits of a file that holds text -/

theorem replace_eq_refused (hread : files.readText path = .ok content)
    (hfault : r.perform? content = .error fault) :
    replace files path r = .refused files fault.describe := by
  obtain ⟨modified, hfind⟩ := FileTree.find_of_readText hread
  simp [replace, hfind, hread, hfault]

/-- An edit that replaces something leaves the file with the new text. -/
theorem replace_eq_changed (hread : files.readText path = .ok content)
    (hmade : r.perform? content = .ok (new, n)) (hne : new ≠ content) :
    ∃ after, replace files path r = (changed (message r path n) path content new, after) ∧
      after.readText path = .ok new := by
  obtain ⟨modified, hfind⟩ := FileTree.find_of_readText hread
  obtain ⟨after, hwrite, hfound⟩ := FileTree.exists_write hfind new.toUTF8
  refine ⟨after, ?_, FileTree.readText_of_find hfound⟩
  simp only [replace, hfind, hread, hmade, beq_iff_eq, hne, if_false, hwrite]

/-- **An edit that cannot be made touches nothing**, whatever else is wrong with the call. -/
theorem run_of_perform?_error (hparse : call.parameters? Request.shape = .ok ⟨raw, r⟩)
    (hold : r.old ≠ "") (hread : files.readText (settings.resolve raw) = .ok content)
    (hfault : r.perform? content = .error fault) :
    (run settings call files).1.succeeded = false ∧ (run settings call files).2 = files := by
  rw [run, hparse]
  dsimp only
  split_ifs with hraw hempty hsame
  · exact ⟨rfl, rfl⟩
  · exact ⟨rfl, rfl⟩
  · exact ⟨rfl, rfl⟩
  · rename_i hempty'
    exact absurd (by simpa using hempty') hold
  · cases settings.refusal? name (settings.resolve raw) with
    | some failure => exact ⟨rfl, rfl⟩
    | none =>
      dsimp only
      rw [replace_eq_refused hread hfault]
      exact ⟨rfl, rfl⟩

/-! ## Ambiguous edits -/

/-- A replacement is unambiguous in a text: it is made exactly if the text that it replaces occurs
at one position, it is made there, and otherwise no edit of a file with this text changes anything.
-/
structure Unambiguous (r : Replacement) (content : String) : Prop where
  made : (∃ out, r.perform? content = .ok out) ↔ ∃! i, OccursAt r.old.toList content.toList i
  there : ∀ before after, content = before ++ r.old ++ after →
    (∃! i, OccursAt r.old.toList content.toList i) →
    r.perform? content = .ok (before ++ r.new ++ after, 1)
  untouched : (¬∃! i, OccursAt r.old.toList content.toList i) →
    ∀ (settings : WorkbenchSettings) (call : Invocation) (files : FileTree) (raw : String),
      call.parameters? Request.shape = .ok ⟨raw, r⟩ →
      files.readText (settings.resolve raw) = .ok content →
      (run settings call files).1.succeeded = false ∧ (run settings call files).2 = files

/-- A text that occurs at one position only is replaced. -/
theorem exists_perform?_of_unique (hone : r.everywhere = false) (hold : r.old ≠ "")
    (hunique : ∃! i, OccursAt r.old.toList content.toList i) :
    ∃ out, r.perform? content = .ok out := by
  obtain ⟨i, hi, honly⟩ := hunique
  refine (Replacement.exists_perform?_iff hone hold content).mpr ⟨⟨i, hi⟩, fun j k hj hk => ?_⟩
  have hpos := List.length_pos_iff.mpr (Replacement.toList_ne_nil hold)
  rw [honly j hj, honly k hk]
  omega

/-- A text whose first occurrence is its only one surrounds it in one way. -/
theorem perform?_of_unique (hone : r.everywhere = false) (hold : r.old ≠ "")
    {before after : String} (hcontent : content = before ++ r.old ++ after)
    (hunique : ∃! i, OccursAt r.old.toList content.toList i) :
    r.perform? content = .ok (before ++ r.new ++ after, 1) := by
  obtain ⟨before', after', hcontent', -, hmade⟩ := Replacement.perform?_eq_ok hone hold
    (exists_perform?_of_unique hone hold hunique)
  have hlists : before.toList ++ (r.old.toList ++ after.toList) =
      before'.toList ++ (r.old.toList ++ after'.toList) := by
    simpa using congrArg String.toList (hcontent.symm.trans hcontent')
  have hbefore : OccursAt r.old.toList content.toList before.toList.length := by
    rw [hcontent]
    simp [Text.occursAt_length_append]
  have hbefore' : OccursAt r.old.toList content.toList before'.toList.length := by
    rw [hcontent']
    simp [Text.occursAt_length_append]
  obtain ⟨heq, hrest⟩ := List.append_inj hlists (hunique.unique hbefore hbefore')
  obtain rfl := String.toList_injective heq
  obtain rfl := String.toList_injective (List.append_cancel_left hrest)
  exact hmade

/-- **An edit is unambiguous unless what it replaces occurs more than once with all occurrences
overlapping.** In that case the first of them is replaced without a word. -/
theorem unambiguous_iff (hone : r.everywhere = false) (hold : r.old ≠ "") (content : String) :
    (Unambiguous r content ↔ ¬Tangled r.old.toList content.toList) ∧
      (Tangled r.old.toList content.toList → ∃ before after, content = before ++ r.old ++ after ∧
        (∀ i, OccursAt r.old.toList content.toList i → before.length ≤ i) ∧
        r.perform? content = .ok (before ++ r.new ++ after, 1)) := by
  have hmade := Replacement.exists_perform?_iff hone hold content
  refine ⟨⟨fun hlaw htangled => ?_, fun htangled => ?_⟩, fun htangled => ?_⟩
  · obtain ⟨⟨i, j, hi, hj, hij⟩, hoverlap⟩ := htangled
    have hunique := hlaw.made.mp (hmade.mpr ⟨⟨i, hi⟩, hoverlap⟩)
    exact absurd (hunique.unique hi hj) (by omega)
  · -- A replacement that is made has one position: two that overlap would tangle the text.
    have hunique : (∃ out, r.perform? content = .ok out) →
        ∃! i, OccursAt r.old.toList content.toList i := by
      intro hout
      obtain ⟨⟨i, hi⟩, hoverlap⟩ := hmade.mp hout
      refine ⟨i, hi, fun j hj => ?_⟩
      by_contra hne
      refine htangled ⟨?_, hoverlap⟩
      rcases Nat.lt_or_gt_of_ne hne with hlt | hlt
      · exact ⟨j, i, hj, hi, hlt⟩
      · exact ⟨i, j, hi, hj, hlt⟩
    refine ⟨⟨hunique, exists_perform?_of_unique hone hold⟩, fun before after hcontent hone' =>
      perform?_of_unique hone hold hcontent hone', ?_⟩
    intro hnot settings call files raw hparse hread
    cases hperform : r.perform? content with
    | ok out => exact absurd (hunique ⟨out, hperform⟩) hnot
    | error fault => exact run_of_perform?_error hparse hold hread hperform
  · obtain ⟨⟨i, j, hi, hj, hij⟩, hoverlap⟩ := htangled
    exact Replacement.perform?_eq_ok hone hold (hmade.mpr ⟨⟨i, hi⟩, hoverlap⟩)

/-- Two letters occur twice in a row of three, and are replaced all the same. -/
theorem exists_tangled_edit : ∃ (r : Replacement) (content : String), r.everywhere = false ∧
    r.old ≠ "" ∧ OccursAt r.old.toList content.toList 0 ∧ OccursAt r.old.toList content.toList 1 ∧
    r.perform? content = .ok ("ba", 1) ∧ ¬Unambiguous r content := by
  refine ⟨⟨"aa", "b", false⟩, "aaa", rfl, by decide, by decide, by decide, by decide, ?_⟩
  have hoverlap := ((Text.countText_eq_one_iff (p := "aa".toList) (s := "aaa".toList)
    (by decide)).mp (by decide)).2
  exact fun hlaw => (unambiguous_iff rfl (by decide) "aaa").1.mp hlaw
    ⟨⟨0, 1, by decide, by decide, by decide⟩, hoverlap⟩

end Edit

end AgentDesk

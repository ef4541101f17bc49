import AgentDesk.Proofs.Digits
import AgentDesk.Proofs.Files
import AgentDesk.Proofs.Text.Lines
import AgentDesk.Proofs.Workbench.Requests
import AgentDesk.Workbench.View
/-!
# Reading a file page by page

An answer shows the lines of a file from an offset on, as many as were asked for, each with its
number, and tells how many lines follow and where to go on. A reader that goes on as long as it is
told so sees each line of the file once, in order.

The answer is read here as its reader gets it, as a text: the shown lines are the lines of the text
with an arrow, and the notice is a line of the text.

## Main definitions

* `View.cut`, `View.entry`, `View.listing` — a line as it is shown, with its number, and all of a
  file.
* `View.Viewable` — a file that can be shown.
* `View.Shows` — an answer shows a page of a file.
* `View.Paging` — the answers that a reader gets who follows the notices.
-/

namespace AgentDesk.View

open WorkbenchSettings (workplace)

/-! ## What is shown -/

/-- A line as it is shown: a long one is cut behind a character. -/
def cut (line : String) : String :=
  if line.length ≤ 2000 then line else String.ofList (line.toList.take 2000) ++ "... (truncated)"

/-- A line with its number. -/
def entry (number : Nat) (line : String) : String :=
  Text.padLeft 6 (toString number) ++ "→" ++ cut line

/-- All lines of a text with their numbers, the first of which is one. -/
def listing (content : String) : List String :=
  (Text.lines content).mapIdx fun i line => entry (i + 1) line

/-- The line that tells how many lines follow and where. -/
def noticeLine (left next : Nat) : String :=
  s!"(File has {left} more lines. Use 'offset' parameter to read from line {next})"

/-- A file that can be shown: there is text at the path, not too much of it, and the name is none of
an image. -/
structure Viewable (settings : WorkbenchSettings) (files : FileTree) (raw content : String) :
    Prop where
  named : raw ≠ ""
  read : files.readText (settings.resolve raw) = .ok content
  size : content.toUTF8.size ≤ 250 * 1024
  noImage : imageKind? (settings.resolve raw) = none

/-! ## How an answer is read -/

/-- The lines of an answer. -/
def answerLines (r : ToolResponse) : List String := Text.splitChar '\n' r.content

/-- The lines of the file in an answer. -/
def shownLines (r : ToolResponse) : List String := (answerLines r).filter fun l => '→' ∈ l.toList

/-- An answer tells that lines follow. -/
def GoesOn (r : ToolResponse) : Prop := ∃ left next, noticeLine left next ∈ answerLines r

/-- The lines in front of a notice: those of a page, or one that says of an empty file what it is.
-/
def body (content : String) (shown : List String) : List String :=
  if content = "" then ["(empty file)"] else if shown = [] then [""] else shown

/-- What stands between the first and the last line of an answer. A notice stands behind a blank
line. -/
def inside (content : String) (shown : List String) (left next : Nat) : List String :=
  body content shown ++ if left = 0 then [] else ["", noticeLine left next]

/-- An answer shows a page of a file. -/
structure Shows (content : String) (offset limit : Nat) (r : ToolResponse) : Prop where
  succeeded : r.isError = false
  lines : answerLines r = "<file>" :: inside content (((listing content).drop offset).take limit)
    ((listing content).length - (offset + limit)) (offset + limit + 1) ++ ["</file>"]
  shown : shownLines r = ((listing content).drop offset).take limit
  goesOn_iff : GoesOn r ↔ offset + limit < (listing content).length

/-- The answers that a reader gets who goes on by `step` lines as long as an answer tells that lines
follow. -/
inductive Paging (view : Nat → ToolOutcome) (step : Nat) : Nat → List ToolResponse → Prop where
  | last {offset : Nat} {r : ToolResponse} (hview : view offset = .ok r) (hlast : ¬GoesOn r) :
    Paging view step offset [r]
  | more {offset : Nat} {r : ToolResponse} {rest : List ToolResponse} (hview : view offset = .ok r)
    (hmore : GoesOn r) (hrest : Paging view step (offset + step) rest) :
    Paging view step offset (r :: rest)

/-- Nothing but the answers says when a reader stops. -/
theorem Paging.unique {view : Nat → ToolOutcome} {step offset : Nat}
    {pages pages' : List ToolResponse}
    (h : Paging view step offset pages) (h' : Paging view step offset pages') : pages = pages' := by
  induction h generalizing pages' with
  | last hview hlast =>
    cases h' with
    | last hview' => rw [Except.ok.inj (hview.symm.trans hview')]
    | more hview' hmore' => exact absurd (Except.ok.inj (hview.symm.trans hview') ▸ hmore') hlast
  | more hview hmore hrest ih =>
    cases h' with
    | last hview' hlast' => exact absurd hmore (Except.ok.inj (hview.symm.trans hview') ▸ hlast')
    | more hview' hmore' hrest' => rw [Except.ok.inj (hview.symm.trans hview'), ih hrest']

variable {settings : WorkbenchSettings} {files : FileTree} {raw content : String}
  {offset limit left next : Nat} {r : ToolResponse}

theorem firstChars?_eq (n : Nat) (line : String) : Text.firstChars? n line =
    if line.length ≤ n then none else some (String.ofList (line.toList.take n)) := by
  simp only [Text.firstChars?, List.isEmpty_iff, List.drop_eq_nil_iff, String.length_toList]

theorem shown_eq_cut (line : String) : View.shown line = cut line := by
  rw [View.shown, firstChars?_eq, lineLimit, cut]
  by_cases h : line.length ≤ 2000
  · simp only [h, if_true]
  · simp only [h, if_false]
    rfl

theorem numbered_eq (first : Nat) (lines : List String) :
    numbered first (lines.map View.shown) = lines.mapIdx fun i line => entry (first + i) line := by
  induction lines generalizing first with
  | nil => rfl
  | cons line lines ih =>
    have hnumber (i : Nat) : first + 1 + i = first + (i + 1) := by omega
    simp only [List.map_cons, numbered, ih, List.mapIdx_cons, shown_eq_cut, hnumber]
    rfl

/-! ## The characters of an answer -/

theorem notMem_toString {c : Char} (h : c.isDigit = false) (n : Nat) : c ∉ (toString n).toList := by
  intro hc
  rw [Nat.toString_eq_repr, Nat.toList_repr] at hc
  simp [digits_toDigits n c hc] at h

theorem mem_entry (number : Nat) (line : String) : '→' ∈ (entry number line).toList := by
  simp [entry]

theorem newline_notMem_entry {line : String} (h : '\n' ∉ line.toList) (number : Nat) :
    '\n' ∉ (entry number line).toList := by
  have hnumber : '\n' ∉ (toString number).toList := notMem_toString rfl number
  have hcut : '\n' ∉ (cut line).toList := by
    unfold cut
    split
    · exact h
    · simpa using fun hc => h (List.mem_of_mem_take hc)
  simpa [entry, Text.padLeft, hcut] using hnumber

theorem arrow_notMem_noticeLine (left next : Nat) : '→' ∉ (noticeLine left next).toList := by
  have hleft : '→' ∉ (toString left).toList := notMem_toString rfl left
  have hnext : '→' ∉ (toString next).toList := notMem_toString rfl next
  simp only [noticeLine, String.toList_append, List.mem_append, hleft, hnext]
  decide

theorem newline_notMem_noticeLine (left next : Nat) : '\n' ∉ (noticeLine left next).toList := by
  have hleft : '\n' ∉ (toString left).toList := notMem_toString rfl left
  have hnext : '\n' ∉ (toString next).toList := notMem_toString rfl next
  simp only [noticeLine, String.toList_append, List.mem_append, hleft, hnext]
  decide

/-- A notice begins like no other line without an arrow. -/
theorem begins_noticeLine (left next : Nat) : "(File".toList <+: (noticeLine left next).toList := by
  simp only [noticeLine, String.toList_append, List.append_assoc]
  exact (by decide : "(File".toList <+: (toString "(File has ").toList).trans
    (List.prefix_append _ _)

/-- No line of an answer but the notice is a notice. -/
theorem ne_noticeLine {l : String} (h : '→' ∈ l.toList ∨ ¬"(File".toList <+: l.toList)
    (left next : Nat) : l ≠ noticeLine left next := by
  rintro rfl
  rcases h with h | h
  · exact arrow_notMem_noticeLine left next h
  · exact h (begins_noticeLine left next)

/-! ## A page -/

theorem length_listing (content : String) :
    (listing content).length = (Text.lines content).length :=
  List.length_mapIdx

/-- The numbers on a page are those of the lines in the file. -/
theorem numbered_pageLines (content : String) (offset limit : Nat) :
    numbered (offset + 1) ((pageLines content offset limit).map View.shown) =
      ((listing content).drop offset).take limit := by
  rw [numbered_eq, pageLines, listing]
  refine List.ext_getElem (by simp) fun i hi hi' => ?_
  simp [Nat.add_right_comm]

/-- There is a notice if lines are left, and it tells how many they are and which is the next one.
-/
theorem notice_eq (content : String) (offset : Nat) (hlimit : 0 < limit) :
    notice content offset limit = if (listing content).length - (offset + limit) = 0 then none
      else some ((listing content).length - (offset + limit), offset + limit + 1) := by
  have hread : (pageLines content offset limit).length =
      min limit ((listing content).length - offset) := by simp [pageLines, length_listing]
  rw [notice, ← length_listing]
  by_cases hleft : (listing content).length - (offset + limit) = 0
  · rw [if_pos hleft, if_neg (by omega)]
  · have hfull : (pageLines content offset limit).length = limit := by omega
    rw [if_neg hleft, if_pos (by omega), hfull]

theorem body_ne_nil (content : String) (shown : List String) : body content shown ≠ [] := by
  unfold body
  split_ifs with _ hshown
  · exact List.cons_ne_nil _ _
  · exact List.cons_ne_nil _ _
  · exact hshown

theorem join_body (content : String) (shown : List String) : Text.join "\n" (body content shown) =
    if content = "" then "(empty file)" else Text.join "\n" shown := by
  unfold body
  split_ifs with _ hshown
  · rfl
  · rw [hshown]
    rfl
  · rfl

theorem join_inside (content : String) (shown : List String) (left next : Nat) :
    Text.join "\n" (inside content shown left next) =
      (if content = "" then "(empty file)" else Text.join "\n" shown) ++
        (if left = 0 then "" else "\n\n" ++ noticeLine left next) := by
  rw [inside, ← join_body]
  split
  · rw [List.append_nil, String.append_empty]
  · rw [Text.join, String.intercalate_append_of_ne_nil (body_ne_nil _ _) (List.cons_ne_nil _ _)]
    have hblank : "\n\n" = "\n" ++ ("" ++ "\n") := rfl
    rw [hblank, String.intercalate_cons_cons, String.intercalate_singleton, Text.join]
    simp only [String.append_assoc]

/-- The text of a notice behind a page. -/
theorem noticeText_eq (left next : Nat) :
    s!"\n\n(File has {left} more lines. Use 'offset' parameter to read from line {next})" =
      "\n\n" ++ noticeLine left next := by
  have hstart : toString "\n\n(File has " = "\n\n" ++ toString "(File has " := rfl
  simp only [noticeLine, hstart, String.append_assoc]

/-- A page is the text of its lines. -/
theorem page_eq (content : String) (offset : Nat) (hlimit : 0 < limit) :
    page content offset limit = Text.join "\n" ("<file>" :: inside content
      (((listing content).drop offset).take limit)
      ((listing content).length - (offset + limit)) (offset + limit + 1) ++ ["</file>"]) := by
  have hinside : inside content (((listing content).drop offset).take limit)
      ((listing content).length - (offset + limit)) (offset + limit + 1) ≠ [] :=
    List.append_ne_nil_of_left_ne_nil (body_ne_nil _ _) _
  have hstart : "<file>\n" = "<file>" ++ "\n" := rfl
  have hend : "\n</file>" = "\n" ++ "</file>" := rfl
  rw [Text.join, String.intercalate_append_of_ne_nil (List.cons_ne_nil _ _) (List.cons_ne_nil _ _),
    String.intercalate_cons_of_ne_nil hinside, String.intercalate_singleton, ← Text.join,
    join_inside, page, numbered_pageLines, notice_eq content offset hlimit]
  by_cases hleft : (listing content).length - (offset + limit) = 0
  · simp only [hleft, if_true, String.isEmpty_iff]
    rw [hend, hstart]
    simp only [toString, String.append_assoc]
  · simp only [hleft, if_false, String.isEmpty_iff, noticeText_eq]
    rw [hend, hstart]
    simp only [toString, String.append_assoc]

theorem mem_listing {l : String} (h : l ∈ listing content) : '→' ∈ l.toList ∧ '\n' ∉ l.toList := by
  obtain ⟨i, hi, rfl⟩ := List.mem_mapIdx.mp h
  exact ⟨mem_entry .., newline_notMem_entry (Text.notMem_of_mem_lines (List.getElem_mem hi)) _⟩

section Page

variable {shown : List String} (hshown : ∀ l ∈ shown, l ∈ listing content)
include hshown

theorem mem_body {l : String} (h : l ∈ body content shown) :
    l ∈ listing content ∨ l = "(empty file)" ∨ l = "" := by
  unfold body at h
  split_ifs at h
  · exact .inr (.inl (List.mem_singleton.mp h))
  · exact .inr (.inr (List.mem_singleton.mp h))
  · exact .inl (hshown l h)

theorem newline_notMem_inside {l : String} (h : l ∈ inside content shown left next) :
    '\n' ∉ l.toList := by
  rcases List.mem_append.mp h with h | h
  · rcases mem_body hshown h with h | rfl | rfl
    · exact (mem_listing h).2
    · decide
    · decide
  · split_ifs at h
    · cases h
    · rcases List.mem_pair.mp h with rfl | rfl
      · decide
      · exact newline_notMem_noticeLine _ _

/-- No line of a page is taken for a notice. -/
theorem noticeLine_mem_inside_iff :
    (∃ left' next', noticeLine left' next' ∈ inside content shown left next) ↔ left ≠ 0 := by
  have hbody (left' next' : Nat) : noticeLine left' next' ∉ body content shown := by
    intro h
    rcases mem_body hshown h with h | h | h
    · exact arrow_notMem_noticeLine _ _ (mem_listing h).1
    · exact ne_noticeLine (.inr (by decide)) _ _ h.symm
    · exact ne_noticeLine (.inr (by decide)) _ _ h.symm
  constructor
  · rintro ⟨left', next', h⟩ rfl
    rw [inside, if_pos rfl, List.append_nil] at h
    exact hbody left' next' h
  · intro hleft
    exact ⟨left, next, by simp [inside, hleft]⟩

/-- The lines of a page with an arrow are those of the file. -/
theorem filter_inside :
    (inside content shown left next).filter (fun l => '→' ∈ l.toList) = shown := by
  have hnotice : (if left = 0 then [] else ["", noticeLine left next]).filter
      (fun l => '→' ∈ l.toList) = [] := by
    split_ifs
    · rfl
    · simp [arrow_notMem_noticeLine]
  have hall : shown.filter (fun l => '→' ∈ l.toList) = shown := by
    refine List.filter_eq_self.mpr fun l hl => ?_
    simpa using (mem_listing (hshown l hl)).1
  rw [inside, List.filter_append, hnotice, List.append_nil, body]
  split_ifs with hcontent hnone
  · -- The empty text has no lines.
    subst hcontent
    have hnil : shown = [] := List.eq_nil_iff_forall_not_mem.mpr fun l hl => by
      simpa [listing, Text.lines, Text.linesOf, Text.splitOn] using hshown l hl
    rw [hnil]
    decide
  · rw [hnone]
    rfl
  · exact hall

end Page

/-- The answer with a page shows it. -/
theorem shows_page (content : String) (offset : Nat) (hlimit : 0 < limit) (metadata : Json) :
    Shows content offset limit
      ((ToolResponse.text (page content offset limit)).withMetadata metadata) := by
  have hshown : ∀ l ∈ ((listing content).drop offset).take limit, l ∈ listing content :=
    fun l hl => List.mem_of_mem_drop (List.mem_of_mem_take hl)
  have hlines :
      answerLines ((ToolResponse.text (page content offset limit)).withMetadata metadata) =
      "<file>" :: inside content (((listing content).drop offset).take limit)
        ((listing content).length - (offset + limit)) (offset + limit + 1) ++ ["</file>"] := by
    change Text.splitChar '\n' (page content offset limit) = _
    rw [page_eq content offset hlimit]
    refine Text.splitChar_join (by simp) fun l hl => ?_
    rw [List.mem_append, List.mem_cons, List.mem_singleton] at hl
    rcases hl with (rfl | hl) | rfl
    · decide
    · exact newline_notMem_inside hshown hl
    · decide
  refine ⟨rfl, hlines, ?_, ?_⟩
  · rw [shownLines, hlines]
    rw [List.filter_append, List.filter_cons_of_neg (by decide), filter_inside hshown,
      List.filter_cons_of_neg (by decide), List.filter_nil, List.append_nil]
  · have hframe (left next : Nat) :
        noticeLine left next ≠ "<file>" ∧ noticeLine left next ≠ "</file>" :=
      ⟨(ne_noticeLine (.inr (by decide)) _ _).symm, (ne_noticeLine (.inr (by decide)) _ _).symm⟩
    simp only [GoesOn, hlines, List.mem_append, List.mem_cons, List.not_mem_nil, or_false,
      hframe, false_or]
    rw [noticeLine_mem_inside_iff hshown]
    omega

/-! ## Requests -/

/-- A number that was written is read back if it is one that a count may be. -/
theorem natUpTo?_nat {n : Nat} (h : n ≤ Numeral.wordMax) (reading : Reading) :
    Document.natUpTo? Numeral.wordMax reading (Json.nat n).document = some n := by
  rw [Json.document_nat, Document.natUpTo?, Numeral.value?_toDigits h]
  simp [h]

namespace Request

/-- A request as the members of an object. -/
def members (q : View.Request) : List (String × Json) :=
  [("file_path", .string q.path), ("offset", .nat q.offset), ("limit", .nat q.limit)]

/-- The call that asks for a page. -/
def call (q : View.Request) : Invocation := .ofObject View.name q.members

variable {q : View.Request}

theorem shape_members (hoffset : q.offset ≤ Numeral.wordMax) (hlimit : q.limit ≤ Numeral.wordMax)
    (room : Nat) (kept : Bool) :
    View.Request.shape ⟨room + 1, kept⟩ (Json.object q.members).document = some q := by
  have hmax : UInt64.size - 1 = Numeral.wordMax := rfl
  simp [members, shape, Document.record?_document, Document.cell?, Document.membersNamed,
    Record.orDefault?, Record.cell?, hmax, natUpTo?_nat hoffset, natUpTo?_nat hlimit]

theorem parameters?_call (hoffset : q.offset ≤ Numeral.wordMax)
    (hlimit : q.limit ≤ Numeral.wordMax) :
    q.call.parameters? View.Request.shape = .ok q :=
  Invocation.parameters?_ofObject View.name
    (by simp [members, Json.Exact, Json.ExactMembers, Json.nat])
    (shape_members hoffset hlimit 126 true)

end Request

/-! ## Runs of the tool -/

/-- A run on a file that can be shown answers with a page. No limit stands for the usual one. -/
theorem run_eq (hfile : Viewable settings files raw content) {call : Invocation}
    (hparse : call.parameters? Request.shape = .ok ⟨raw, offset, limit⟩) :
    ∃ metadata, run settings call files = .ok ((ToolResponse.text
      (page content offset (if limit = 0 then pageLength else limit))).withMetadata metadata) := by
  obtain ⟨modified, hfind⟩ := FileTree.find_of_readText hfile.read
  have hnamed : raw.isEmpty = false := by simpa using hfile.named
  have hsize : ¬content.toUTF8.size > sizeLimit := Nat.not_lt.mpr hfile.size
  have htext : String.fromUTF8? content.toUTF8 = some content :=
    FileTree.fromUTF8?_eq_some_iff.mpr rfl
  have hrun :
      run settings call files = answer files (settings.resolve raw) ⟨raw, offset, limit⟩ := by
    simp [run, hparse, hnamed, bind, Except.bind]
  rw [hrun, answer, hfind]
  simp only [showFile, hsize, if_false, hfile.noImage, htext]
  exact ⟨_, rfl⟩

/-- Any call that asks for a page is answered with it. -/
theorem run_shows (hfile : Viewable settings files raw content) {call : Invocation}
    (hparse : call.parameters? Request.shape = .ok ⟨raw, offset, limit⟩) :
    ∃ r, run settings call files = .ok r ∧
      Shows content offset (if limit = 0 then 2000 else limit) r := by
  obtain ⟨metadata, hrun⟩ := run_eq hfile hparse
  have hlimit : 0 < if limit = 0 then pageLength else limit := by
    split_ifs with h
    · decide
    · exact Nat.pos_of_ne_zero h
  exact ⟨_, hrun, shows_page content offset hlimit metadata⟩

/-- A reader that goes on from an offset sees what the file has behind it. The induction is on the
number of lines that are left. -/
theorem exists_paging {view : Nat → ToolOutcome} (hlimit : 0 < limit)
    (hview : ∀ offset ≤ (listing content).length, ∃ r, view offset = .ok r ∧
      Shows content offset limit r) (offset : Nat) (hoffset : offset ≤ (listing content).length) :
    ∃ pages, Paging view limit offset pages ∧
      pages.flatMap shownLines = (listing content).drop offset := by
  induction hleft : (listing content).length - offset using Nat.strongRecOn generalizing offset with
  | ind left ih =>
    obtain ⟨r, hr, hshows⟩ := hview offset hoffset
    by_cases hmore : offset + limit < (listing content).length
    · obtain ⟨pages, hpages, hrest⟩ := ih _ (by omega) (offset + limit) (Nat.le_of_lt hmore) rfl
      refine ⟨r :: pages, .more hr (hshows.goesOn_iff.mpr hmore) hpages, ?_⟩
      rw [List.flatMap_cons, hshows.shown, hrest, ← List.drop_drop, List.take_append_drop]
    · refine ⟨[r], .last hr fun h => hmore (hshows.goesOn_iff.mp h), ?_⟩
      rw [List.flatMap_singleton, hshows.shown, List.take_of_length_le]
      rw [List.length_drop]
      omega

/-- **A file is shown page by page, each line once.** Any call that asks for a page is answered with
it, with a notice exactly if lines follow; the number of its first line has to fit into 64 bits. A
reader that starts at the first line and goes on as long as there is a notice comes to an end, and
has then seen every line of the file once, in order and with its number. -/
theorem pages_cover (hfile : Viewable settings files raw content) :
    (∀ (call : Invocation) (offset limit : Nat), offset + 1 < 2 ^ 64 →
      call.parameters? Request.shape = .ok ⟨raw, offset, limit⟩ → ∃ r,
        run settings call files = .ok r ∧
          Shows content offset (if limit = 0 then 2000 else limit) r) ∧
    ∀ (limit : Nat) (ask : Nat → Invocation), 0 < limit →
      (∀ offset ≤ (Text.lines content).length,
        (ask offset).parameters? Request.shape = .ok ⟨raw, offset, limit⟩) →
      ∃ pages, (∀ pages', Paging (fun offset => run settings (ask offset) files) limit 0 pages' ↔
          pages' = pages) ∧
        pages.flatMap shownLines = listing content := by
  refine ⟨fun call offset limit _ hparse => run_shows hfile hparse, fun limit ask hlimit hask => ?_⟩
  have hview : ∀ offset ≤ (listing content).length, ∃ r,
      run settings (ask offset) files = .ok r ∧ Shows content offset limit r := by
    intro offset hoffset
    rw [length_listing] at hoffset
    simpa [Nat.ne_of_gt hlimit] using run_shows hfile (hask offset hoffset)
  obtain ⟨pages, hpages, hshown⟩ := exists_paging hlimit hview 0 (Nat.zero_le _)
  exact ⟨pages, fun pages' => ⟨fun h => h.unique hpages, fun h => h ▸ hpages⟩, hshown⟩

/-- Three lines are read on two pages; a call without a limit shows all of them. -/
theorem pages_cover_threeLines :
    (∃ r, run workplace (Request.call ⟨"f", 0, 0⟩) (FileTree.oneFile "a\nb\nc".toUTF8) = .ok r ∧
      Shows "a\nb\nc" 0 2000 r) ∧
    ∃ pages, (∀ pages', Paging (fun offset => run workplace (Request.call ⟨"f", offset, 2⟩)
        (FileTree.oneFile "a\nb\nc".toUTF8)) 2 0 pages' ↔ pages' = pages) ∧
      pages.flatMap shownLines = ["     1→a", "     2→b", "     3→c"] := by
  have hplace : workplace.resolve "f" = Path.ofNames ["w", "f"] := by decide
  have hfile : Viewable workplace (FileTree.oneFile "a\nb\nc".toUTF8) "f" "a\nb\nc" := by
    refine ⟨by decide, ?_, by decide, by decide⟩
    rw [hplace]
    exact FileTree.readText_of_find (FileTree.find_oneFile _)
  have hlines : (Text.lines "a\nb\nc").length = 3 := by decide
  have hcover := pages_cover hfile
  refine ⟨hcover.1 _ 0 0 (by decide) (Request.parameters?_call (by decide) (by decide)), ?_⟩
  refine hcover.2 2 (fun offset => Request.call ⟨"f", offset, 2⟩)
    (by decide) fun offset hoffset => ?_
  rw [hlines] at hoffset
  have htwo : 2 ≤ Numeral.wordMax := by decide
  exact Request.parameters?_call (hoffset.trans (by decide)) htwo

end AgentDesk.View

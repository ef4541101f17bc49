import AgentDesk.Proofs.Paths
import AgentDesk.Proofs.Text.Occurrences
import AgentDesk.Proofs.Workbench.MultiEdit
import AgentDesk.Proofs.Workbench.Write
/-!
# The guard of protected locations

The tools that change files refuse to touch what lies at or below a protected location. Whatever the
spelling of a path, they do so exactly if it denotes such a place, with two exceptions: a path that
is not known from the root is never refused, and behind `~/` a second slash starts at the root.

## Main definitions

* `Place.Protected` — a place at or below a protected location.
* `FileRequest` — a request to one of the tools that change files.
* `WorkbenchSettings.Adrift` — a text that means a path which is not known from the root.
-/

namespace AgentDesk

open Text (stripPrefix?)

variable {home place : Place} {p q : Path} {location raw : String}

/-! ## Protected places -/

/-- A place at or below a protected location, compared name by name. -/
def Place.Protected (home place : Place) : Prop :=
  ∃ location ∈ Path.guarded, Path.denoted home [] location <+: place

instance : Decidable (Place.Protected home place) :=
  inferInstanceAs (Decidable (∃ location ∈ Path.guarded, _ <+: place))

namespace Path

theorem contains_ofNames {names : List String} :
    (ofNames names).contains (ofNames place) = true ↔ names <+: place := by
  rw [← List.prefix_map_iff_of_injective (f := PathStep.name) fun a b h => PathStep.name.inj h,
    contains, Option.isSome_iff_exists]
  simp only [below?, ofNames, if_true, Text.dropPrefix?_eq_some_iff]
  exact exists_congr fun rest => eq_comm

/-- Whether a location is spelled with names only, below the root or the home directory. -/
def isPlain (location : String) : Bool :=
  match stripPrefix? "~/" location with
  | some rest => !(parse rest).absolute && (parse rest).steps.all PathStep.isName
  | none => (parse location).absolute && (parse location).steps.all PathStep.isName

theorem isPlain_of_mem_guarded : ∀ location ∈ guarded, isPlain location = true := by decide

theorem isName_join (hp : ∀ s ∈ p.steps, s.isName = true) (hq : ∀ s ∈ q.steps, s.isName = true) :
    ∀ s ∈ (p.join q).steps, s.isName = true := by
  intro s hs
  rw [join] at hs
  split at hs
  · exact hq s hs
  · rcases List.mem_append.mp hs with hs | hs
    · exact hp s hs
    · exact hq s (List.mem_filter.mp hs).1

/-- **The path of a protected location leads to the place that the location denotes.** -/
theorem guardedPath?_eq (h : location ∈ guarded) :
    guardedPath? (some (ofNames home)) location = some (ofNames (denoted home [] location)) := by
  have hplain := isPlain_of_mem_guarded location h
  rw [isPlain] at hplain
  rw [guardedPath?, denoted]
  cases hraw : stripPrefix? "~/" location with
  | none =>
    simp only [hraw, Bool.and_eq_true, List.all_eq_true] at hplain ⊢
    obtain ⟨habsolute, hnames⟩ := hplain
    rw [← absolute_parse, if_pos habsolute, ← normalize_of_isName hnames,
      normalize_of_absolute habsolute, placeFrom_parse, if_pos habsolute]
  | some rest =>
    simp only [hraw, Bool.and_eq_true, Bool.not_eq_true', List.all_eq_true] at hplain ⊢
    obtain ⟨hrelative, hnames⟩ := hplain
    have habsolute : ((ofNames home).join (parse rest)).absolute = true := by
      simp [absolute_join, ofNames]
    have hhome : ∀ s ∈ (ofNames home).steps, s.isName = true := by simp [ofNames, PathStep.isName]
    have hjoin := isName_join hhome hnames
    rw [Option.map_some, ← normalize_of_isName hjoin, normalize_of_absolute habsolute,
      placeFrom_join, placeFrom_ofNames, placeFrom_parse, hrelative]
    rfl

/-- **A path is guarded** if it starts at the root and means a protected place. -/
theorem isSome_guardedBy?_iff : (guardedBy? (some (ofNames home)) p).isSome = true ↔
    p.absolute = true ∧ Place.Protected home (p.placeFrom []) := by
  rw [guardedBy?, List.find?_isSome, Place.Protected]
  cases hp : p.absolute with
  | false =>
    -- A protected location is a path from the root.
    refine iff_of_false ?_ nofun
    rintro ⟨location, hlocation, hbelow⟩
    rw [guardedPath?_eq hlocation] at hbelow
    simp [contains, below?, ofNames, hp] at hbelow
  | true =>
    rw [normalize_of_absolute hp]
    simp only [true_and]
    refine exists_congr fun location => and_congr_right fun hlocation => ?_
    rw [guardedPath?_eq hlocation]
    exact contains_ofNames

end Path

/-- A text means a path that is not known from the root: it starts neither there nor at home, and
the working directory is not known from the root either. -/
def WorkbenchSettings.Adrift (s : WorkbenchSettings) (raw : String) : Prop :=
  s.directory.absolute = false ∧ stripPrefix? "~/" raw = none ∧ stripPrefix? "/" raw = none

/-- **The tools refuse the paths that lead to protected places** and are known from the root. -/
theorem WorkbenchSettings.isSome_guardedBy?_resolve (s : WorkbenchSettings)
    (hhome : s.home = some (Path.ofNames home)) (dir : Place) :
    (Path.guardedBy? s.home (s.resolve raw)).isSome = true ↔ ¬s.Adrift raw ∧
      Place.Protected home
        ((Path.located (some (Path.ofNames home)) s.directory raw).placeFrom dir) := by
  have hknown : (Path.located (some (Path.ofNames home)) s.directory raw).absolute = true ↔
      ¬s.Adrift raw := by
    rw [Path.absolute_located, Adrift]
    cases stripPrefix? "~/" raw <;> cases stripPrefix? "/" raw <;> cases s.directory.absolute <;>
      simp
  rw [resolve, Path.resolve, hhome, Path.isSome_guardedBy?_iff, Path.absolute_normalize, hknown]
  refine and_congr_right fun h => ?_
  have habsolute := hknown.mpr h
  rw [(Path.placeFrom_normalize_iff [] _).mpr fun hleaves => hleaves.2 rfl,
    ← Path.placeFrom_of_absolute habsolute]

/-! ## Requests -/

/-- A tool answered that it is not allowed to do what it was asked. -/
def ToolOutcome.Denied (outcome : ToolOutcome) : Prop :=
  ∃ tool reason, outcome = .error (.denied tool reason)

theorem ToolOutcome.not_denied_ok (response : ToolResponse) :
    ¬ToolOutcome.Denied (.ok response) := by
  rintro ⟨tool, reason, h⟩
  cases h

theorem ToolOutcome.not_denied_execution (tool reason : String) :
    ¬ToolOutcome.Denied (.error (.execution tool reason)) := by
  rintro ⟨tool', reason', h⟩
  cases h

open ToolOutcome (not_denied_ok not_denied_execution)

/-- What a tool does with a path that it may write to ends without such an answer. -/
theorem Write.not_denied_store (files : FileTree) (path : Path) (content : String) :
    ¬(Write.store files path content).1.Denied := by
  rw [Write.store]
  dsimp only
  split
  · exact not_denied_ok _
  · split
    · exact not_denied_execution _ _
    · split
      · exact not_denied_execution _ _
      · exact not_denied_ok _

theorem Edit.not_denied_create (files : FileTree) (path : Path) (content : String) :
    ¬(Edit.create files path content).1.Denied := by
  rw [Edit.create]
  split
  · exact not_denied_ok _
  · exact not_denied_ok _
  · split
    · exact not_denied_execution _ _
    · split
      · exact not_denied_execution _ _
      · exact not_denied_ok _

theorem Edit.not_denied_replace (files : FileTree) (path : Path) (r : Text.Replacement) :
    ¬(Edit.replace files path r).1.Denied := by
  rw [Edit.replace]
  split
  · exact not_denied_ok _
  · exact not_denied_ok _
  · split
    · exact not_denied_execution _ _
    · split
      · exact not_denied_ok _
      · split
        · exact not_denied_ok _
        · split
          · exact not_denied_execution _ _
          · exact not_denied_ok _

theorem MultiEdit.not_denied_create (files : FileTree) (path : Path) (first : Text.Replacement)
    (rest : List Text.Replacement) : ¬(MultiEdit.create files path first rest).1.Denied := by
  rw [MultiEdit.create]
  dsimp only
  split
  · exact not_denied_ok _
  · split
    · exact not_denied_ok _
    · split
      · exact not_denied_execution _ _
      · split
        · exact not_denied_execution _ _
        · exact not_denied_ok _

theorem MultiEdit.not_denied_editExisting (files : FileTree) (path : Path)
    (edits : List Text.Replacement) : ¬(MultiEdit.editExisting files path edits).1.Denied := by
  rw [MultiEdit.editExisting]
  split
  · exact not_denied_ok _
  · exact not_denied_ok _
  · split
    · exact not_denied_execution _ _
    · dsimp only
      split
      · exact not_denied_ok _
      · split
        · exact not_denied_ok _
        · split
          · exact not_denied_execution _ _
          · exact not_denied_ok _

/-- A request to one of the tools that change files. -/
inductive FileRequest where
  | write (q : Write.Request)
  | edit (q : Edit.Request)
  | multiEdit (q : MultiEdit.Request)

namespace FileRequest

/-- The text for the file that is to be changed. -/
def path : FileRequest → String
  | .write q => q.path
  | .edit q => q.path
  | .multiEdit q => q.path

/-- A call asks for this. -/
def AskedBy (call : Invocation) : FileRequest → Prop
  | .write q => call.parameters? Write.Request.shape = .ok q
  | .edit q => call.parameters? Edit.Request.shape = .ok q
  | .multiEdit q => call.parameters? MultiEdit.Request.shape = .ok q

/-- The place that the text denotes. -/
def target (home : Place) (settings : WorkbenchSettings) (files : FileTree)
    (request : FileRequest) : Place :=
  Path.denoted home (settings.directory.placeFrom files.origin) request.path

/-- What the tool does with a call. -/
def run (settings : WorkbenchSettings) (call : Invocation) (files : FileTree) :
    FileRequest → ToolRun
  | .write _ => Write.run settings call files
  | .edit _ => Edit.run settings call files
  | .multiEdit _ => MultiEdit.run settings call files

/-- A request with which nothing is wrong, wherever its file lies. -/
def InOrder : FileRequest → Prop
  | .write q => q.path ≠ ""
  | .edit q => q.path ≠ "" ∧ ¬(q.replacement.old = "" ∧ q.replacement.new = "") ∧
      q.replacement.old ≠ q.replacement.new
  | .multiEdit q => q.path ≠ "" ∧ MultiEdit.fault? q.edits = none

variable {settings : WorkbenchSettings} {call : Invocation} {files : FileTree}
  {request : FileRequest}

/-- A request with which something is wrong is answered with that, and nothing is done. -/
theorem run_of_not_inOrder (settings : WorkbenchSettings) (files : FileTree)
    (hasked : request.AskedBy call) (hfault : ¬request.InOrder) : ∃ message,
      request.run settings call files = .refused files message := by
  cases request with
  | write q =>
    have hraw : q.path = "" := not_not.mp hfault
    simp only [run, Write.run, show call.parameters? _ = .ok q from hasked, hraw]
    exact ⟨_, rfl⟩
  | edit q =>
    simp only [run, Edit.run, show call.parameters? _ = .ok q from hasked]
    split_ifs with hraw hempty hsame
    · exact ⟨_, rfl⟩
    · exact ⟨_, rfl⟩
    · exact ⟨_, rfl⟩
    · exact absurd ⟨by simpa using hraw, by simpa using hempty, by simpa using hsame⟩ hfault
    · exact absurd ⟨by simpa using hraw, by simpa using hempty, by simpa using hsame⟩ hfault
  | multiEdit q =>
    simp only [run, MultiEdit.run, show call.parameters? _ = .ok q from hasked]
    split_ifs with hraw
    · exact ⟨_, rfl⟩
    · cases hreason : MultiEdit.fault? q.edits with
      | some reason => exact ⟨reason, rfl⟩
      | none => exact absurd ⟨by simpa using hraw, hreason⟩ hfault

/-- A request for a guarded path is denied if nothing else is wrong, and nothing is done. -/
theorem run_of_guarded (files : FileTree) (hasked : request.AskedBy call)
    (horder : request.InOrder)
    (hguarded : (Path.guardedBy? settings.home (settings.resolve request.path)).isSome = true) :
    ∃ tool reason, request.run settings call files = (.error (.denied tool reason), files) := by
  obtain ⟨location, hlocation⟩ := Option.isSome_iff_exists.mp hguarded
  cases request with
  | write q =>
    have hraw : q.path ≠ "" := horder
    rw [path] at hlocation
    simp only [run, Write.run, show call.parameters? _ = .ok q from hasked, String.isEmpty_iff,
      hraw, if_false, WorkbenchSettings.refusal?, hlocation, Option.map_some]
    exact ⟨_, _, rfl⟩
  | edit q =>
    obtain ⟨hraw, hempty, hsame⟩ := horder
    rw [path] at hlocation
    simp only [run, Edit.run, show call.parameters? _ = .ok q from hasked, String.isEmpty_iff, hraw,
      if_false, Bool.and_eq_true, hempty, beq_iff_eq, hsame, WorkbenchSettings.refusal?, hlocation,
      Option.map_some]
    exact ⟨_, _, rfl⟩
  | multiEdit q =>
    obtain ⟨hraw, hfault⟩ := horder
    obtain ⟨first, rest, hedits, -⟩ := MultiEdit.fault?_eq_none hfault
    rw [path] at hlocation
    rw [hedits] at hfault
    simp only [run, MultiEdit.run, show call.parameters? _ = .ok q from hasked, String.isEmpty_iff,
      hraw, if_false, hedits, hfault, WorkbenchSettings.refusal?, hlocation, Option.map_some]
    exact ⟨_, _, rfl⟩

/-- A request for another path is not denied. -/
theorem not_denied_of_open (hasked : request.AskedBy call)
    (hopen : Path.guardedBy? settings.home (settings.resolve request.path) = none) :
    ¬(request.run settings call files).1.Denied := by
  cases request with
  | write q =>
    rw [path] at hopen
    simp only [run, Write.run, show call.parameters? _ = .ok q from hasked,
      WorkbenchSettings.refusal?, hopen, Option.map_none]
    split_ifs
    · exact not_denied_ok _
    · exact not_denied_ok _
    · exact Write.not_denied_store _ _ _
  | edit q =>
    rw [path] at hopen
    simp only [run, Edit.run, show call.parameters? _ = .ok q from hasked,
      WorkbenchSettings.refusal?, hopen, Option.map_none]
    split_ifs
    · exact not_denied_ok _
    · exact not_denied_ok _
    · exact not_denied_ok _
    · exact Edit.not_denied_create _ _ _
    · exact Edit.not_denied_replace _ _ _
  | multiEdit q =>
    rw [path] at hopen
    simp only [run, MultiEdit.run, show call.parameters? _ = .ok q from hasked,
      WorkbenchSettings.refusal?, hopen, Option.map_none]
    split_ifs
    · exact not_denied_ok _
    · split
      · exact not_denied_ok _
      · exact not_denied_ok _
      · split_ifs
        · exact MultiEdit.not_denied_create _ _ _ _
        · exact MultiEdit.not_denied_editExisting _ _ _

/-- **A request is denied** if nothing is wrong with it and its path is guarded. -/
theorem denied_run_iff (settings : WorkbenchSettings) (files : FileTree)
    (hasked : request.AskedBy call) :
    (request.run settings call files).1.Denied ↔ request.InOrder ∧
      (Path.guardedBy? settings.home (settings.resolve request.path)).isSome = true := by
  by_cases horder : request.InOrder
  · cases hguard : Path.guardedBy? settings.home (settings.resolve request.path) with
    | none => simpa using not_denied_of_open hasked hguard
    | some location =>
      obtain ⟨tool, reason, hrun⟩ := run_of_guarded files hasked horder
        (Option.isSome_iff_exists.mpr ⟨location, hguard⟩)
      rw [hrun]
      exact iff_of_true ⟨tool, reason, rfl⟩ ⟨horder, rfl⟩
  · obtain ⟨message, hrun⟩ := run_of_not_inOrder settings files hasked horder
    rw [hrun]
    exact iff_of_false (not_denied_ok _) fun h => horder h.1

/-- Then no file is touched. -/
theorem untouched_of_denied (hasked : request.AskedBy call)
    (hdenied : (request.run settings call files).1.Denied) :
    (request.run settings call files).2 = files := by
  obtain ⟨horder, hguarded⟩ := (denied_run_iff settings files hasked).mp hdenied
  obtain ⟨tool, reason, hrun⟩ := run_of_guarded files hasked horder hguarded
  rw [hrun]

/-- **A request is denied exactly if its text denotes a protected place**, with two exceptions.
Whatever is denied is in order and leaves the files alone. A request in order is denied for a
protected place unless its path is not known from the root; and where a slash follows `~/`, the
place that counts is the one that the rest denotes from the root. -/
theorem denied_iff_protected (settings : WorkbenchSettings) (files : FileTree)
    (hhome : settings.home = some (Path.ofNames home))
    (hasked : request.AskedBy call) :
    ((request.run settings call files).1.Denied →
      request.InOrder ∧ (request.run settings call files).2 = files) ∧
    (request.InOrder →
      (((request.run settings call files).1.Denied ↔
          Place.Protected home (request.target home settings files)) ↔
        ¬(settings.Adrift request.path ∧
          Place.Protected home (request.target home settings files)) ∧
        ∀ rest, stripPrefix? "~/" request.path = some rest → (stripPrefix? "/" rest).isSome →
          (Place.Protected home (request.target home settings files) ↔
            Place.Protected home (Place.along [] rest)))) := by
  refine ⟨fun hdenied => ⟨((denied_run_iff settings files hasked).mp hdenied).1,
    untouched_of_denied hasked hdenied⟩, fun horder => ?_⟩
  rw [denied_run_iff settings files hasked, and_iff_right horder,
    settings.isSome_guardedBy?_resolve hhome files.origin, target]
  cases hraw : stripPrefix? "~/" request.path with
  | none =>
    rw [Path.placeFrom_located_eq_denoted fun rest hrest => absurd hrest (by simp [hraw])]
    simp only [reduceCtorEq, false_implies, implies_true, and_true]
    tauto
  | some rest =>
    have hknown : ¬settings.Adrift request.path := by simp [WorkbenchSettings.Adrift, hraw]
    cases hslash : stripPrefix? "/" rest with
    | none =>
      rw [Path.placeFrom_located_eq_denoted fun rest' hrest => by
        rwa [← Option.some.inj (hraw.symm.trans hrest)]]
      simp [hknown, hslash]
    | some behind =>
      rw [Path.placeFrom_located_of_slash hraw (by simp [hslash])]
      simp [hknown, hslash, iff_comm]

end FileRequest

/-! ## A protected file that is written over -/

/-- A tree with a protected file, where relative paths start in the directory that the file lies in.
-/
def FileTree.accounts : FileTree :=
  { ((empty 5).put ["etc"] .directory).put ["etc", "passwd"] (.file ⟨#[]⟩ 5) with
    origin := ["etc"] }

namespace FileTree

theorem sound_accounts : accounts.Sound := by
  have hetc : ((empty 5).put ["etc"] .directory).Sound :=
    (sound_empty 5).put (rfl : (empty 5).node? [] = _)
      (by rw [show (empty 5).node? _ = none from rfl]; nofun) _
  have hpasswd :
      (((empty 5).put ["etc"] .directory).put ["etc", "passwd"] (.file ⟨#[]⟩ 5)).Sound := by
    refine hetc.put (rfl : ((empty 5).put ["etc"] .directory).node? ["etc"] = _) ?_ _
    rw [show ((empty 5).put ["etc"] .directory).node? _ = none from rfl]
    nofun
  exact ⟨hpasswd.parent, rfl⟩

theorem find_accounts : accounts.find (Path.parse "passwd") = .ok (.file ⟨#[]⟩ 5) := by
  have hpath : Path.parse "passwd" = ⟨false, [.name "passwd"]⟩ := by decide
  refine find_eq_ok_iff.mpr ⟨["etc", "passwd"], ?_, rfl⟩
  rw [hpath, FileTree.locate, if_neg (by decide), if_neg (by decide), if_neg (by decide)]
  exact locateFrom_last (by decide) fun target h => by cases h

/-- The file may be written anew. -/
theorem accepts_accounts : accounts.Accepts (Path.parse "passwd") := by
  have habove : (Path.parse "passwd").parent?.getD (Path.parse "passwd") = ⟨false, []⟩ := by decide
  refine ⟨accounts, by rw [habove]; rfl, fun content => ?_⟩
  obtain ⟨after, hwrite, -⟩ := exists_write find_accounts content
  exact ⟨after, hwrite⟩

end FileTree

/-- The working directory is the one where relative paths start. -/
def WorkbenchSettings.here : WorkbenchSettings :=
  ⟨Path.parse ".", some (Path.ofNames ["home"]), [], 0⟩

namespace FileRequest

/-- A request to write a file. -/
def overwrite (raw : String) : FileRequest := .write ⟨raw, "x"⟩

/-- What such a request does in `/etc`. -/
def overwritten (raw : String) : ToolRun :=
  (overwrite raw).run .here (Write.Request.call ⟨raw, "x"⟩) .accounts

theorem askedBy_overwrite (raw : String) :
    (overwrite raw).AskedBy (Write.Request.call ⟨raw, "x"⟩) :=
      Write.Request.parameters?_call ⟨raw, "x"⟩

/-- The file is found under its bare name, and its path is not guarded. -/
theorem read_overwritten :
    (overwritten "passwd").2.read (Path.parse "passwd") = .ok "x".toUTF8 := by
  have hpath : WorkbenchSettings.here.resolve "passwd" = Path.parse "passwd" := by decide
  have hfind := FileTree.find_accounts
  have haccepts := FileTree.accepts_accounts
  have hdirectory : FileTree.accounts.isDirectory (Path.parse "passwd") = false := by
    rw [FileTree.isDirectory, hfind]
  have hopen : Path.guardedBy? WorkbenchSettings.here.home (Path.parse "passwd") = none := by decide
  have hempty : FileTree.accounts.readText (Path.parse "passwd") = .ok "" :=
    FileTree.readText_of_find hfind
  have hchanged : ¬(FileTree.accounts.exists? (Path.parse "passwd") = true ∧
      Write.earlierText .accounts (Path.parse "passwd") = "x") := by
    simp [Write.earlierText, hempty]
  rw [← hpath] at hopen hdirectory hchanged haccepts ⊢
  rw [overwritten, overwrite, run, Write.run_eq (Write.Request.parameters?_call ⟨"passwd", "x"⟩)
    (by decide) hopen hdirectory]
  exact (Write.store_of_changed hchanged FileTree.sound_accounts haccepts).2

/-- From `/etc` a protected file is written over if the working directory is given as a dot,
although it is refused under its full name; and a file at home is refused because of a slash too
many. -/
theorem protected_written_from_etc :
    Place.Protected ["home"] ((overwrite "passwd").target ["home"] .here .accounts) ∧
    ¬(overwritten "passwd").1.Denied ∧
    (overwritten "passwd").2.read (Path.parse "passwd") = .ok "x".toUTF8 ∧
    ((overwritten "/etc/../etc//passwd").1.Denied ∧
      (overwritten "/etc/../etc//passwd").2 = .accounts) ∧
    ¬Place.Protected ["home"] ((overwrite "~//etc/passwd").target ["home"] .here .accounts) ∧
    (overwritten "~//etc/passwd").1.Denied := by
  have hruns (raw : String) := denied_iff_protected .here .accounts rfl (askedBy_overwrite raw)
  have horder {raw : String} (hraw : raw ≠ "") : (overwrite raw).InOrder := hraw
  have hbare : Place.Protected ["home"]
      ((overwrite "passwd").target ["home"] .here .accounts) := by decide
  have hfull : Place.Protected ["home"]
      ((overwrite "/etc/../etc//passwd").target ["home"] .here .accounts) := by decide
  have hathome : ¬Place.Protected ["home"]
      ((overwrite "~//etc/passwd").target ["home"] .here .accounts) := by decide
  refine ⟨hbare, fun hdenied => ?_, read_overwritten, ?_, hathome, ?_⟩
  · -- The path is not known from the root.
    have hadrift : WorkbenchSettings.here.Adrift "passwd" := ⟨by decide, by decide, by decide⟩
    have hexact := ((hruns "passwd").2 (horder (by decide))).mp (iff_of_true hdenied hbare)
    exact hexact.1 ⟨hadrift, hbare⟩
  · have hslash : stripPrefix? "~/" (overwrite "/etc/../etc//passwd").path = none := by decide
    have hexact := ((hruns "/etc/../etc//passwd").2 (horder (by decide))).mpr
      ⟨fun h => absurd h.1.2.2 (by decide), fun rest hrest => by rw [hslash] at hrest; cases hrest⟩
    exact ⟨hexact.mpr hfull, ((hruns "/etc/../etc//passwd").1 (hexact.mpr hfull)).2⟩
  · -- What counts is the place from the root.
    have hrest : stripPrefix? "~/" (overwrite "~//etc/passwd").path = some "/etc/passwd" := by
      decide
    by_contra hdenied
    have hexact := ((hruns "~//etc/passwd").2 (horder (by decide))).mp
      (iff_of_false hdenied hathome)
    exact hathome ((hexact.2 _ hrest (by decide)).mpr (by decide))

end FileRequest

end AgentDesk

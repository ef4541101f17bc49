import AgentDesk.Files
import Mathlib.Data.List.Basic
import Mathlib.Data.List.Induction
/-!
# Writing to file trees and reading back

In a sound tree everything lies in a directory. The operations that make directories and write files
keep a tree sound, and what was written to a path is read from it.

## Main definitions

* `FileTree.Sound` — everything lies in a directory.
* `FileTree.Accepts` — nothing keeps a file from being written to a path.
-/

namespace AgentDesk.FileTree

variable {t t' : FileTree} {path : Path} {place : Place} {node : FileNode} {steps : List PathStep}
  {dir : Place} {links : Nat} {follow : Bool} {content : ByteArray} {modified : Nat}

/-! ## The nodes of a tree -/

@[simp] theorem node?_nil (t : FileTree) : t.node? [] = some .directory := rfl

theorem node?_of_ne_nil (h : place ≠ []) : t.node? place = Table.get? place t.nodes := by
  cases place with
  | nil => exact absurd rfl h
  | cons n rest => rfl

theorem ne_nil_of_node? (h : t.node? place ≠ some .directory) : place ≠ [] := by
  rintro rfl
  exact h rfl

theorem node?_put_self (h : place ≠ []) : (t.put place node).node? place = some node := by
  rw [node?_of_ne_nil h, put, Table.get?_put_self]

theorem node?_put_of_ne {other : Place} (h : other ≠ place) :
    (t.put place node).node? other = t.node? other := by
  by_cases hother : other = []
  · rw [hother, node?_nil, node?_nil]
  · rw [node?_of_ne_nil hother, node?_of_ne_nil hother, put, Table.get?_put_of_ne h]

/-- Everything that lies in a tree lies in a directory, and relative paths start in one. -/
structure Sound (t : FileTree) : Prop where
  parent : ∀ dir name, t.node? (dir ++ [name]) ≠ none → t.node? dir = some .directory
  origin : t.node? t.origin = some .directory

theorem sound_empty (clock : Nat) : (empty clock).Sound where
  parent dir name h := absurd (node?_of_ne_nil (List.append_ne_nil_of_right_ne_nil dir (by simp))) h
  origin := rfl

theorem Sound.dropLast (h : t.Sound) (hdir : t.node? dir = some .directory) :
    t.node? dir.dropLast = some .directory := by
  rcases List.eq_nil_or_concat dir with rfl | ⟨above, name, rfl⟩
  · rfl
  · rw [List.concat_eq_append] at hdir ⊢
    rw [List.dropLast_concat]
    exact h.parent above name (by simp [hdir])

/-- A directory stays where it is when something else is replaced. -/
theorem node?_put_directory (hold : t.node? place ≠ some .directory)
    (hdir : t.node? dir = some .directory) (node : FileNode) :
    (t.put place node).node? dir = some .directory := by
  have hne : dir ≠ place := by
    rintro rfl
    exact hold hdir
  rw [node?_put_of_ne hne, hdir]

/-- A node may be put below a directory, unless it takes the place of a directory that may hold
others. -/
theorem Sound.put {name : String} (h : t.Sound) (hdir : t.node? dir = some .directory)
    (hold : t.node? (dir ++ [name]) ≠ some .directory) (node : FileNode) :
    (t.put (dir ++ [name]) node).Sound where
  parent above other hother := by
    by_cases hsame : above ++ [other] = dir ++ [name]
    · obtain rfl := List.append_inj_left' hsame rfl
      exact node?_put_directory hold hdir node
    · rw [node?_put_of_ne hsame] at hother
      exact node?_put_directory hold (h.parent above other hother) node
  origin := node?_put_directory hold h.origin node

theorem Sound.tick (h : t.Sound) (clock : Nat) : ({ t with clock } : FileTree).Sound :=
  ⟨h.parent, h.origin⟩

/-! ## Where paths lead -/

/-- A name that a directory lies under leads on to the directory. -/
theorem locateFrom_directory {name : String} (hname : ¬name.utf8ByteSize > nameLimit)
    (hnode : t.node? (dir ++ [name]) = some .directory) :
    t.locateFrom follow links dir (.name name :: steps) =
      t.locateFrom follow links (dir ++ [name]) steps := by
  rw [FileTree.locateFrom, if_neg hname, hnode]

/-- A last name leads to its place, unless the way goes on behind a link. -/
theorem locateFrom_last {name : String} (hname : ¬name.utf8ByteSize > nameLimit)
    (hlink : ∀ target, t.node? (dir ++ [name]) ≠ some (.link target)) :
    t.locateFrom follow links dir [.name name] = .ok (dir ++ [name]) := by
  rw [FileTree.locateFrom, if_neg hname]
  cases hnode : t.node? (dir ++ [name]) with
  | none => rfl
  | some node =>
    cases node with
    | file content modified => rfl
    | directory => simp [FileTree.locateFrom]
    | link target => exact absurd hnode (hlink target)

/-- **A path leads to a directory, or to a name in a directory**; and a followed path never leads
to a link. -/
theorem Sound.locateFrom (h : t.Sound) (hdir : t.node? dir = some .directory)
    (hlocate : t.locateFrom follow links dir steps = .ok place) :
    t.node? place = some .directory ∨
      ∃ above name, place = above ++ [name] ∧ t.node? above = some .directory ∧
        (follow → ∀ target, t.node? place ≠ some (.link target)) := by
  fun_induction t.locateFrom follow links dir steps with
  | case1 links dir =>
    cases hlocate
    exact .inl hdir
  | case2 links dir rest ih => exact ih hdir hlocate
  | case3 links dir rest ih => exact ih (h.dropLast hdir) hlocate
  | case5 links dir name rest hname hnode hrest =>
    cases hlocate
    exact .inr ⟨dir, name, rfl, hdir, fun _ target => by simp [hnode]⟩
  | case7 links dir name rest hname hnode ih => exact ih hnode hlocate
  | case8 links dir name rest hname content modified hnode hrest =>
    cases hlocate
    exact .inr ⟨dir, name, rfl, hdir, fun _ target => by simp [hnode]⟩
  | case10 links dir name rest hname target hnode hrest =>
    cases hlocate
    exact .inr ⟨dir, name, rfl, hdir, fun hfollow => by simp [hfollow] at hrest⟩
  | case12 dir name rest hname target hnode hrest links target' ih =>
    refine ih ?_ hlocate
    split
    · rfl
    · exact hdir
  | _ => cases hlocate

theorem Sound.locate (h : t.Sound) (hlocate : t.locate follow path = .ok place) :
    t.node? place = some .directory ∨
      ∃ above name, place = above ++ [name] ∧ t.node? above = some .directory ∧
        (follow → ∀ target, t.node? place ≠ some (.link target)) := by
  rw [FileTree.locate] at hlocate
  split_ifs at hlocate
  · exact h.locateFrom rfl hlocate
  · exact h.locateFrom h.origin hlocate

theorem Sound.node?_of_append (h : t.Sound) {below : Place}
    (hdir : t.node? (dir ++ below) = some .directory) : t.node? dir = some .directory := by
  induction below using List.reverseRecOn with
  | nil => rwa [List.append_nil] at hdir
  | append_singleton below name ih =>
    rw [← List.append_assoc] at hdir
    exact ih (h.parent _ name (by rw [hdir]; nofun))

/-- **Names lead to the directory at their place.** -/
theorem Sound.locateFrom_names (h : t.Sound) (dir : Place) (names : List String)
    (steps : List PathStep)
    (hnames : ∀ n ∈ names, ¬n.utf8ByteSize > nameLimit)
    (hdir : t.node? (dir ++ names) = some .directory) :
    t.locateFrom follow links dir (names.map .name ++ steps) =
      t.locateFrom follow links (dir ++ names) steps := by
  induction names generalizing dir with
  | nil => simp
  | cons name names ih =>
    rw [List.append_cons] at hdir ⊢
    rw [List.map_cons, List.cons_append,
      locateFrom_directory (hnames name List.mem_cons_self) (h.node?_of_append hdir),
      ih (dir ++ [name]) (fun n hn => hnames n (List.mem_cons_of_mem _ hn)) hdir]

/-- The path of a place in a directory leads to the place, if it is not too long for a path. -/
theorem Sound.locate_ofNames (h : t.Sound) (names : List String) (name : String)
    (hzero : (Path.ofNames (names ++ [name])).text.toList.elem '\x00' = false)
    (hlength : (Path.ofNames (names ++ [name])).text.utf8ByteSize ≤ pathLimit)
    (hnames : ∀ n ∈ names ++ [name], ¬n.utf8ByteSize > nameLimit)
    (hdir : t.node? names = some .directory)
    (hlink : ∀ target, t.node? (names ++ [name]) ≠ some (.link target)) :
    t.locate follow (Path.ofNames (names ++ [name])) = .ok (names ++ [name]) := by
  have hempty : (Path.ofNames (names ++ [name])).text.isEmpty = false := by
    simp [Path.text, Path.ofNames]
  rw [FileTree.locate, hzero, hempty]
  simp only [Bool.false_eq_true, if_false, Nat.not_lt.mpr hlength]
  rw [Path.ofNames, List.map_append, if_pos rfl,
    h.locateFrom_names [] names _ (fun n hn => hnames n (List.mem_append_left _ hn)) hdir,
    List.nil_append]
  exact locateFrom_last (hnames name (by simp)) hlink

/-- **A path still leads to the place that it led to when a file is put there**: no path goes on
behind a file or behind nothing. -/
theorem locateFrom_of_put (hdirectory : t.node? place ≠ some .directory)
    (hlink : ∀ target, t.node? place ≠ some (.link target))
    (hfile : t'.node? place = some (.file content modified))
    (hother : ∀ other, other ≠ place → t'.node? other = t.node? other)
    (hlocate : t.locateFrom true links dir steps = .ok place) :
    t'.locateFrom true links dir steps = .ok place := by
  -- What leads on is neither a file nor nothing, so it does not lie at the place.
  have hkept : ∀ other node, t.node? other = some node →
      node = .directory ∨ (∃ target, node = .link target) → t'.node? other = some node := by
    rintro other node hnode hkind
    rw [hother other ?_, hnode]
    rintro rfl
    rcases hkind with rfl | ⟨target, rfl⟩
    · exact hdirectory hnode
    · exact hlink target hnode
  fun_induction t.locateFrom true links dir steps with
  | case1 links dir =>
    cases hlocate
    rw [FileTree.locateFrom]
  | case2 links dir rest ih =>
    rw [FileTree.locateFrom]
    exact ih hlocate
  | case3 links dir rest ih =>
    rw [FileTree.locateFrom]
    exact ih hlocate
  | case5 links dir name rest hname hnode hrest =>
    cases hlocate
    rw [List.isEmpty_iff.mp hrest, locateFrom_last hname (by simp [hfile])]
  | case7 links dir name rest hname hnode ih =>
    rw [locateFrom_directory hname (hkept _ _ hnode (.inl rfl))]
    exact ih hlocate
  | case8 links dir name rest hname content' modified' hnode hrest =>
    cases hlocate
    rw [List.isEmpty_iff.mp hrest, locateFrom_last hname (by simp [hfile])]
  | case10 links dir name rest hname target hnode hrest => simp at hrest
  | case12 dir name rest hname target hnode hrest links target' ih =>
    rw [FileTree.locateFrom, if_neg hname, hkept _ _ hnode (.inr ⟨_, rfl⟩)]
    simp only [Bool.not_true, Bool.and_false, Bool.false_eq_true, if_false]
    exact ih hlocate
  | _ => cases hlocate

theorem find_of_put (hdirectory : t.node? place ≠ some .directory)
    (hlink : ∀ target, t.node? place ≠ some (.link target))
    (hfile : t'.node? place = some (.file content modified))
    (hother : ∀ other, other ≠ place → t'.node? other = t.node? other)
    (horigin : t'.origin = t.origin) (hlocate : t.locate true path = .ok place) :
    t'.find path = .ok (.file content modified) := by
  have hlocate' : t'.locate true path = .ok place := by
    rw [FileTree.locate] at hlocate ⊢
    rw [horigin]
    split_ifs at hlocate ⊢
    all_goals exact locateFrom_of_put hdirectory hlink hfile hother hlocate
  simp [find, hlocate', hfile, bind, Except.bind]

/-! ## Making directories -/

/-- **A directory is made where a path leads and nothing lies.** -/
theorem makeDirectory_eq_ok_iff : t.makeDirectory path = .ok t' ↔
    ∃ place, t.locate false path = .ok place ∧ t.node? place = none ∧
      t' = t.put place .directory := by
  rw [makeDirectory]
  cases hlocate : t.locate false path with
  | error e => simp [bind, Except.bind]
  | ok place => cases hnode : t.node? place <;> simp [bind, Except.bind, hnode, eq_comm]

theorem Sound.makeDirectory (h : t.Sound) (hmake : t.makeDirectory path = .ok t') : t'.Sound := by
  obtain ⟨place, hlocate, hnode, rfl⟩ := makeDirectory_eq_ok_iff.mp hmake
  rcases h.locate hlocate with hdirectory | ⟨above, name, rfl, habove, -⟩
  · rw [hnode] at hdirectory
    cases hdirectory
  · exact h.put habove (by simp [hnode]) .directory

/-- The tree that is left when directories were to be made: first those above, if they are missing,
and then the directory itself, if that can be made. -/
theorem makeDirectoriesFrom_cons (t : FileTree) (absolute : Bool) (s : PathStep)
    (above : List PathStep) :
    ∃ t', (t' = t ∨ t' = (t.makeDirectoriesFrom absolute above).2) ∧
      ((t.makeDirectoriesFrom absolute (s :: above)).2 = t' ∨
        t'.makeDirectory ⟨absolute, (s :: above).reverse⟩ =
          .ok (t.makeDirectoriesFrom absolute (s :: above)).2) := by
  rw [makeDirectoriesFrom]
  dsimp only
  split
  · split
    · rename_i t' habove
      refine ⟨t', .inr (by rw [habove]), ?_⟩
      cases hmake : t'.makeDirectory ⟨absolute, (s :: above).reverse⟩
      · exact .inl rfl
      · exact .inr rfl
    · exact ⟨_, .inr rfl, .inl rfl⟩
  · refine ⟨t, .inl rfl, ?_⟩
    cases hmake : t.makeDirectory ⟨absolute, (s :: above).reverse⟩
    · exact .inl rfl
    · exact .inr rfl

/-- **Directories are made in a sound way**, also when a failure leaves only some of them. -/
theorem Sound.makeDirectoriesFrom (h : t.Sound) (absolute : Bool) (steps : List PathStep) :
    (t.makeDirectoriesFrom absolute steps).2.Sound := by
  induction steps with
  | nil => exact h
  | cons s above ih =>
    obtain ⟨t', habove, hmade⟩ := makeDirectoriesFrom_cons t absolute s above
    have ht' : t'.Sound := by
      rcases habove with rfl | rfl
      · exact h
      · exact ih
    rcases hmade with heq | hmake
    · exact heq ▸ ht'
    · exact ht'.makeDirectory hmake

theorem Sound.makeDirectories (h : t.Sound) (path : Path) : (t.makeDirectories path).2.Sound :=
  h.makeDirectoriesFrom path.absolute path.steps.reverse

/-- Where the directory above is there, only one directory is to be made. -/
theorem makeDirectories_of_ne_notFound (hsteps : path.steps ≠ [])
    (habove : t.makeDirectory path ≠ .error .notFound) :
    t.makeDirectories path = match t.makeDirectory path with
      | .ok t' => (.ok (), t')
      | .error e => (if t.isDirectory path then .ok () else .error e, t) := by
  obtain ⟨s, above, hreverse⟩ :=
    List.exists_cons_of_ne_nil (List.reverse_eq_nil_iff.not.mpr hsteps)
  have hpath : (⟨path.absolute, (s :: above).reverse⟩ : Path) = path := by
    rw [← hreverse, List.reverse_reverse]
  rw [makeDirectories, hreverse, makeDirectoriesFrom]
  cases hmake : t.makeDirectory path with
  | ok t' => simp only [hpath, hmake]
  | error e =>
    cases e with
    | notFound => exact absurd hmake habove
    | _ => simp only [hpath, hmake]

theorem makeDirectories_of_makeDirectory (hsteps : path.steps ≠ [])
    (hmake : t.makeDirectory path = .ok t') : t.makeDirectories path = (.ok (), t') := by
  rw [makeDirectories_of_ne_notFound hsteps (by simp [hmake]), hmake]

/-- Nothing is made where a directory is. -/
theorem makeDirectories_of_isDirectory (hsteps : path.steps ≠ [])
    (hmake : t.makeDirectory path = .error .exists) (hdir : t.isDirectory path) :
    t.makeDirectories path = (.ok (), t) := by
  rw [makeDirectories_of_ne_notFound hsteps (by simp [hmake]), hmake]
  simp only [hdir, if_true]

/-! ## Reading -/

theorem find_eq_ok_iff : t.find path = .ok node ↔
    ∃ place, t.locate true path = .ok place ∧ t.node? place = some node := by
  rw [find]
  cases hlocate : t.locate true path with
  | error e => simp [bind, Except.bind]
  | ok place => cases hnode : t.node? place <;> simp [bind, Except.bind, hnode]

theorem exists?_eq_false_iff : t.exists? path = false ↔ ∃ e, t.find path = .error e := by
  rw [exists?]
  cases t.find path <;> simp

theorem exists?_iff : t.exists? path = true ↔ ∃ node, t.find path = .ok node := by
  rw [exists?]
  cases t.find path <;> simp

/-- What is found behind all links is not a link. -/
theorem Sound.find_ne_link (h : t.Sound) (target : String) : t.find path ≠ .ok (.link target) := by
  intro hfind
  obtain ⟨place, hlocate, hnode⟩ := find_eq_ok_iff.mp hfind
  rcases h.locate hlocate with hdirectory | ⟨above, name, rfl, -, hlink⟩
  · simp [hnode] at hdirectory
  · exact hlink rfl target hnode

theorem read_eq_ok_iff : t.read path = .ok content ↔
    ∃ modified, t.find path = .ok (.file content modified) := by
  rw [read]
  cases hfind : t.find path with
  | error e => simp [bind, Except.bind]
  | ok node => cases node <;> simp [bind, Except.bind]

/-- A path that leads to something, but not to a directory, leads to a file. -/
theorem Sound.exists_read (h : t.Sound) (hexists : t.exists? path = true)
    (hdirectory : t.isDirectory path = false) : ∃ content, t.read path = .ok content := by
  obtain ⟨node, hfind⟩ := exists?_iff.mp hexists
  cases node with
  | file content modified => exact ⟨content, read_eq_ok_iff.mpr ⟨modified, hfind⟩⟩
  | directory => simp [isDirectory, hfind] at hdirectory
  | link target => exact absurd hfind (h.find_ne_link target)

/-- The bytes of a text, and no others, are decoded as the text. -/
theorem fromUTF8?_eq_some_iff {text : String} :
    String.fromUTF8? content = some text ↔ content = text.toUTF8 := by
  rw [String.fromUTF8?, String.toUTF8]
  constructor
  · intro h
    split_ifs at h
    cases h
    rfl
  · rintro rfl
    rw [dif_pos text.isValidUTF8]
    rfl

theorem readText_eq_ok_iff {text : String} : t.readText path = .ok text ↔
    t.read path = .ok text.toUTF8 := by
  rw [readText]
  cases hread : t.read path with
  | error e => simp [bind, Except.bind]
  | ok content =>
    rw [Except.ok.injEq, ← fromUTF8?_eq_some_iff]
    cases htext : String.fromUTF8? content <;> simp [bind, Except.bind, htext]

theorem find_of_readText {text : String} (h : t.readText path = .ok text) :
    ∃ modified, t.find path = .ok (.file text.toUTF8 modified) :=
  read_eq_ok_iff.mp (readText_eq_ok_iff.mp h)

theorem readText_of_find {text : String} (h : t.find path = .ok (.file text.toUTF8 modified)) :
    t.readText path = .ok text :=
  readText_eq_ok_iff.mpr (read_eq_ok_iff.mpr ⟨modified, h⟩)

/-! ## Writing -/

/-- **A file is written unless the path leads nowhere or to a directory.** -/
theorem write_eq_ok_iff : t.write path content = .ok t' ↔
    ∃ place, t.locate true path = .ok place ∧ t.node? place ≠ some .directory ∧
      t' = { t.put place (.file content (t.clock + 1)) with clock := t.clock + 1 } := by
  rw [write]
  cases hlocate : t.locate true path with
  | error e => simp [bind, Except.bind]
  | ok place =>
    by_cases hdirectory : t.node? place = some .directory
    · simp [bind, Except.bind, hdirectory]
    · simp only [bind, Except.bind, Except.ok.injEq, exists_eq_left', ne_eq, hdirectory,
        not_false_eq_true, true_and]
      exact eq_comm

/-- **What was written is found**, and the tree is sound as before. -/
theorem Sound.find_write (h : t.Sound) (hwrite : t.write path content = .ok t') :
    t'.Sound ∧ t'.find path = .ok (.file content (t.clock + 1)) := by
  obtain ⟨place, hlocate, hnode, rfl⟩ := write_eq_ok_iff.mp hwrite
  rcases h.locate hlocate with hdirectory | ⟨above, name, rfl, habove, hlink⟩
  · exact absurd hdirectory hnode
  · refine ⟨(h.put habove hnode _).tick _, ?_⟩
    exact find_of_put hnode (hlink rfl) (node?_put_self (ne_nil_of_node? hnode))
      (fun other hother => node?_put_of_ne hother) rfl hlocate

/-- A file that is there can be written anew. -/
theorem exists_write (hfind : t.find path = .ok (.file content modified)) (content' : ByteArray) :
    ∃ t', t.write path content' = .ok t' ∧
      t'.find path = .ok (.file content' (t.clock + 1)) := by
  obtain ⟨place, hlocate, hnode⟩ := find_eq_ok_iff.mp hfind
  have hdirectory : t.node? place ≠ some .directory := by simp [hnode]
  refine ⟨_, write_eq_ok_iff.mpr ⟨place, hlocate, hdirectory, rfl⟩, ?_⟩
  exact find_of_put hdirectory (fun target => by simp [hnode])
    (node?_put_self (ne_nil_of_node? hdirectory)) (fun other hother => node?_put_of_ne hother) rfl
    hlocate

/-- Nothing keeps a file from being written to a path: the directories above it can be made, and
then the path leads to a place for a file. -/
def Accepts (t : FileTree) (path : Path) : Prop :=
  ∃ t', t.makeDirectories (path.parent?.getD path) = (.ok (), t') ∧
    ∀ content, ∃ t'', t'.write path content = .ok t''

/-- What is written to a path that accepts it is found there. -/
theorem Accepts.write (haccepts : t.Accepts path) (h : t.Sound) (content : ByteArray) :
    ∃ above t', t.makeDirectories (path.parent?.getD path) = (.ok (), above) ∧
      above.write path content = .ok t' ∧
        ∃ modified, t'.find path = .ok (.file content modified) := by
  obtain ⟨above, hmake, haccept⟩ := haccepts
  obtain ⟨t', hwrite⟩ := haccept content
  have habove : above.Sound := by
    have hsound := h.makeDirectories (path.parent?.getD path)
    rwa [hmake] at hsound
  exact ⟨above, t', hmake, hwrite, _, (habove.find_write hwrite).2⟩

/-! ## A directory with one file -/

/-- A tree with a directory and a file in it. -/
def oneFile (content : ByteArray) : FileTree :=
  ((empty 5).put ["w"] .directory).put ["w", "f"] (.file content 5)

theorem sound_oneFile (content : ByteArray) : (oneFile content).Sound := by
  have hw : ((empty 5).put ["w"] .directory).Sound :=
    (sound_empty 5).put (rfl : (empty 5).node? [] = _)
      (by rw [show (empty 5).node? _ = none from rfl]; nofun) _
  refine hw.put (rfl : ((empty 5).put ["w"] .directory).node? ["w"] = _) ?_ _
  rw [show ((empty 5).put ["w"] .directory).node? _ = none from rfl]
  nofun

theorem find_oneFile (content : ByteArray) :
    (oneFile content).find (Path.ofNames ["w", "f"]) = .ok (.file content 5) :=
  find_eq_ok_iff.mpr ⟨_, (sound_oneFile content).locate_ofNames ["w"] "f" (by decide)
    (by decide) (by decide) rfl nofun, rfl⟩

/-- Nothing is found below a directory that is missing. -/
theorem not_exists_oneFile_below (content : ByteArray) :
    (oneFile content).exists? (Path.ofNames ["w", "d", "f"]) = false := by
  have hlocate : (oneFile content).locate true (Path.ofNames ["w", "d", "f"]) =
      .error .notFound := by
    rw [FileTree.locate, if_neg (by decide), if_neg (by decide), if_neg (by decide)]
    refine ((sound_oneFile content).locateFrom_names [] ["w"] [.name "d", .name "f"] (by decide)
      rfl).trans ?_
    rw [FileTree.locateFrom, if_neg (by decide)]
    rfl
  refine exists?_eq_false_iff.mpr ⟨.notFound, ?_⟩
  rw [find, hlocate]
  rfl

/-- The file may be written anew. -/
theorem accepts_oneFile (content : ByteArray) :
    (oneFile content).Accepts (Path.ofNames ["w", "f"]) := by
  have hdirectory (follow : Bool) :
      (oneFile content).locate follow (Path.ofNames ["w"]) = .ok ["w"] :=
    (sound_oneFile content).locate_ofNames [] "w" (by decide) (by decide) (by decide) rfl nofun
  have hmake : (oneFile content).makeDirectory (Path.ofNames ["w"]) = .error .exists := by
    rw [makeDirectory, hdirectory]
    rfl
  have hfind : (oneFile content).isDirectory (Path.ofNames ["w"]) := by
    rw [isDirectory, find_eq_ok_iff.mpr ⟨_, hdirectory true, rfl⟩]
  refine ⟨_, makeDirectories_of_isDirectory (by decide) hmake hfind, fun new => ?_⟩
  obtain ⟨t', hwrite, -⟩ := exists_write (find_oneFile content) new
  exact ⟨t', hwrite⟩

/-- A file may be written in a directory that is missing yet. -/
theorem accepts_oneFile_below (content : ByteArray) :
    (oneFile content).Accepts (Path.ofNames ["w", "d", "f"]) := by
  have hsound := sound_oneFile content
  have hmake := makeDirectory_eq_ok_iff.mpr ⟨_, hsound.locate_ofNames ["w"] "d"
    (by decide) (by decide) (by decide) rfl nofun, rfl, rfl⟩
  have hlocate : ((oneFile content).put ["w", "d"] .directory).locate true
      (Path.ofNames ["w", "d", "f"]) = .ok ["w", "d", "f"] :=
    (hsound.makeDirectory hmake).locate_ofNames ["w", "d"] "f" (by decide) (by decide)
      (by decide) rfl nofun
  refine ⟨_, makeDirectories_of_makeDirectory (by decide) hmake, fun new => ?_⟩
  exact ⟨_, write_eq_ok_iff.mpr ⟨_, hlocate, nofun, rfl⟩⟩

end AgentDesk.FileTree

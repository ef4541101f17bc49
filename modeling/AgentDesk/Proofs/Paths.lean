import AgentDesk.Files
import AgentDesk.Proofs.Text.Pieces
import Mathlib.Data.List.Basic
import Mathlib.Data.List.TakeDrop
/-!
# The places that paths mean

Without looking at any file, a path means a place: each step leads on from the place before it. A
path that was normalized means the same place as before, with one exception: steps up at the start
of a relative path are lost, so that a path which leaves its start means another place afterwards,
unless the start is the root.

## Main definitions

* `Place.enter`, `Path.placeFrom` — where steps lead.
* `Path.LeavesStart` — a relative path that leads out of the directory where it starts.
* `Place.along`, `Path.denoted` — the place that a text denotes, read piece by piece.
-/

namespace AgentDesk

deriving instance ReflBEq, LawfulBEq for PathStep

/-- Whether a step is a name. -/
def PathStep.isName : PathStep → Bool
  | .name _ => true
  | _ => false

/-- Whether a step leads up. -/
def PathStep.isUp : PathStep → Bool
  | .up => true
  | _ => false

/-- The place where a step leads. There is nothing above the root. -/
def Place.enter (dir : Place) : PathStep → Place
  | .here => dir
  | .up => dir.dropLast
  | .name n => dir ++ [n]

namespace Path

variable {p q : Path} {dir : Place} {steps : List PathStep}

/-- The place that a path means from a directory. -/
def placeFrom (dir : Place) (p : Path) : Place :=
  p.steps.foldl Place.enter (if p.absolute then [] else dir)

/-- A relative path leads out of the directory where it starts: up to some step, there are more
steps up than names. -/
def LeavesStart (p : Path) : Prop :=
  p.absolute = false ∧ ∃ before, before <+: p.steps ∧
    before.countP PathStep.isName < before.countP PathStep.isUp

/-! ## Where steps lead -/

/-- How far steps lead above the directory where they start. -/
def climb : List PathStep → Nat
  | [] => 0
  | .here :: rest => climb rest
  | .up :: rest => climb rest + 1
  | .name _ :: rest => climb rest - 1

/-- Steps climb by more than `k` if, up to some step, there are so many more steps up than names. -/
theorem lt_climb_iff {k : Nat} : k < climb steps ↔ ∃ before, before <+: steps ∧
    before.countP PathStep.isName + k < before.countP PathStep.isUp := by
  induction steps generalizing k with
  | nil => simp [climb]
  | cons s steps ih =>
    have hsplit : (∃ before, before <+: s :: steps ∧
        before.countP PathStep.isName + k < before.countP PathStep.isUp) ↔
        ∃ before, before <+: steps ∧
          (s :: before).countP PathStep.isName + k < (s :: before).countP PathStep.isUp := by
      constructor
      · rintro ⟨before, hbegins, hlt⟩
        rcases List.prefix_cons_iff.mp hbegins with rfl | ⟨rest, rfl, hrest⟩
        · simp at hlt
        · exact ⟨rest, hrest, hlt⟩
      · rintro ⟨rest, hrest, hlt⟩
        exact ⟨s :: rest, List.cons_prefix_cons.mpr ⟨rfl, hrest⟩, hlt⟩
    rw [hsplit]
    cases s with
    | here => exact ih
    | up =>
      simp only [climb, List.countP_cons, PathStep.isName, PathStep.isUp]
      rcases k with _ | k
      · exact iff_of_true (Nat.succ_pos _) ⟨[], List.nil_prefix, by simp⟩
      · rw [Nat.add_lt_add_iff_right, ih]
        simp [← Nat.add_assoc]
    | name n =>
      simp only [climb, List.countP_cons, PathStep.isName, PathStep.isUp]
      rw [Nat.lt_sub_iff_add_lt, ih]
      simp [Nat.add_assoc, Nat.add_comm 1 k]

/-- **Steps take away the end of the place where they start, and add names.** -/
theorem foldl_enter (dir : Place) (steps : List PathStep) :
    steps.foldl Place.enter dir =
      dir.take (dir.length - climb steps) ++ steps.foldl Place.enter [] := by
  induction steps generalizing dir with
  | nil => simp [climb]
  | cons s steps ih =>
    rw [List.foldl_cons, List.foldl_cons, ih, ih (Place.enter [] s), ← List.append_assoc]
    congr 1
    cases s with
    | here => simp [Place.enter, climb]
    | up =>
      simp only [Place.enter, climb, List.take_nil, List.append_nil, List.dropLast_eq_take,
        List.take_take, List.length_take]
      congr 1
      omega
    | name n =>
      simp only [Place.enter, climb, List.nil_append, List.length_append, List.length_singleton,
        List.take_append]
      rw [show dir.length + 1 - climb steps - dir.length = 1 - climb steps by omega]
      congr 1
      -- Only if the way never leads out, the new name is kept.
      rcases Nat.eq_zero_or_pos (climb steps) with hstays | hclimbs
      · simp [hstays]
      · congr 1
        omega

/-- A relative path leads out of its start exactly if its steps climb. -/
theorem leavesStart_iff : p.LeavesStart ↔ p.absolute = false ∧ 0 < climb p.steps := by
  rw [LeavesStart, lt_climb_iff]
  simp only [Nat.add_zero]

theorem placeFrom_of_absolute (h : p.absolute = true) : p.placeFrom dir = p.placeFrom [] := by
  simp [placeFrom, h]

theorem placeFrom_of_relative (dir : Place) (h : p.absolute = false) :
    p.placeFrom dir = dir.take (dir.length - climb p.steps) ++ p.placeFrom [] := by
  simp only [placeFrom, h, Bool.false_eq_true, if_false]
  exact foldl_enter dir p.steps

/-- Names lead to the place below. -/
theorem foldl_enter_names (dir : Place) (names : List String) :
    (names.map PathStep.name).foldl Place.enter dir = dir ++ names := by
  induction names generalizing dir with
  | nil => simp
  | cons n names ih => simp [Place.enter, ih]

@[simp] theorem placeFrom_ofNames (dir : Place) (names : List String) :
    (ofNames names).placeFrom dir = names := by
  simp [placeFrom, ofNames, foldl_enter_names]

theorem foldl_enter_filter (dir : Place) (steps : List PathStep) :
    (steps.filter fun s => !(s == .here)).foldl Place.enter dir = steps.foldl Place.enter dir := by
  induction steps generalizing dir with
  | nil => rfl
  | cons s steps ih => cases s <;> exact ih _

/-- **A joined path means what the second path means from the place of the first.** -/
theorem placeFrom_join (dir : Place) (p q : Path) :
    (p.join q).placeFrom dir = q.placeFrom (p.placeFrom dir) := by
  cases hq : q.absolute with
  | true => simp [join, hq, placeFrom]
  | false => simp [join, hq, placeFrom, foldl_enter_filter]

theorem absolute_join : (p.join q).absolute = (q.absolute || p.absolute) := by
  cases hq : q.absolute <;> simp [join, hq]

/-! ## What normalizing keeps -/

@[simp] theorem absolute_normalize (p : Path) : p.normalize.absolute = p.absolute := rfl

/-- The steps taken so far are the names of the place reached, the last one first. -/
theorem foldl_walk (place : Place) (steps : List PathStep) :
    steps.foldl walk (place.map .name).reverse =
      ((steps.foldl Place.enter place).map .name).reverse := by
  induction steps generalizing place with
  | nil => rfl
  | cons s steps ih =>
    rw [List.foldl_cons, List.foldl_cons, ← ih]
    congr 1
    cases s with
    | here => rfl
    | up => simp [walk, Place.enter, List.tail_reverse, List.map_dropLast]
    | name n => simp [walk, Place.enter]

/-- **Normalizing leaves the names of the place that a path means** from the root. -/
theorem normalize_eq (p : Path) :
    p.normalize = ⟨p.absolute, (p.steps.foldl Place.enter []).map .name⟩ := by
  have h := foldl_walk [] p.steps
  simp only [List.map_nil, List.reverse_nil] at h
  rw [normalize, h, List.reverse_reverse]

theorem normalize_of_absolute (h : p.absolute = true) : p.normalize = ofNames (p.placeFrom []) := by
  rw [normalize_eq, ofNames, placeFrom, if_pos h, h]

theorem normalize_normalize (p : Path) : p.normalize.normalize = p.normalize := by
  simp only [normalize_eq, foldl_enter_names, List.nil_append]

/-- A path of names only is normalized already. -/
theorem normalize_of_isName (h : ∀ s ∈ p.steps, s.isName = true) : p.normalize = p := by
  have hsteps (steps : List PathStep) (hnames : ∀ s ∈ steps, s.isName = true) :
      ∃ names : List String, steps = names.map .name := by
    induction steps with
    | nil => exact ⟨[], rfl⟩
    | cons s steps ih =>
      obtain ⟨names, rfl⟩ := ih fun x hx => hnames x (List.mem_cons_of_mem _ hx)
      cases s with
      | name n => exact ⟨n :: names, rfl⟩
      | _ => exact absurd (hnames _ List.mem_cons_self) nofun
  obtain ⟨names, hnames⟩ := hsteps p.steps h
  rw [normalize_eq, hnames, foldl_enter_names, List.nil_append, ← hnames]

/-- What a relative path means after it was normalized: nothing is taken away from its start. -/
theorem placeFrom_normalize_of_relative (h : p.absolute = false) :
    p.normalize.placeFrom dir = dir ++ p.placeFrom [] := by
  simp [placeFrom, h, normalize_eq, foldl_enter_names]

/-- **Normalizing keeps the place of a path**, unless the path leaves its start and that is not the
root. -/
theorem placeFrom_normalize_iff (dir : Place) (p : Path) :
    p.normalize.placeFrom dir = p.placeFrom dir ↔ ¬(p.LeavesStart ∧ dir ≠ []) := by
  cases h : p.absolute with
  | true => simp [normalize_of_absolute h, placeFrom_of_absolute h, LeavesStart, h]
  | false =>
    rw [placeFrom_normalize_of_relative h, placeFrom_of_relative dir h,
      List.append_cancel_right_eq, eq_comm, List.take_eq_self_iff, leavesStart_iff,
      ← List.length_pos_iff]
    simp only [h, true_and]
    omega

/-- **A path below a directory may be normalized first**, under the same condition. -/
theorem normalize_join_iff (hp : p.absolute = true) :
    (p.join q).normalize = (p.join q.normalize).normalize ↔
      ¬(q.LeavesStart ∧ p.placeFrom [] ≠ []) := by
  have habsolute (r : Path) : (p.join r).absolute = true := by simp [absolute_join, hp]
  rw [normalize_of_absolute (habsolute q), normalize_of_absolute (habsolute q.normalize),
    placeFrom_join, placeFrom_join, ← placeFrom_normalize_iff, eq_comm]
  constructor
  · intro h
    rw [← placeFrom_ofNames [] (q.normalize.placeFrom _), h, placeFrom_ofNames]
  · exact congrArg ofNames

/-! ## What texts denote -/

end Path

/-- The place where a piece of a text leads: an empty piece and a dot lead nowhere, two dots up. -/
def Place.follow (dir : Place) (piece : String) : Place :=
  if piece = "" ∨ piece = "." then dir else if piece = ".." then dir.dropLast else dir ++ [piece]

/-- The place where the pieces of a text between its slashes lead from a directory. -/
def Place.along (dir : Place) (text : String) : Place :=
  (Text.splitChar '/' text).foldl Place.follow dir

namespace Path

variable {p q : Path} {dir : Place} {steps : List PathStep}

/-- The place that a text denotes: `~/` in front stands for the home directory and a slash in front
for the root, and everything else lies in the working directory. -/
def denoted (home dir : Place) (raw : String) : Place :=
  match Text.stripPrefix? "~/" raw with
  | some rest => home.along rest
  | none => if (Text.stripPrefix? "/" raw).isSome then Place.along [] raw else dir.along raw

theorem foldl_enter_stepOf? (dir : Place) (pieces : List String) :
    (pieces.filterMap stepOf?).foldl Place.enter dir = pieces.foldl Place.follow dir := by
  induction pieces generalizing dir with
  | nil => rfl
  | cons piece pieces ih =>
    rw [List.foldl_cons, ← ih]
    by_cases hnone : piece = "" ∨ piece = "."
    · simp [stepOf?, Place.follow, hnone]
    · by_cases hup : piece = ".."
      · simp [stepOf?, Place.follow, hup, Place.enter]
      · simp [stepOf?, Place.follow, hnone, hup, Place.enter]

/-- **A text that was read means the place where its pieces lead**, from the root if the path starts
there. -/
theorem placeFrom_parse (dir : Place) (text : String) :
    (parse text).placeFrom dir = Place.along (if (parse text).absolute then [] else dir) text := by
  rw [Place.along, parse]
  split
  · rename_i rest hpieces
    rw [hpieces]
    split
    · rename_i hrest
      rw [List.isEmpty_iff.mp hrest]
      rfl
    · exact foldl_enter_stepOf? [] rest
  · rename_i rest hpieces
    rw [hpieces]
    exact foldl_enter_stepOf? dir rest
  · exact foldl_enter_stepOf? dir _

/-- A text is read as a path from the root if its first piece is empty and not its only one. -/
theorem absolute_parse_iff {text : String} : (parse text).absolute = true ↔
    ∃ rest, Text.splitChar '/' text = "" :: rest ∧ rest ≠ [] := by
  rw [parse]
  split
  · rename_i rest hpieces
    cases rest <;> simp [hpieces]
  · rename_i rest hpieces
    simp [hpieces]
  · rename_i hother _
    exact iff_of_false nofun fun ⟨rest, hpieces, _⟩ => hother rest hpieces

/-- That is so if it starts with a slash. -/
theorem absolute_parse (text : String) :
    (parse text).absolute = (Text.stripPrefix? "/" text).isSome := by
  have hslash : "/".toList = ['/'] := rfl
  rw [Bool.eq_iff_iff, absolute_parse_iff, Text.splitChar, Text.splitOn_eq_splitOnP,
    Text.stripPrefix?, Option.isSome_map, hslash]
  cases text.toList with
  | nil => simp [Text.dropPrefix?]
  | cons c cs =>
    obtain ⟨first, more, hpieces⟩ :=
      List.exists_cons_of_ne_nil (List.splitOnP_ne_nil (· == '/') cs)
    rw [List.splitOnP_cons_eq_if_modifyHead, hpieces]
    by_cases hc : c = '/'
    · simp [hc, Text.dropPrefix?]
    · have hne : ¬ '/' = c := fun h => hc h.symm
      simp [hc, hne, Text.dropPrefix?]

/-- The names on a path that was read are no dots. -/
theorem stepOf?_eq_name {piece n : String} (h : stepOf? piece = some (.name n)) :
    n ≠ "" ∧ n ≠ "." ∧ n ≠ ".." := by
  rw [stepOf?] at h
  split_ifs at h with hnone hup
  · cases h
  · rw [Option.some.injEq, PathStep.name.injEq] at h
    rw [h, not_or] at hnone
    exact ⟨hnone.1, hnone.2, h ▸ hup⟩

theorem name_mem_parse {text n : String} (h : .name n ∈ (parse text).steps) :
    n ≠ "" ∧ n ≠ "." ∧ n ≠ ".." := by
  have hsteps : ∃ pieces : List String, .name n ∈ pieces.filterMap stepOf? := by
    rw [parse] at h
    split at h
    · split at h
      · simp at h
      · exact ⟨_, h⟩
    · exact ⟨_, (List.mem_cons.mp h).resolve_left nofun⟩
    · exact ⟨_, h⟩
  obtain ⟨pieces, hpieces⟩ := hsteps
  obtain ⟨piece, -, hpiece⟩ := List.mem_filterMap.mp hpieces
  exact stepOf?_eq_name hpiece

/-- The names of a place come from the steps that lead there. -/
theorem mem_foldl_enter {n : String} (h : n ∈ steps.foldl Place.enter dir) :
    n ∈ dir ∨ .name n ∈ steps := by
  induction steps generalizing dir with
  | nil => exact .inl h
  | cons s steps ih =>
    rcases ih h with hdir | hsteps
    · cases s with
      | here => exact .inl hdir
      | up => exact .inl (List.dropLast_subset dir hdir)
      | name m =>
        rcases List.mem_append.mp hdir with hdir | hm
        · exact .inl hdir
        · exact .inr (by simp [List.mem_singleton.mp hm])
    · exact .inr (List.mem_cons_of_mem _ hsteps)

/-- A path that was read and normalized holds names only, and none of them is a dot. -/
theorem mem_normalize_parse {text : String} {s : PathStep} (h : s ∈ (parse text).normalize.steps) :
    ∃ n, s = .name n ∧ n ≠ "" ∧ n ≠ "." ∧ n ≠ ".." := by
  rw [normalize_eq] at h
  obtain ⟨n, hn, rfl⟩ := List.mem_map.mp h
  exact ⟨n, rfl, name_mem_parse ((mem_foldl_enter hn).resolve_left nofun)⟩

/-! ## What users mean -/

/-- The place that a user's text means: behind `~/` stands a path from the home directory, which may
start at the root instead. -/
theorem placeFrom_located (home dir : Place) (base : Path) (raw : String) :
    (located (some (ofNames home)) base raw).placeFrom dir =
      match Text.stripPrefix? "~/" raw with
      | some rest => (parse rest).placeFrom home
      | none => (parse raw).placeFrom (base.placeFrom dir) := by
  cases hraw : Text.stripPrefix? "~/" raw with
  | none => simp [located, hraw, placeFrom_join]
  | some rest => simp [located, hraw, placeFrom_join]

/-- **A user's text means the place that it denotes**, unless a slash follows `~/`. -/
theorem placeFrom_located_eq_denoted {home dir : Place} {base : Path} {raw : String}
    (hplain : ∀ rest, Text.stripPrefix? "~/" raw = some rest → Text.stripPrefix? "/" rest = none) :
    (located (some (ofNames home)) base raw).placeFrom dir =
      denoted home (base.placeFrom dir) raw := by
  rw [placeFrom_located, denoted]
  cases hraw : Text.stripPrefix? "~/" raw with
  | none =>
    dsimp only
    rw [placeFrom_parse, absolute_parse]
    split <;> rfl
  | some rest =>
    dsimp only
    rw [placeFrom_parse, absolute_parse, hplain rest hraw]
    rfl

/-- If a slash follows `~/`, the text means what stands behind, from the root. -/
theorem placeFrom_located_of_slash {home dir : Place} {base : Path} {raw rest : String}
    (hraw : Text.stripPrefix? "~/" raw = some rest) (hslash : (Text.stripPrefix? "/" rest).isSome) :
    (located (some (ofNames home)) base raw).placeFrom dir = Place.along [] rest := by
  rw [placeFrom_located, hraw]
  dsimp only
  rw [placeFrom_parse, absolute_parse, hslash, if_pos rfl]

/-- A user's text means a path from the root if it starts there or at home, or if the working
directory is known from the root. -/
theorem absolute_located (home : Place) (base : Path) (raw : String) :
    (located (some (ofNames home)) base raw).absolute =
      ((Text.stripPrefix? "~/" raw).isSome || (Text.stripPrefix? "/" raw).isSome ||
        base.absolute) := by
  cases hraw : Text.stripPrefix? "~/" raw with
  | none => simp [located, hraw, absolute_join, absolute_parse]
  | some rest => simp [located, hraw, absolute_join, ofNames]

end Path

end AgentDesk

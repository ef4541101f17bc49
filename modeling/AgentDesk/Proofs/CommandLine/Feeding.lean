import AgentDesk.Proofs.CommandLine.Answers
/-!
# The order in which a chat is fed

A chat that is fed some lines lets everything happen behind a line before it takes the next one.
That is one of the orders in which lines can be typed, ends be heard of and the desk make steps, and
so all that is known of any order is known of it.

## Main definitions

* `Desk.Comes` — a desk comes to another one by steps of its tasks.
-/

namespace AgentDesk

/-! ## Settling -/

namespace Desk

variable {d d' d'' : Desk}

/-- A desk comes to another one by steps of its tasks. -/
def Comes (d d' : Desk) : Prop := ∃ tasks : List TaskId, d' = d.run (tasks.map .step)

theorem Comes.refl (d : Desk) : d.Comes d := ⟨[], rfl⟩

theorem Comes.trans (h : d.Comes d') (h' : d'.Comes d'') : d.Comes d'' := by
  obtain ⟨tasks, rfl⟩ := h
  obtain ⟨tasks', rfl⟩ := h'
  exact ⟨tasks ++ tasks', by rw [List.map_append, run_append]⟩

theorem comes_step {task : TaskId} (h : d.step? task = some d') : d.Comes d' :=
  ⟨[task], by simp [move, h]⟩

theorem comes_runTurn (i fuel : Nat) (r : Bool × Desk) : r.2.Comes (runTurn i fuel r).2 := by
  induction fuel generalizing r with
  | zero => exact .refl _
  | succ fuel ih =>
    obtain ⟨moved, d⟩ := r
    simp only [runTurn]
    split
    · rename_i d' htool
      exact (comes_step htool).trans (ih (true, d'))
    · split
      · exact .refl _
      · rename_i d' hturn
        split
        · exact comes_step hturn
        · exact (comes_step hturn).trans (ih (true, d'))

theorem comes_runErrand (i fuel : Nat) (r : Bool × Desk) : r.2.Comes (runErrand i fuel r).2 := by
  induction fuel generalizing r with
  | zero => exact .refl _
  | succ fuel ih =>
    obtain ⟨moved, d⟩ := r
    simp only [runErrand]
    split
    · rename_i d' hstep
      exact (comes_step hstep).trans (ih (true, d'))
    · exact .refl _

theorem comes_foldl {f : Bool × Desk → Nat → Bool × Desk}
    (hf : ∀ (r : Bool × Desk) i, r.2.Comes (f r i).2)
    (places : List Nat) (r : Bool × Desk) : r.2.Comes (places.foldl f r).2 := by
  induction places generalizing r with
  | nil => exact .refl _
  | cons i places ih => exact (hf r i).trans (ih (f r i))

theorem comes_pass (fuel : Nat) (d : Desk) : d.Comes (d.pass fuel).2 :=
  (comes_foldl (fun r i => comes_runTurn i fuel r) _ (false, d)).trans
    (comes_foldl (fun r i => comes_runErrand i fuel r) _ _)

theorem comes_settleWithin (passes fuel : Nat) (d : Desk) :
    d.Comes (settleWithin passes fuel d) := by
  induction passes generalizing d with
  | zero => exact .refl d
  | succ passes ih =>
    have hpass := d.comes_pass fuel
    simp only [settleWithin]
    split
    · rename_i d' heq
      rw [heq] at hpass
      exact hpass.trans (ih d')
    · rename_i d' heq
      rwa [heq] at hpass

/-- A desk settles by steps of its tasks. -/
theorem comes_settle (d : Desk) : d.Comes d.settle := comes_settleWithin _ _ d

end Desk

/-! ## Feeding -/

namespace Chat

variable {c : Chat}

theorem run_append (c : Chat) (before behind : List ChatMove) :
    c.run (before ++ behind) = (c.run before).run behind := List.foldl_append

theorem run_worked (c : Chat) (tasks : List TaskId) :
    c.run (tasks.map .worked) = { c with desk := c.desk.run (tasks.map .step) } := by
  induction tasks generalizing c with
  | nil => rfl
  | cons task tasks ih =>
    have hafter : c.after (.worked task) = { c with desk := c.desk.move (.step task) } := by
      simp only [after, step?, Desk.move]
      cases c.desk.step? task <;> rfl
    show (c.after (.worked task)).run _ = _
    rw [ih, hafter]
    rfl

theorem exists_run_settle (hopen : ¬ c.closed) : ∃ moves, c.settle = c.run moves := by
  obtain ⟨tasks, htasks⟩ := c.desk.comes_settle
  refine ⟨tasks.map .worked ++ [.heard], ?_⟩
  rw [run_append, run_worked, ← htasks]
  simp [run, after, step?, settle, hopen]

/-- A chat that is fed a line makes moves. -/
theorem exists_run_feed (c : Chat) (line : String) : ∃ moves, c.feed line = c.run moves := by
  unfold feed
  split
  · exact ⟨[], rfl⟩
  rename_i hclosed
  have htype : c.type line = c.run [.typed line] := by simp [run, after, step?, hclosed]
  dsimp only
  split
  · exact ⟨_, htype⟩
  rename_i hopen
  obtain ⟨moves, hmoves⟩ := exists_run_settle hopen
  exact ⟨[.typed line] ++ moves, by rw [run_append, ← htype, hmoves]⟩

/-- **A chat that is fed some lines makes moves**: the order in which everything happens there is
one of those in which it can. -/
theorem exists_run_feedAll (c : Chat) (lines : List String) :
    ∃ moves, c.feedAll lines = c.run moves := by
  have hlines : ∃ moves, lines.foldl feed c = c.run moves := by
    induction lines generalizing c with
    | nil => exact ⟨[], rfl⟩
    | cons line lines ih =>
      obtain ⟨moves, hmoves⟩ := c.exists_run_feed line
      obtain ⟨moves', hmoves'⟩ := ih (c.feed line)
      exact ⟨moves ++ moves', by rw [run_append, ← hmoves, ← hmoves', List.foldl_cons]⟩
  obtain ⟨moves, hmoves⟩ := hlines
  by_cases hclosed : (c.run moves).closed
  · refine ⟨moves, ?_⟩
    rw [feedAll, hmoves, ← hclosed]
  · refine ⟨moves ++ [.ended], ?_⟩
    have hended : (c.run moves).after .ended = { c.run moves with closed := true } := by
      simp [after, step?, hclosed]
    rw [run_append, feedAll, hmoves]
    exact hended.symm

/-- What a chat prints that is fed some lines, and what becomes of the ends of its turns. -/
theorem answers_feedAll {roster : Roster} {sources : List Source} {store : WatchedStore}
    {bench : Workbench} {before : List DeskMove} (lines : List String)
    (hd : c.desk = (Desk.openOn roster sources store bench).run before) (hp : c.pending = none) :
    ∃ moves, c.feedAll lines = c.run moves ∧ c.Answers moves := by
  obtain ⟨moves, hmoves⟩ := c.exists_run_feedAll lines
  exact ⟨moves, hmoves, answers_run moves hd hp⟩

end Chat

end AgentDesk

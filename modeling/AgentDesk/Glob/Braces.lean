/-!
# Alternatives in braces

A pattern may hold alternatives in braces, separated by commas and nested to any depth. It stands
for the patterns that come from choosing one alternative in each place. A brace that is never
closed, and everything behind it, stands for itself.

## Main definitions

* `cutBraces` — the alternatives of an open brace and the text behind its closing brace.
* `expandBraces` — the patterns that a pattern stands for, in the order of the choices.
-/

namespace AgentDesk.Glob

/-- The alternatives of a brace that was just opened, and the text behind its closing brace.
`depth` counts the braces that were opened inside it, `current` is the alternative being read and
`done` those before it, both in reverse. -/
def cutBraces (depth : Nat) (current : List Char) (done : List (List Char)) :
    List Char → Option (List (List Char) × List Char)
  | [] => none
  | c :: r =>
    if c = '{' then cutBraces (depth + 1) (c :: current) done r
    else if c = '}' then
      match depth with
      | 0 => some ((current.reverse :: done).reverse, r)
      | d + 1 => cutBraces d (c :: current) done r
    else if c = ',' ∧ depth = 0 then cutBraces 0 [] (current.reverse :: done) r
    else cutBraces depth (c :: current) done r

/-- With the text behind the brace, no alternative is longer than the text that was read. -/
theorem length_of_cutBraces {depth current done r alts after} {n : Nat}
    (h : cutBraces depth current done r = some (alts, after))
    (hcurrent : current.length + r.length ≤ n)
    (hdone : ∀ a ∈ done, a.length + r.length ≤ n) :
    ∀ a ∈ alts, a.length + after.length < n := by
  fun_induction cutBraces depth current done r with
  | case1 => simp at h
  | case2 depth current done r ih =>
    refine ih h (by simp at hcurrent ⊢; omega) fun a ha => ?_
    have := hdone a ha
    simp at this
    omega
  | case3 current done r _ =>
    simp only [Option.some.injEq, Prod.mk.injEq] at h
    obtain ⟨rfl, rfl⟩ := h
    intro a ha
    simp only [List.reverse_cons, List.mem_append, List.mem_reverse, List.mem_singleton] at ha
    rcases ha with ha | rfl
    · have := hdone a ha
      simp at this
      omega
    · simp at hcurrent ⊢
      omega
  | case4 current done r d _ ih =>
    refine ih h (by simp at hcurrent ⊢; omega) fun a ha => ?_
    have := hdone a ha
    simp at this
    omega
  | case5 depth current done c r _ _ _ ih =>
    refine ih h (by simp at hcurrent ⊢; omega) fun a ha => ?_
    simp only [List.mem_cons] at ha
    rcases ha with rfl | ha
    · simp at hcurrent ⊢
      omega
    · have := hdone a ha
      simp at this
      omega
  | case6 depth current done c r _ _ _ ih =>
    refine ih h (by simp at hcurrent ⊢; omega) fun a ha => ?_
    have := hdone a ha
    simp at this
    omega

/-- The part of a pattern in front of its first brace. -/
def plainPart (s : List Char) : List Char := s.takeWhile (· != '{')

/-- The part of a pattern behind its first brace. -/
def bracedPart (s : List Char) : List Char := (s.dropWhile (· != '{')).tail

theorem length_bracedPart_le (s : List Char) : (bracedPart s).length ≤ s.length := by
  have := (List.dropWhile_sublist (· != '{') (l := s)).length_le
  simp only [bracedPart, List.length_tail]
  omega

/-- The patterns that a pattern stands for, in the order of the choices. -/
def expand (s : List Char) : List (List Char) :=
  if '{' ∈ s then
    match h : cutBraces 0 [] [] (bracedPart s) with
    | none => [s]
    | some (alts, after) =>
      alts.attach.flatMap fun ⟨a, ha⟩ =>
        have : a.length + after.length < s.length :=
          Nat.lt_of_lt_of_le (length_of_cutBraces h (by simp) (by simp) a ha)
            (length_bracedPart_le s)
        (expand (a ++ after)).map (plainPart s ++ ·)
  else [s]
termination_by s.length

/-- The patterns that a pattern stands for. -/
def expandBraces (pattern : String) : List String :=
  (expand pattern.toList).map String.ofList

end AgentDesk.Glob

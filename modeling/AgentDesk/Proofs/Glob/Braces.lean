import AgentDesk.Glob.Braces
import Mathlib.Data.List.Basic
/-!
# What alternatives in braces stand for

A pattern is read once from the left, and each choice puts an alternative in the place of its brace
and reads on. The grammar of braces is said here without such a reading: a text is nested if its
braces belong together in pairs, and an alternative is a nested text without a comma outside of its
braces. Four rules fix what patterns stand for: the two kinds of text that stand for themselves, the
choice between alternatives, and the product of a text whose braces are closed with any text behind
it.

## Main definitions

* `Nested`, `Alternative` — what stands between braces.
* `Closed` — a brace that was just opened is closed; `Closing` — so are all braces of a text.
* `Expands` — the rules for what patterns stand for.
-/

namespace AgentDesk.Glob

/-! ## The grammar of braces -/

/-- A text whose braces belong together in pairs. -/
inductive Nested : List Char → Prop where
  | nil : Nested []
  | char {c : Char} {r : List Char} (hopen : c ≠ '{') (hclose : c ≠ '}') (hr : Nested r) :
    Nested (c :: r)
  | group {s r : List Char} (hs : Nested s) (hr : Nested r) : Nested ('{' :: s ++ '}' :: r)

/-- A nested text that has no comma outside of its braces. -/
inductive Alternative : List Char → Prop where
  | nil : Alternative []
  | char {c : Char} {r : List Char} (hopen : c ≠ '{') (hclose : c ≠ '}') (hcomma : c ≠ ',')
    (hr : Alternative r) : Alternative (c :: r)
  | group {s r : List Char} (hs : Nested s) (hr : Alternative r) :
    Alternative ('{' :: s ++ '}' :: r)

/-- A brace that was opened in front of the text is closed in it. -/
def Closed (r : List Char) : Prop := ∃ s q, Nested s ∧ r = s ++ '}' :: q

/-- Every brace that is opened in the text is closed in it. -/
def Closing : List Char → Prop
  | [] => True
  | c :: r => (c = '{' → Closed r) ∧ Closing r

/-- Alternatives with commas between them. -/
def listed (alts : List (List Char)) : List Char := [','].intercalate alts

/-- What patterns stand for. A text without a brace, or whose first brace is not closed, stands for
itself. Alternatives in braces stand in turn for what they stand for in the place of the braces. A
text whose braces are closed and a text behind it stand for all that the two stand for, the choices
in the first one going slower. -/
structure Expands (f : List Char → List (List Char)) : Prop where
  plain : ∀ s, '{' ∉ s → f s = [s]
  unclosed : ∀ p r, '{' ∉ p → ¬Closed r → f (p ++ '{' :: r) = [p ++ '{' :: r]
  choice : ∀ alts q, alts ≠ [] → (∀ a ∈ alts, Alternative a) →
    f ('{' :: listed alts ++ '}' :: q) = alts.flatMap fun a => f (a ++ q)
  product : ∀ p q, Closing p → f (p ++ q) = (f p).flatMap fun x => (f q).map (x ++ ·)

variable {a p q r s : List Char} {alts done : List (List Char)} {current after : List Char}

theorem Alternative.nested (h : Alternative a) : Nested a := by
  induction h with
  | nil => exact .nil
  | char hopen hclose _ _ ih => exact .char hopen hclose ih
  | group hs _ ih => exact .group hs ih

theorem Closed.append (h : Closed r) (q : List Char) : Closed (r ++ q) := by
  obtain ⟨s, q', hs, rfl⟩ := h
  exact ⟨s, q' ++ q, hs, by simp⟩

theorem Nested.closing_append (hs : Nested s) (hr : Closing r) : Closing (s ++ r) := by
  induction hs generalizing r with
  | nil => exact hr
  | char hopen _ _ ih => exact ⟨fun h => absurd h hopen, ih hr⟩
  | @group s t hs _ ihs iht =>
    rw [List.append_assoc]
    exact ⟨fun _ => ⟨s, t ++ r, hs, by simp⟩, ihs ⟨nofun, iht hr⟩⟩

theorem Closing.of_append (h : Closing (p ++ q)) : Closing q := by
  induction p with
  | nil => exact h
  | cons c p ih => exact ih h.2

theorem closing_of_notMem (h : '{' ∉ p) : Closing p := by
  induction p with
  | nil => trivial
  | cons c p ih =>
    rw [List.mem_cons, not_or] at h
    exact ⟨fun hc => absurd hc.symm h.1, ih h.2⟩

theorem listed_nil_cons : listed ([] :: a :: alts) = ',' :: listed (a :: alts) := by
  simp [listed, List.intercalate]

theorem listed_cons_append (s : List Char) :
    listed ((s ++ a) :: alts) = s ++ listed (a :: alts) := by
  cases alts <;> simp [listed, List.intercalate]

/-- What stands between braces is a list of alternatives. -/
theorem Nested.exists_listed (h : Nested s) :
    ∃ alts, alts ≠ [] ∧ (∀ a ∈ alts, Alternative a) ∧ s = listed alts := by
  induction h with
  | nil => exact ⟨[[]], by simp, by simp [Alternative.nil], rfl⟩
  | @char c r hopen hclose _ ih =>
    obtain ⟨_ | ⟨a, alts⟩, hne, halts, rfl⟩ := ih
    · exact absurd rfl hne
    rw [List.forall_mem_cons] at halts
    by_cases hc : c = ','
    · subst hc
      exact ⟨[] :: a :: alts, by simp, by simpa [Alternative.nil] using halts,
        listed_nil_cons.symm⟩
    · refine ⟨(c :: a) :: alts, by simp, ?_, (listed_cons_append [c]).symm⟩
      exact List.forall_mem_cons.mpr ⟨.char hopen hclose hc halts.1, halts.2⟩
  | @group s r hs _ _ ih =>
    obtain ⟨_ | ⟨a, alts⟩, hne, halts, rfl⟩ := ih
    · exact absurd rfl hne
    rw [List.forall_mem_cons] at halts
    refine ⟨('{' :: s ++ '}' :: a) :: alts, by simp, ?_, ?_⟩
    · exact List.forall_mem_cons.mpr ⟨.group hs halts.1, halts.2⟩
    · have hlisted : listed ((('{' :: s ++ ['}']) ++ a) :: alts) =
          ('{' :: s ++ ['}']) ++ listed (a :: alts) := listed_cons_append _
      simpa using hlisted.symm

/-! ## Cutting at a closing brace -/

/-- A nested text inside an alternative is read on. -/
theorem Nested.cutBraces (h : Nested s) (depth : Nat) :
    cutBraces (depth + 1) current done (s ++ r) =
      Glob.cutBraces (depth + 1) (s.reverse ++ current) done r := by
  induction h generalizing depth current r with
  | nil => rfl
  | char hopen hclose _ ih => simp [Glob.cutBraces, hopen, hclose, ih]
  | group _ _ ihs ihr => simp [Glob.cutBraces, ihs, ihr]

/-- An alternative is read to its end. -/
theorem Alternative.cutBraces (h : Alternative a) :
    cutBraces 0 current done (a ++ r) = Glob.cutBraces 0 (a.reverse ++ current) done r := by
  induction h generalizing current r with
  | nil => rfl
  | char hopen hclose hcomma _ ih => simp [Glob.cutBraces, hopen, hclose, hcomma, ih]
  | group hs _ ih => simp [Glob.cutBraces, hs.cutBraces, ih]

theorem cutBraces_listed_cons (halts : ∀ b ∈ a :: alts, Alternative b) :
    cutBraces 0 [] done (listed (a :: alts) ++ '}' :: q) = some (done.reverse ++ a :: alts, q) := by
  induction alts generalizing a done with
  | nil =>
    have ha := halts a (by simp)
    simp [listed, List.intercalate, ha.cutBraces, cutBraces]
  | cons b alts ih =>
    obtain ⟨ha, hrest⟩ := List.forall_mem_cons.mp halts
    have hlisted : listed (a :: b :: alts) = a ++ ',' :: listed (b :: alts) := by
      simp [listed, List.intercalate]
    rw [hlisted, List.append_assoc, ha.cutBraces]
    simp [cutBraces, ih hrest]

/-- Alternatives are told apart up to the closing brace. -/
theorem cutBraces_listed (hne : alts ≠ []) (halts : ∀ a ∈ alts, Alternative a) :
    cutBraces 0 [] [] (listed alts ++ '}' :: q) = some (alts, q) := by
  obtain ⟨a, alts, rfl⟩ := List.exists_cons_of_ne_nil hne
  exact cutBraces_listed_cons halts

/-- So many braces that were opened in front of the text are closed in it. -/
def ClosedBy : Nat → List Char → Prop
  | 0, _ => True
  | n + 1, r => ∃ s q, Nested s ∧ r = s ++ '}' :: q ∧ ClosedBy n q

theorem ClosedBy.cons {c : Char} {n : Nat} (hopen : c ≠ '{') (hclose : c ≠ '}')
    (h : ClosedBy (n + 1) r) : ClosedBy (n + 1) (c :: r) := by
  obtain ⟨s, q, hs, rfl, hq⟩ := h
  exact ⟨c :: s, q, .char hopen hclose hs, rfl, hq⟩

theorem closedBy_of_cutBraces {depth : Nat} {cut : List (List Char) × List Char}
    (h : cutBraces depth current done r = some cut) : ClosedBy (depth + 1) r := by
  fun_induction cutBraces depth current done r with
  | case1 => cases h
  | case2 depth current done r ih =>
    obtain ⟨s, _, hs, rfl, s', q, hs', rfl, hq⟩ := ih h
    exact ⟨'{' :: s ++ '}' :: s', q, .group hs hs', by simp, hq⟩
  | case3 current done r => exact ⟨[], r, .nil, rfl, trivial⟩
  | case4 current done r depth _ ih => exact ⟨[], r, .nil, rfl, ih h⟩
  | case5 depth current done c r hopen hclose hcomma ih =>
    obtain rfl := hcomma.2
    exact (ih h).cons hopen hclose
  | case6 depth current done c r hopen hclose hcomma ih => exact (ih h).cons hopen hclose

theorem cutBraces_eq_none_iff : cutBraces 0 [] [] r = none ↔ ¬Closed r := by
  constructor
  · rintro h ⟨s, q, hs, rfl⟩
    obtain ⟨alts, hne, halts, rfl⟩ := hs.exists_listed
    simp [cutBraces_listed hne halts] at h
  · intro h
    refine Option.eq_none_iff_forall_ne_some.mpr fun cut hcut => h ?_
    obtain ⟨s, q, hs, hr, -⟩ := closedBy_of_cutBraces hcut
    exact ⟨s, q, hs, hr⟩

/-- A closed brace holds a list of alternatives. -/
theorem Closed.exists_listed (h : Closed r) :
    ∃ alts q, alts ≠ [] ∧ (∀ a ∈ alts, Alternative a) ∧ r = listed alts ++ '}' :: q := by
  obtain ⟨s, q, hs, rfl⟩ := h
  obtain ⟨alts, hne, halts, rfl⟩ := hs.exists_listed
  exact ⟨alts, q, hne, halts, rfl⟩

/-! ## What a pattern is read as -/

theorem ne_brace_of_notMem (hp : '{' ∉ p) : ∀ c ∈ p, (c != '{') = true := by
  intro c hc
  exact bne_iff_ne.mpr fun h => hp (h ▸ hc)

theorem plainPart_append (hp : '{' ∉ p) : plainPart (p ++ '{' :: r) = p := by
  rw [plainPart, List.takeWhile_append_of_pos (ne_brace_of_notMem hp)]
  simp

theorem bracedPart_append (hp : '{' ∉ p) : bracedPart (p ++ '{' :: r) = r := by
  rw [bracedPart, List.dropWhile_append_of_pos (ne_brace_of_notMem hp)]
  simp

theorem expand_plain (h : '{' ∉ s) : expand s = [s] := by
  rw [expand, if_neg h]

theorem expand_of_cut (hs : '{' ∈ s) (h : cutBraces 0 [] [] (bracedPart s) = some (alts, after)) :
    expand s = alts.flatMap fun a => (expand (a ++ after)).map (plainPart s ++ ·) := by
  rw [expand, if_pos hs]
  split
  · rename_i hnone
    cases h.symm.trans hnone
  · rename_i alts' after' hcut
    obtain ⟨rfl, rfl⟩ := Prod.mk.inj (Option.some.inj (h.symm.trans hcut))
    have hall := List.flatMap_map Subtype.val
      (fun a => (expand (a ++ after)).map (plainPart s ++ ·)) alts.attach
    rw [List.attach_map_subtype_val] at hall
    exact hall.symm

theorem expand_unclosed (hp : '{' ∉ p) (hr : ¬Closed r) :
    expand (p ++ '{' :: r) = [p ++ '{' :: r] := by
  rw [expand, if_pos (by simp)]
  split
  · rfl
  · rename_i h
    rw [bracedPart_append hp, cutBraces_eq_none_iff.mpr hr] at h
    cases h

/-- The first choice of a pattern. -/
theorem expand_listed (hp : '{' ∉ p) (hne : alts ≠ []) (halts : ∀ a ∈ alts, Alternative a)
    (q : List Char) : expand (p ++ '{' :: (listed alts ++ '}' :: q)) =
      alts.flatMap fun a => (expand (a ++ q)).map (p ++ ·) := by
  have hcut : cutBraces 0 [] [] (bracedPart (p ++ '{' :: (listed alts ++ '}' :: q))) =
      some (alts, q) := by
    rw [bracedPart_append hp, cutBraces_listed hne halts]
  rw [expand_of_cut (by simp) hcut, plainPart_append hp]

/-- Putting an alternative in the place of its brace makes a text shorter. -/
theorem length_lt_of_mem (hne : alts ≠ []) (halts : ∀ b ∈ alts, Alternative b) (ha : a ∈ alts)
    (p q : List Char) : (a ++ q).length < (p ++ '{' :: (listed alts ++ '}' :: q)).length := by
  have hcut := cutBraces_listed (q := q) hne halts
  have := length_of_cutBraces hcut (Nat.le_of_eq (Nat.zero_add _)) nofun a ha
  simp only [List.length_append, List.length_cons] at this ⊢
  omega

/-- Where a pattern begins with a text without a brace, so does all that it stands for. -/
theorem expand_append_of_notMem (hp : '{' ∉ p) (q : List Char) :
    expand (p ++ q) = (expand q).map (p ++ ·) := by
  by_cases hq : '{' ∈ q
  · obtain ⟨p', r, rfl, hp'⟩ := List.eq_append_cons_of_mem hq
    have hpp' : '{' ∉ p ++ p' := by simp [hp, hp']
    rw [← List.append_assoc]
    by_cases hr : Closed r
    · obtain ⟨alts, q, hne, halts, rfl⟩ := hr.exists_listed
      rw [expand_listed hpp' hne halts, expand_listed hp' hne halts]
      simp [List.map_flatMap, Function.comp_def]
    · rw [expand_unclosed hpp' hr, expand_unclosed hp' hr]
      simp
  · rw [expand_plain hq, expand_plain (by simp [hp, hq])]
    rfl

/-- A text whose braces are closed and a text behind it: the choices in the one do not touch those
in the other. The first brace of the text decides, and behind it the text gets shorter. -/
theorem expand_append {p : List Char} (hp : Closing p) (q : List Char) :
    expand (p ++ q) = (expand p).flatMap fun x => (expand q).map (x ++ ·) := by
  by_cases hbrace : '{' ∈ p
  · obtain ⟨p', r, rfl, hp'⟩ := List.eq_append_cons_of_mem hbrace
    have hbehind := hp.of_append
    obtain ⟨alts, r, hne, halts, rfl⟩ := (hbehind.1 rfl).exists_listed
    have hr : Closing r := hbehind.2.of_append.2
    have ih : ∀ a ∈ alts, expand (a ++ (r ++ q)) =
        (expand (a ++ r)).flatMap fun x => (expand q).map (x ++ ·) := by
      intro a ha
      rw [← List.append_assoc]
      exact expand_append ((halts a ha).nested.closing_append hr) q
    have hbody : p' ++ '{' :: (listed alts ++ '}' :: r) ++ q =
        p' ++ '{' :: (listed alts ++ '}' :: (r ++ q)) := by simp
    rw [hbody, expand_listed hp' hne halts, expand_listed hp' hne halts, List.flatMap_assoc]
    refine List.flatMap_congr fun a ha => ?_
    rw [ih a ha, List.map_flatMap, List.flatMap_map]
    simp [Function.comp_def]
  · rw [expand_append_of_notMem hbrace, expand_plain hbrace, List.flatMap_singleton]
termination_by p.length
decreasing_by
  subst_vars
  exact length_lt_of_mem hne halts ha ..

/-! ## The rules determine what patterns stand for -/

theorem expands_expand : Expands expand where
  plain _ h := expand_plain h
  unclosed _ _ hp hr := expand_unclosed hp hr
  choice alts q hne halts := by
    simpa using expand_listed (p := []) (by simp) hne halts q
  product _ q hp := expand_append hp q

/-- There is no other reading: the first brace of a pattern tells which rule there is for it. -/
theorem Expands.eq_expand {f : List Char → List (List Char)} (hf : Expands f) (s : List Char) :
    f s = expand s := by
  by_cases hs : '{' ∈ s
  · obtain ⟨p, r, rfl, hp⟩ := List.eq_append_cons_of_mem hs
    by_cases hr : Closed r
    · obtain ⟨alts, q, hne, halts, rfl⟩ := hr.exists_listed
      have ih : ∀ a ∈ alts, f (a ++ q) = expand (a ++ q) := fun a ha => hf.eq_expand (a ++ q)
      have hchoice : f ('{' :: (listed alts ++ '}' :: q)) = alts.flatMap fun a => f (a ++ q) :=
        hf.choice alts q hne halts
      rw [hf.product p _ (closing_of_notMem hp), hf.plain p hp, List.flatMap_singleton, hchoice,
        expand_listed hp hne halts, List.map_flatMap]
      exact List.flatMap_congr fun a ha => by rw [ih a ha]
    · rw [hf.unclosed p r hp hr, expand_unclosed hp hr]
  · rw [hf.plain s hs, expand_plain hs]
termination_by s.length
decreasing_by
  subst_vars
  exact length_lt_of_mem hne halts ha ..

/-- **Patterns stand for what the rules say, and the rules leave nothing open:** a function keeps to
them if and only if it gives for every pattern the list that its expansion gives, in the same order
and as often. -/
theorem expandBraces_iff (f : List Char → List (List Char)) :
    Expands f ↔
      ∀ pattern : String, expandBraces pattern = (f pattern.toList).map String.ofList := by
  constructor
  · intro hf pattern
    rw [hf.eq_expand]
    rfl
  · intro h
    have hf : f = expand := by
      funext s
      have hs : (expand s).map String.ofList = (f s).map String.ofList := by
        simpa [expandBraces] using h (String.ofList s)
      exact (List.map_injective_iff.mpr (fun _ _ => String.ofList_inj.mp) hs).symm
    exact hf ▸ expands_expand

end AgentDesk.Glob

import AgentDesk.Proofs.Text.Words
import AgentDesk.Text.LowerCase
/-!
# Letters without their case

The lower-case form of a text depends on where its words end, for a capital sigma becomes another
letter there. Apart from the two small sigmas it is made character by character, and blanks and
marks stay what and where they are.

## Main definitions

* `caseless` — a text in which no letter has a case, and the two small sigmas are one letter.
* `Untouched` — lower case neither changes this character nor yields it.
* `EndsWords` — words end at this character.
-/

namespace AgentDesk.Text

variable {c d : Char} {n : Nat} {s before : List Char} {p : Char → Bool}

/-- The small sigma inside a word for the one at its end. -/
def unfinal (c : Char) : Char := if c.toNat = 0x3C2 then Char.ofNat 0x3C3 else c

/-- A text in which no letter has a case, and the two small sigmas are one letter. -/
def caseless (s : List Char) : List Char := s.flatMap fun c => (lowerChar c).map unfinal

/-! ## Lower case character by character -/

/-- The lower-case form of a character between two texts, the first of them in reverse. -/
def lowerForm (before : List Char) (c : Char) (r : List Char) : List Char :=
  if c.toNat == 0x3A3 then
    [Char.ofNat (if meetsCased before && !meetsCased r then 0x3C2 else 0x3C3)]
  else lowerChar c

theorem lowerFrom_eq (done before s : List Char) :
    lowerFrom done before s = done.reverse ++ lowerFrom [] before s := by
  induction s generalizing done before with
  | nil => simp [lowerFrom]
  | cons c s ih =>
    rw [lowerFrom, ih, lowerFrom, ih (List.reverse _ ++ [])]
    simp

theorem lowerFrom_cons (before : List Char) (c : Char) (s : List Char) :
    lowerFrom [] before (c :: s) = lowerForm before c s ++ lowerFrom [] (c :: before) s := by
  rw [lowerFrom, lowerFrom_eq, lowerForm]
  simp

theorem lowerChar_capital_sigma : lowerChar (Char.ofNat 0x3A3) = [Char.ofNat 0x3C3] := by
  decide +kernel

theorem map_unfinal_lowerForm (before : List Char) (c : Char) (r : List Char) :
    (lowerForm before c r).map unfinal = (lowerChar c).map unfinal := by
  rw [lowerForm]
  split
  · rename_i hsigma
    obtain rfl : c = Char.ofNat 0x3A3 := by rw [← Char.ofNat_toNat c, beq_iff_eq.mp hsigma]
    rw [lowerChar_capital_sigma]
    split <;> decide
  · rfl

/-- **A text in lower case is the text without cases**, apart from the two small sigmas. -/
theorem map_unfinal_lowerText (s : List Char) : (lowerText s).map unfinal = caseless s := by
  have hfrom (before : List Char) : (lowerFrom [] before s).map unfinal = caseless s := by
    induction s generalizing before with
    | nil => rfl
    | cons c s ih =>
      rw [lowerFrom_cons, List.map_append, ih, map_unfinal_lowerForm, caseless, caseless,
        List.flatMap_cons]
  exact hfrom []

/-! ## Blanks and marks -/

/-- Lower case neither changes this character nor yields it: it is not in the table, nor is it what
a row of the table leads to, and it is none of the characters that are treated by themselves. -/
structure Untouched (n : Nat) : Prop where
  ne_zero : n ≠ 0
  ne_dotted : n ≠ 0x130
  ne_dot : n ≠ 0x307
  ne_final : n ≠ 0x3C2
  ne_sigma : n ≠ 0x3C3
  not_capital : ¬(65 ≤ n ∧ n ≤ 90)
  not_small : ¬(97 ≤ n ∧ n ≤ 122)
  outside : ∀ row ∈ lowerRuns, ¬(row.1 ≤ n ∧ n ≤ row.2.1) ∧
    ¬((row.1 : Int) + row.2.2.2 ≤ n ∧ (n : Int) ≤ row.2.1 + row.2.2.2)

instance : DecidablePred Untouched := fun n =>
  decidable_of_iff (n ≠ 0 ∧ n ≠ 0x130 ∧ n ≠ 0x307 ∧ n ≠ 0x3C2 ∧ n ≠ 0x3C3 ∧ ¬(65 ≤ n ∧ n ≤ 90) ∧
      ¬(97 ≤ n ∧ n ≤ 122) ∧ ∀ row ∈ lowerRuns, ¬(row.1 ≤ n ∧ n ≤ row.2.1) ∧
        ¬((row.1 : Int) + row.2.2.2 ≤ n ∧ (n : Int) ≤ row.2.1 + row.2.2.2))
    ⟨fun ⟨h₁, h₂, h₃, h₄, h₅, h₆, h₇, h₈⟩ => ⟨h₁, h₂, h₃, h₄, h₅, h₆, h₇, h₈⟩,
      fun ⟨h₁, h₂, h₃, h₄, h₅, h₆, h₇, h₈⟩ => ⟨h₁, h₂, h₃, h₄, h₅, h₆, h₇, h₈⟩⟩

/-- A number that is no character stands for the first one. -/
theorem toNat_ofNat_or (n : Nat) : (Char.ofNat n).toNat = n ∨ (Char.ofNat n).toNat = 0 := by
  by_cases hvalid : n.isValidChar
  · rw [Char.ofNat, dif_pos hvalid]
    exact .inl rfl
  · rw [Char.ofNat, dif_neg hvalid]
    exact .inr rfl

theorem toLower_of_ascii : ∀ n < 128, (Char.ofNat n).toLower = Char.ofNat n ∨
    (65 ≤ n ∧ n ≤ 90 ∧ (Char.ofNat n).toLower.toNat = n + 32) := by decide

theorem lowerRow?_eq_some {row : Nat × Nat × Nat × Int} (h : lowerRow? n = some row) :
    row ∈ lowerRuns ∧ row.1 ≤ n ∧ n ≤ row.2.1 := by
  have hrow := List.find?_some h
  simp only [Bool.and_eq_true, decide_eq_true_eq] at hrow
  exact ⟨List.mem_of_find?_eq_some h, hrow.1⟩

theorem lowerChar_of_untouched (h : Untouched c.toNat) : lowerChar c = [c] := by
  rw [lowerChar]
  split_ifs with hascii hdot
  · have hlower := toLower_of_ascii c.toNat hascii
    rw [Char.ofNat_toNat] at hlower
    rw [hlower.resolve_right fun hcapital => h.not_capital ⟨hcapital.1, hcapital.2.1⟩]
  · exact absurd (beq_iff_eq.mp hdot) h.ne_dotted
  · cases hrow : lowerRow? c.toNat with
    | none => rfl
    | some row =>
      obtain ⟨hmem, hfirst, hlast⟩ := lowerRow?_eq_some hrow
      exact absurd ⟨hfirst, hlast⟩ (h.outside row hmem).1

theorem eq_of_mem_lowerChar (hd : d ∈ lowerChar c) (h : Untouched d.toNat) : d = c := by
  have hzero := h.ne_zero
  have hsmall := h.not_small
  rw [lowerChar] at hd
  split_ifs at hd with hascii hdot
  · have hlower := toLower_of_ascii c.toNat hascii
    rw [Char.ofNat_toNat, ← List.mem_singleton.mp hd] at hlower
    exact hlower.resolve_right fun h => by omega
  · rcases List.mem_cons.mp hd with rfl | hd
    · exact absurd ⟨by decide, by decide⟩ hsmall
    · exact absurd (by rw [List.mem_singleton.mp hd]; rfl) h.ne_dot
  · cases hrow : lowerRow? c.toNat with
    | none => simpa [hrow] using hd
    | some row =>
      obtain ⟨hmem, hfirst, hlast⟩ := lowerRow?_eq_some hrow
      rw [hrow] at hd
      have hd : d = Char.ofNat (c.toNat + row.2.2.2).toNat := List.mem_singleton.mp hd
      have hvalue := toNat_ofNat_or (c.toNat + row.2.2.2).toNat
      rw [← hd] at hvalue
      have himage := (h.outside row hmem).2
      omega

theorem untouched_of_isBlank (h : isBlank c = true) : Untouched c.toNat := by
  have hcodes : ∀ n ∈ [9, 10, 11, 12, 13, 0x20, 0x85, 0xA0, 0x1680, 0x2000, 0x2001, 0x2002, 0x2003,
      0x2004, 0x2005, 0x2006, 0x2007, 0x2008, 0x2009, 0x200A, 0x2028, 0x2029, 0x202F, 0x205F,
      0x3000], Untouched n := by decide +kernel
  refine hcodes _ ?_
  simp only [isBlank, Bool.or_eq_true, Bool.and_eq_true, decide_eq_true_eq, beq_iff_eq] at h
  simp only [List.mem_cons, List.not_mem_nil, or_false]
  omega

theorem unfinal_of_untouched (h : Untouched c.toNat) : unfinal c = c := if_neg h.ne_final

section Marks

/-! Marks are characters that lower case leaves untouched. -/

variable (hp : ∀ c, p c = true → Untouched c.toNat)

include hp

theorem mark_unfinal (c : Char) : p (unfinal c) = p c := by
  by_cases hfinal : c.toNat = 0x3C2
  · -- Neither of the two small sigmas is a mark.
    have hc : p c = false := Bool.eq_false_iff.mpr fun h => (hp c h).ne_final hfinal
    have hsigma : p (Char.ofNat 0x3C3) = false :=
      Bool.eq_false_iff.mpr fun h => (hp _ h).ne_sigma rfl
    rw [unfinal, if_pos hfinal, hc, hsigma]
  · rw [unfinal, if_neg hfinal]

theorem mark_caseless (h : p c = true) : ∃ d, (lowerChar c).map unfinal = [d] ∧ p d = true :=
  ⟨c, by rw [lowerChar_of_untouched (hp c h), List.map_singleton, unfinal_of_untouched (hp c h)], h⟩

theorem not_mark_caseless (h : p c = false) : ∀ d ∈ (lowerChar c).map unfinal, p d = false := by
  intro d hd
  obtain ⟨e, he, rfl⟩ := List.mem_map.mp hd
  rw [mark_unfinal hp]
  refine Bool.eq_false_iff.mpr fun hmark => ?_
  rw [eq_of_mem_lowerChar he (hp e hmark), h] at hmark
  cases hmark

/-- Lower case keeps the marks of a text and adds none. -/
theorem exists_mark_lowerText_iff : (∃ d ∈ lowerText s, p d = true) ↔ ∃ c ∈ s, p c = true := by
  constructor
  · rintro ⟨d, hd, hmark⟩
    have hcaseless : unfinal d ∈ caseless s := by
      rw [← map_unfinal_lowerText]
      exact List.mem_map_of_mem hd
    obtain ⟨c, hc, hform⟩ := List.mem_flatMap.mp hcaseless
    refine ⟨c, hc, Bool.not_eq_false _ |>.mp fun hnot => ?_⟩
    rw [← mark_unfinal hp, not_mark_caseless hp hnot _ hform] at hmark
    cases hmark
  · rintro ⟨c, hc, hmark⟩
    have hcaseless : c ∈ caseless s := by
      refine List.mem_flatMap.mpr ⟨c, hc, ?_⟩
      rw [lowerChar_of_untouched (hp c hmark), List.map_singleton,
        unfinal_of_untouched (hp c hmark)]
      exact List.mem_singleton_self c
    rw [← map_unfinal_lowerText] at hcaseless
    obtain ⟨d, hd, rfl⟩ := List.mem_map.mp hcaseless
    exact ⟨d, hd, by rwa [mark_unfinal hp] at hmark⟩

/-- **A text is cut at the same places with and without cases.** -/
theorem splitOnP_caseless (s : List Char) :
    (caseless s).splitOnP p = (s.splitOnP p).map caseless :=
  splitOnP_flatMap s (fun _ => mark_caseless hp) fun _ => not_mark_caseless hp

theorem splitOnP_map_unfinal (s : List Char) :
    (s.map unfinal).splitOnP p = (s.splitOnP p).map (·.map unfinal) := by
  have hcut := splitOnP_flatMap (p := p) (q := p) (f := fun c => [unfinal c]) s
    (fun c h => ⟨_, rfl, by rwa [mark_unfinal hp]⟩)
    (fun c h d hd => by rw [List.mem_singleton.mp hd, mark_unfinal hp, h])
  simpa only [← List.map_eq_flatMap] using hcut

end Marks

theorem words_caseless (s : List Char) : words (caseless s) = (words s).map caseless := by
  refine words_flatMap s (fun _ => mark_caseless fun _ => untouched_of_isBlank) fun c h =>
    ⟨?_, not_mark_caseless (fun _ => untouched_of_isBlank) h⟩
  rw [ne_eq, List.map_eq_nil_iff, lowerChar]
  split_ifs
  · simp
  · simp
  · cases lowerRow? c.toNat <;> simp

theorem isBlank_of_map_unfinal {v : List Char} (h : ∀ c ∈ v.map unfinal, isBlank c = false) :
    ∀ c ∈ v, isBlank c = false := by
  intro c hc
  have hblank := h (unfinal c) (List.mem_map_of_mem hc)
  rwa [mark_unfinal fun _ => untouched_of_isBlank] at hblank

theorem words_map_unfinal (s : List Char) :
    words (s.map unfinal) = (words s).map (·.map unfinal) := by
  rw [words, splitOnP_map_unfinal fun _ => untouched_of_isBlank, List.filter_map, words]
  congr 1
  exact List.filter_congr fun w _ => by simp

theorem words_caseless_eq (s : List Char) :
    words (caseless s) = (words (lowerText s)).map (·.map unfinal) := by
  rw [← words_map_unfinal, map_unfinal_lowerText]

/-! ## Texts that are put together -/

/-- Words end at this character: it neither belongs to a word nor is passed over. -/
def EndsWords (c : Char) : Prop := isCased c = false ∧ isPassedOver c = false

instance : DecidablePred EndsWords := fun _ => inferInstanceAs (Decidable (_ ∧ _))

theorem meetsCased_append (hends : EndsWords c) (x y : List Char) :
    meetsCased (x ++ c :: y) = meetsCased x := by
  induction x with
  | nil => simp [meetsCased, hends.1, hends.2]
  | cons d x ih =>
    cases hd : isPassedOver d with
    | true => simpa [meetsCased, hd] using ih
    | false => simp [meetsCased, hd]

/-- **Lower case may be made in parts** that an untouched mark separates, if words end at the mark.
-/
theorem lowerText_append (hc : Untouched c.toNat) (hends : EndsWords c) (x y : List Char) :
    lowerText (x ++ c :: y) = lowerText x ++ c :: lowerText y := by
  have hmeets := meetsCased_append hends
  have hbehind (before z : List Char) :
      lowerFrom [] (before ++ c :: z) y = lowerFrom [] before y := by
    induction y generalizing before with
    | nil => rfl
    | cons d y ih =>
      rw [lowerFrom_cons, lowerFrom_cons, ← List.cons_append, ih, lowerForm, lowerForm, hmeets]
  have hform (before r : List Char) : lowerForm before c r = [c] := by
    have hsigma : ¬c.toNat = 0x3A3 := fun h =>
      absurd (h ▸ hc) (show ¬Untouched 0x3A3 by decide +kernel)
    rw [lowerForm, if_neg (by simpa using hsigma), lowerChar_of_untouched hc]
  have hfrom (before : List Char) : lowerFrom [] before (x ++ c :: y) =
      lowerFrom [] before x ++ c :: lowerFrom [] [] y := by
    induction x generalizing before with
    | nil =>
      rw [List.nil_append, lowerFrom_cons, hform]
      simpa [lowerFrom] using hbehind [] before
    | cons d x ih =>
      rw [List.cons_append, lowerFrom_cons, lowerFrom_cons, ih, lowerForm, lowerForm, hmeets,
        List.append_assoc]
  exact hfrom []

/-! ## Spellings -/

/-- The small sigmas, inside a word and at its end. -/
def IsSigma (c : Char) : Prop := c.toNat = 0x3C2 ∨ c.toNat = 0x3C3

instance : DecidablePred IsSigma := fun _ => inferInstanceAs (Decidable (_ ∨ _))

theorem isSigma_unfinal : IsSigma (unfinal c) ↔ IsSigma c := by
  rw [unfinal]
  split_ifs with hfinal
  · exact iff_of_true (.inr rfl) (.inl hfinal)
  · rfl

theorem unfinal_of_not_isSigma (h : ¬IsSigma c) : unfinal c = c :=
  if_neg fun hfinal => h (.inl hfinal)

theorem lowerChar_of_isSigma (h : IsSigma c) : lowerChar c = [c] := by
  have hboth : ∀ n ∈ [0x3C2, 0x3C3], lowerChar (Char.ofNat n) = [Char.ofNat n] := by decide +kernel
  have hc := hboth c.toNat (by simpa [IsSigma] using h)
  rwa [Char.ofNat_toNat] at hc

/-- The lower-case form of a character is one character, unless it has no sigma. -/
theorem lowerChar_eq_singleton (hd : d ∈ lowerChar c) (h : IsSigma d) : lowerChar c = [d] := by
  rw [lowerChar] at hd ⊢
  split_ifs at hd ⊢ with hascii hdot
  · rw [List.mem_singleton.mp hd]
  · rcases List.mem_cons.mp hd with rfl | hd
    · exact absurd h (by decide)
    · rw [List.mem_singleton.mp hd] at h
      exact absurd h (by decide)
  · cases hrow : lowerRow? c.toNat <;> simp_all

/-- Texts without a sigma are the same if they are the same apart from the small sigmas. -/
theorem eq_of_map_unfinal {x y : List Char} (h : x.map unfinal = y.map unfinal)
    (hno : ∀ d ∈ y, ¬IsSigma d) : x = y := by
  induction y generalizing x with
  | nil => simpa using h
  | cons d y ih =>
    cases x with
    | nil => cases h
    | cons c x =>
      obtain ⟨hhead, htail⟩ := List.cons.inj h
      have hd := hno d List.mem_cons_self
      have hc : ¬IsSigma c := by rwa [← isSigma_unfinal, hhead, isSigma_unfinal]
      rw [unfinal_of_not_isSigma hc, unfinal_of_not_isSigma hd] at hhead
      rw [hhead, ih htail fun e he => hno e (List.mem_cons_of_mem _ he)]

theorem lowerText_eq_flatMap (h : ∀ c ∈ s, c.toNat ≠ 0x3A3) :
    lowerText s = s.flatMap lowerChar := by
  have hfrom (before : List Char) : lowerFrom [] before s = s.flatMap lowerChar := by
    induction s generalizing before with
    | nil => rfl
    | cons c s ih =>
      have hc : ¬(c.toNat == 0x3A3) = true := by simpa using h c List.mem_cons_self
      rw [lowerFrom_cons, ih fun d hd => h d (List.mem_cons_of_mem _ hd), List.flatMap_cons,
        lowerForm, if_neg hc]
  exact hfrom []

theorem not_untouched_of_isSigma (h : IsSigma c) : ¬Untouched c.toNat := fun huntouched =>
  h.elim huntouched.ne_final huntouched.ne_sigma

/-- **Every spelling of a text without cases is the lower case of a text**, which has the same
characters but for small sigmas. -/
theorem exists_lowerText_eq {v : List Char} (h : v.map unfinal = caseless s) :
    ∃ t, lowerText t = v ∧ ∀ c ∈ t, c ∈ s ∨ IsSigma c := by
  suffices hspelled : ∃ t : List Char, t.flatMap lowerChar = v ∧
      ∀ c ∈ t, c.toNat ≠ 0x3A3 ∧ (c ∈ s ∨ IsSigma c) by
    obtain ⟨t, hv, ht⟩ := hspelled
    exact ⟨t, by rw [lowerText_eq_flatMap fun c hc => (ht c hc).1, hv], fun c hc => (ht c hc).2⟩
  induction s generalizing v with
  | nil => exact ⟨[], by simpa [caseless, eq_comm] using h, nofun⟩
  | cons c s ih =>
    rw [caseless, List.flatMap_cons, ← caseless] at h
    obtain ⟨front, rest, rfl, hfront, hrest⟩ := List.map_eq_append_iff.mp h
    obtain ⟨t, rfl, ht⟩ := ih hrest
    have hothers : ∀ d ∈ t, d.toNat ≠ 0x3A3 ∧ (d ∈ c :: s ∨ IsSigma d) := fun d hd =>
      ⟨(ht d hd).1, (ht d hd).2.imp_left (List.mem_cons_of_mem _)⟩
    by_cases hsigma : ∃ d ∈ lowerChar c, IsSigma d
    · -- A sigma is spelled by itself.
      obtain ⟨d, hd, hd'⟩ := hsigma
      rw [lowerChar_eq_singleton hd hd', List.map_singleton] at hfront
      obtain ⟨x, rfl, hx⟩ := List.map_eq_singleton_iff.mp hfront
      have hx' : IsSigma x := by rwa [← isSigma_unfinal, hx, isSigma_unfinal]
      refine ⟨x :: t, by rw [List.flatMap_cons, lowerChar_of_isSigma hx'], ?_⟩
      refine List.forall_mem_cons.mpr ⟨⟨?_, .inr hx'⟩, hothers⟩
      rcases hx' with hx' | hx' <;> simp [hx']
    · -- Another character stays as it is.
      push Not at hsigma
      refine ⟨c :: t, by rw [List.flatMap_cons, eq_of_map_unfinal hfront hsigma], ?_⟩
      refine List.forall_mem_cons.mpr ⟨⟨fun hc => ?_, .inl List.mem_cons_self⟩, hothers⟩
      obtain rfl : c = Char.ofNat 0x3A3 := by rw [← Char.ofNat_toNat c, hc]
      refine hsigma (Char.ofNat 0x3C3) ?_ (.inr rfl)
      rw [lowerChar_capital_sigma]
      exact List.mem_singleton_self _

end AgentDesk.Text

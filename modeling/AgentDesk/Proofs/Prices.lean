import AgentDesk.Pricing
import AgentDesk.Proofs.Tables
import AgentDesk.Proofs.Text.LowerCase
import AgentDesk.Proofs.Text.Occurrences
import Mathlib.Data.List.Nodup
/-!
# Which price is found

The entries of a table of prices have no order of their own, and a search goes through them in some
order. An exact key and a key under the provider are found in every order. Of the keys that only
begin like the model, one with the longest bare name is found, and among those one that names no
provider if there is one. Keys that are equally good have the same bare name in lower case; which of
them is found is a matter of the order.

## Main definitions

* `PriceTable.Built` — the tables that are made by setting prices.
* `PriceTable.Best` — an entry that no other one precedes.
* `PriceTable.Priced` — what may be found for a model.
* `PriceTable.Settled` — the entries alone fix what is found.
-/

namespace AgentDesk.PriceTable

variable {t t' : PriceTable} {key provider model : String} {p : Prices} {e e' : String × Prices}
  {l : List (String × Prices)} {s front last : List Char}

/-! ## What may be found -/

/-- The keys of a table. -/
def keys (t : PriceTable) : List String := Table.keys t.entries

/-- The tables that are made from the usual one or the empty one by setting prices. -/
inductive Built : PriceTable → Prop where
  | standard : Built standard
  | empty : Built empty
  | set {t t' : PriceTable} {key : String} {p : Prices} (h : Built t)
    (hset : t.set? key p = .ok t') : Built t'

/-- The bare name of a key begins the bare name of a model, both in lower case. -/
def Begins (key model : String) : Prop := bareName key <+: bareName model

instance : Decidable (Begins key model) := inferInstanceAs (Decidable (_ <+: _))

/-- No other entry precedes this one for a model: its key begins the model, no key that does has a
longer bare name, and it names no provider unless all keys with its bare name do. -/
structure Best (t : PriceTable) (model : String) (e : String × Prices) : Prop where
  mem : e ∈ t.entries
  begins : Begins e.1 model
  longest : ∀ e' ∈ t.entries, Begins e'.1 model → (bareName e'.1).length ≤ (bareName e.1).length
  bare : ∀ e' ∈ t.entries, bareName e'.1 = bareName e.1 → isBare e'.1 = true → isBare e.1 = true

/-- What may be found for a model of a provider. -/
inductive Priced (t : PriceTable) (provider model : String) : Option Prices → Prop where
  | exact {p : Prices} (h : (model, p) ∈ t.entries) : Priced t provider model (some p)
  | qualified {p : Prices} (hexact : model ∉ t.keys) (h : (s!"{provider}/{model}", p) ∈ t.entries) :
    Priced t provider model (some p)
  | closest {e : String × Prices} (hexact : model ∉ t.keys)
    (hqualified : s!"{provider}/{model}" ∉ t.keys) (h : Best t model e) :
    Priced t provider model (some e.2)
  | unknown (hexact : model ∉ t.keys) (hqualified : s!"{provider}/{model}" ∉ t.keys)
    (h : ∀ e ∈ t.entries, ¬Begins e.1 model) : Priced t provider model none

/-- The entries alone fix what is found for a model: one of the two keys it may have is there, or
all that are equally good have the same prices. -/
def Settled (t : PriceTable) (provider model : String) : Prop :=
  model ∉ t.keys → s!"{provider}/{model}" ∉ t.keys →
    ∀ e e', Best t model e → Best t model e' → e.2 = e'.2

/-! ## Keys are distinct -/

theorem put_eq (key : String) (p : Prices) (l : List (String × Prices)) :
    put key p l = Table.put key p l := by
  induction l with
  | nil => rfl
  | cons e l ih => rw [put, Table.put, ih]

theorem set?_eq_ok (h : t.set? key p = .ok t') : t'.entries = Table.put key p t.entries := by
  unfold set? at h
  split_ifs at h
  cases h
  exact put_eq key p t.entries

theorem Built.nodup (h : Built t) : t.keys.Nodup := by
  induction h with
  | standard => decide
  | empty => exact List.nodup_nil
  | @set t t' key p h hset ih =>
    rw [keys, set?_eq_ok hset]
    exact Table.nodup_keys_put key p ih

theorem get?_eq_some_iff (h : t.keys.Nodup) : t.get? key = some p ↔ (key, p) ∈ t.entries := by
  have hget : t.get? key = Table.get? key t.entries := (Table.get?_eq_find? key t.entries).symm
  rw [hget]
  exact ⟨Table.mem_of_get?, fun hmem => Table.get?_of_mem h hmem⟩

theorem get?_eq_none_iff : t.get? key = none ↔ key ∉ t.keys := by
  have hget : t.get? key = Table.get? key t.entries := (Table.get?_eq_find? key t.entries).symm
  rw [hget]
  exact Table.get?_eq_none_iff

/-! ## Bare names -/

/-- What stands behind the last slash. -/
def lastPiece (s : List Char) : List Char := (Text.splitOn (· == '/') s).getLastD []

theorem lastPiece_of_notMem (h : '/' ∉ s) : lastPiece s = s := by
  have hnot : ∀ c ∈ s, (c == '/') = false := by
    intro c hc
    exact beq_eq_false_iff_ne.mpr fun hslash => h (hslash ▸ hc)
  rw [lastPiece, Text.splitOn_eq_splitOnP, List.splitOnP_eq_singleton hnot]
  rfl

theorem lastPiece_append (h : '/' ∉ last) : lastPiece (front ++ '/' :: last) = last := by
  have hlast := lastPiece_of_notMem h
  rw [lastPiece, Text.splitOn_eq_splitOnP] at hlast ⊢
  rw [List.splitOnP_append_cons front last rfl, List.getLastD_eq_getLast?,
    List.getLast?_append_of_ne_nil _ (List.splitOnP_ne_nil _ last), ← List.getLastD_eq_getLast?]
  exact hlast

theorem notMem_or_eq_append (s : List Char) :
    '/' ∉ s ∨ ∃ front last, s = front ++ '/' :: last ∧ '/' ∉ last := by
  by_cases h : '/' ∈ s
  · obtain ⟨last, front, hs, hlast⟩ := List.eq_append_cons_of_mem (List.mem_reverse.mpr h)
    refine .inr ⟨front.reverse, last.reverse, ?_, by simpa using hlast⟩
    have hs := congrArg List.reverse hs
    simpa using hs
  · exact .inl h

theorem slash_mem_lowerText : '/' ∈ Text.lowerText s ↔ '/' ∈ s := by
  have hmarks := Text.exists_mark_lowerText_iff (s := s) (p := fun c => c == '/') fun c hc => by
    rw [beq_iff_eq.mp hc]
    decide +kernel
  simpa using hmarks

/-- It makes no difference whether a name is written in lower case before it is cut or after. -/
theorem lastPiece_lowerText (s : List Char) :
    lastPiece (Text.lowerText s) = Text.lowerText (lastPiece s) := by
  rcases notMem_or_eq_append s with h | ⟨front, last, rfl, h⟩
  · rw [lastPiece_of_notMem h, lastPiece_of_notMem (mt slash_mem_lowerText.mp h)]
  · rw [Text.lowerText_append (by decide +kernel) (by decide +kernel), lastPiece_append h,
      lastPiece_append (mt slash_mem_lowerText.mp h)]

/-- The entries whose keys begin a model, in the order of the table. -/
def matching (t : PriceTable) (model : String) : List (String × Prices) :=
  t.entries.filter fun e => Text.startsWith (bareName e.1) (bareName model)

theorem mem_matching : e ∈ t.matching model ↔ e ∈ t.entries ∧ Begins e.1 model := by
  rw [matching, List.mem_filter, Text.startsWith_iff, Begins]

theorem closest_eq (t : PriceTable) (model : String) :
    t.closest model = (best? (t.matching model)).map (·.2) := by
  have hname := lastPiece_lowerText model.toList
  rw [lastPiece] at hname
  rw [closest, hname]
  rfl

/-! ## The entry with the greatest rank -/

theorem Rank.lt_iff {a b : Rank} : a.lt b = true ↔
    a.length < b.length ∨ a.length = b.length ∧ a.bare = false ∧ b.bare = true := by
  simp [Rank.lt, and_assoc]

theorem Rank.lt_irrefl (a : Rank) : ¬a.lt a := by simp [Rank.lt_iff]

theorem Rank.not_lt_trans {a b c : Rank} (hab : ¬a.lt b) (hbc : ¬b.lt c) : ¬a.lt c := by
  rw [Rank.lt_iff] at hab hbc ⊢
  intro hac
  have hlength : a.length = b.length ∧ b.length = c.length := by omega
  rcases hac with hless | ⟨-, ha, hc⟩
  · omega
  · cases hb : b.bare with
    | false => exact hbc (.inr ⟨hlength.2, hb, hc⟩)
    | true => exact hab (.inr ⟨hlength.1, ha, hb⟩)

theorem Rank.lt_asymm {a b : Rank} (h : a.lt b) : ¬b.lt a := by
  rw [Rank.lt_iff] at h ⊢
  rintro (hless | ⟨hlength, hb, -⟩)
  · omega
  · rcases h with hless | ⟨-, -, hbare⟩
    · omega
    · rw [hb] at hbare
      cases hbare

theorem best?_concat (l : List (String × Prices)) (e : String × Prices) :
    best? (l ++ [e]) = some (match best? l with
      | none => e
      | some b => if (rankOf e.1).lt (rankOf b.1) then b else e) := by
  rw [best?, List.foldl_append, ← best?]
  cases best? l with
  | none => rfl
  | some b =>
    simp only [List.foldl_cons, List.foldl_nil]
    split_ifs <;> rfl

theorem best?_eq_none_iff : best? l = none ↔ l = [] := by
  induction l using List.reverseRecOn with
  | nil => exact iff_of_true rfl rfl
  | append_singleton l e ih => simp [best?_concat]

/-- What is found is an entry of the list, and none has a greater rank. -/
theorem best?_spec (h : best? l = some e) :
    e ∈ l ∧ ∀ e' ∈ l, ¬(rankOf e.1).lt (rankOf e'.1) := by
  induction l using List.reverseRecOn generalizing e with
  | nil => cases h
  | append_singleton l last ih =>
    rw [best?_concat] at h
    cases hbest : best? l with
    | none =>
      rw [hbest] at h
      obtain rfl := Option.some.inj h
      rw [best?_eq_none_iff.mp hbest]
      simpa using Rank.lt_irrefl (rankOf last.1)
    | some b =>
      obtain ⟨hmem, hgreatest⟩ := ih hbest
      simp only [hbest, Option.some.injEq] at h
      split_ifs at h with hlt
      · subst h
        refine ⟨List.mem_append_left _ hmem, fun e' he' => ?_⟩
        rcases List.mem_append.mp he' with he' | he'
        · exact hgreatest e' he'
        · rw [List.mem_singleton.mp he']
          exact Rank.lt_asymm hlt
      · subst h
        refine ⟨by simp, fun e' he' => ?_⟩
        rcases List.mem_append.mp he' with he' | he'
        · exact Rank.not_lt_trans hlt (hgreatest e' he')
        · rw [List.mem_singleton.mp he']
          exact Rank.lt_irrefl _

/-- An entry that stands last is found if no other has a greater rank. -/
theorem best?_concat_of_greatest (h : ∀ e' ∈ l, ¬(rankOf e.1).lt (rankOf e'.1)) :
    best? (l ++ [e]) = some e := by
  rw [best?_concat]
  cases hbest : best? l with
  | none => rfl
  | some b => simp [h b (best?_spec hbest).1]

/-! ## Ranks and bare names -/

theorem rankOf_length (key : String) : (rankOf key).length = String.utf8Len (bareName key) :=
  String.utf8ByteSize_ofList _

/-- Among keys that begin the same model, the greater rank is that of the longer bare name, or of
the key that names no provider. -/
theorem rank_lt_iff {key key' : String} (h : Begins key model) (h' : Begins key' model) :
    (rankOf key).lt (rankOf key') ↔ (bareName key).length < (bareName key').length ∨
      bareName key = bareName key' ∧ isBare key = false ∧ isBare key' = true := by
  have hbare : (rankOf key).bare = isBare key := rfl
  have hbare' : (rankOf key').bare = isBare key' := rfl
  rw [Rank.lt_iff, rankOf_length, rankOf_length, hbare, hbare']
  by_cases hname : bareName key = bareName key'
  · simp [hname]
  · -- Two different beginnings of one text differ in length, and so they do in bytes.
    rcases List.prefix_or_prefix_of_prefix h h' with hbegin | hbegin
    · have hlen : (bareName key).length ≠ (bareName key').length := fun heq =>
        hname (hbegin.eq_of_length heq)
      have hle := hbegin.length_le
      have hbytes := Text.utf8Len_lt_of_prefix hbegin hname
      exact iff_of_true (.inl hbytes) (.inl (by omega))
    · have hle := hbegin.length_le
      have hbytes := Text.utf8Len_lt_of_prefix hbegin (Ne.symm hname)
      simp only [hname, false_and, or_false]
      omega

theorem best_iff : Best t model e ↔
    e ∈ t.matching model ∧ ∀ e' ∈ t.matching model, ¬(rankOf e.1).lt (rankOf e'.1) := by
  constructor
  · intro h
    refine ⟨mem_matching.mpr ⟨h.mem, h.begins⟩, fun e' he' => ?_⟩
    obtain ⟨hmem, hbegins⟩ := mem_matching.mp he'
    rw [rank_lt_iff h.begins hbegins]
    rintro (hlonger | ⟨hname, hqualified, hbare⟩)
    · have hlongest := h.longest e' hmem hbegins
      omega
    · rw [h.bare e' hmem hname.symm hbare] at hqualified
      cases hqualified
  · rintro ⟨he, hgreatest⟩
    obtain ⟨hmem, hbegins⟩ := mem_matching.mp he
    refine ⟨hmem, hbegins, fun e' hmem' hbegins' => ?_, fun e' hmem' hname hbare => ?_⟩
    · have hnot := hgreatest e' (mem_matching.mpr ⟨hmem', hbegins'⟩)
      rw [rank_lt_iff hbegins hbegins'] at hnot
      omega
    · have hbegins' : Begins e'.1 model := by rwa [Begins, hname]
      have hnot := hgreatest e' (mem_matching.mpr ⟨hmem', hbegins'⟩)
      rw [rank_lt_iff hbegins hbegins'] at hnot
      cases hqualified : isBare e.1 with
      | true => rfl
      | false => exact absurd (.inr ⟨hname.symm, hqualified, hbare⟩) hnot

/-- Entries that are equally good have the same bare name, and both name a provider or none does. -/
theorem Best.tie (h : Best t model e) (h' : Best t model e') :
    bareName e.1 = bareName e'.1 ∧ isBare e.1 = isBare e'.1 := by
  have hle := h.longest e' h'.mem h'.begins
  have hge := h'.longest e h.mem h.begins
  have hname : bareName e.1 = bareName e'.1 :=
    (List.prefix_of_prefix_length_le h.begins h'.begins hge).eq_of_length (by omega)
  refine ⟨hname, Bool.eq_iff_iff.mpr ⟨fun hbare => ?_, fun hbare => ?_⟩⟩
  · exact h'.bare e h.mem hname hbare
  · exact h.bare e' h'.mem hname.symm hbare

/-! ## Searching in every order -/

section Orders

variable {order : List (String × Prices)} {result result' : Option Prices}

theorem nodup_of_perm (h : order.Perm t.entries) (hkeys : t.keys.Nodup) :
    (PriceTable.mk order).keys.Nodup := (h.map _).nodup_iff.mpr hkeys

theorem best_of_perm (h : order.Perm t.entries) (hbest : Best ⟨order⟩ model e) :
    Best t model e where
  mem := h.mem_iff.mp hbest.mem
  begins := hbest.begins
  longest e' he' := hbest.longest e' (h.mem_iff.mpr he')
  bare e' he' := hbest.bare e' (h.mem_iff.mpr he')

theorem priced_of_perm (h : order.Perm t.entries) (hpriced : Priced ⟨order⟩ provider model result) :
    Priced t provider model result := by
  have hkeys (key : String) : key ∈ (PriceTable.mk order).keys ↔ key ∈ t.keys := (h.map _).mem_iff
  cases hpriced with
  | exact hmem => exact .exact (h.mem_iff.mp hmem)
  | qualified hexact hmem => exact .qualified (mt (hkeys _).mpr hexact) (h.mem_iff.mp hmem)
  | closest hexact hqualified hbest =>
    exact .closest (mt (hkeys _).mpr hexact) (mt (hkeys _).mpr hqualified) (best_of_perm h hbest)
  | unknown hexact hqualified hnone =>
    exact .unknown (mt (hkeys _).mpr hexact) (mt (hkeys _).mpr hqualified) fun e he =>
      hnone e (h.mem_iff.mpr he)

/-- What is found in one order is what may be found. -/
theorem priced_lookup (hkeys : t.keys.Nodup) (provider model : String) :
    Priced t provider model (t.lookup provider model) := by
  rw [lookup]
  cases hexact : t.get? model with
  | some p => exact .exact ((get?_eq_some_iff hkeys).mp hexact)
  | none =>
    have hexact := get?_eq_none_iff.mp hexact
    cases hqualified : t.get? s!"{provider}/{model}" with
    | some p => exact .qualified hexact ((get?_eq_some_iff hkeys).mp hqualified)
    | none =>
      have hqualified := get?_eq_none_iff.mp hqualified
      rw [Option.none_or, Option.none_or, closest_eq]
      cases hbest : best? (t.matching model) with
      | some e => exact .closest hexact hqualified (best_iff.mpr (best?_spec hbest))
      | none =>
        refine .unknown hexact hqualified fun e he hbegins => ?_
        have hmatch := mem_matching.mpr ⟨he, hbegins⟩
        rw [best?_eq_none_iff.mp hbest] at hmatch
        cases hmatch

/-- An entry that no other one precedes is found when it comes last. -/
theorem exists_order_of_best (h : Best t model e) :
    ∃ order, order.Perm t.entries ∧ (PriceTable.mk order).closest model = some e.2 := by
  obtain ⟨before, behind, hentries⟩ := List.append_of_mem h.mem
  have hperm : (before ++ behind ++ [e]).Perm t.entries := by
    rw [hentries]
    exact (List.perm_append_singleton e _).trans List.perm_middle.symm
  refine ⟨before ++ behind ++ [e], hperm, ?_⟩
  obtain ⟨hmem, hgreatest⟩ := best_iff.mp h
  have hmatching : (PriceTable.mk (before ++ behind ++ [e])).matching model =
      (PriceTable.mk (before ++ behind)).matching model ++ [e] := by
    have hstarts := Text.startsWith_iff.mpr h.begins
    simp [matching, hstarts]
  rw [closest_eq, hmatching, best?_concat_of_greatest, Option.map_some]
  intro e' he'
  refine hgreatest e' (mem_matching.mpr ⟨?_, (mem_matching.mp he').2⟩)
  exact hperm.mem_iff.mp (List.mem_append_left _ (mem_matching.mp he').1)

/-- All that may be found is found in some order. -/
theorem exists_order (hkeys : t.keys.Nodup) (h : Priced t provider model result) :
    ∃ order, order.Perm t.entries ∧ (PriceTable.mk order).lookup provider model = result := by
  cases h with
  | @exact p hmem =>
    refine ⟨t.entries, List.Perm.refl _, ?_⟩
    have hget : t.get? model = some p := (get?_eq_some_iff hkeys).mpr hmem
    simp [lookup, hget]
  | @qualified p hexact hmem =>
    refine ⟨t.entries, List.Perm.refl _, ?_⟩
    have hget := (get?_eq_some_iff hkeys).mpr hmem
    simp [lookup, get?_eq_none_iff.mpr hexact, hget]
  | @closest e hexact hqualified hbest =>
    obtain ⟨order, hperm, hclosest⟩ := exists_order_of_best hbest
    refine ⟨order, hperm, ?_⟩
    have hnone {key : String} (hkey : key ∉ t.keys) : (PriceTable.mk order).get? key = none :=
      get?_eq_none_iff.mpr (mt (hperm.map _).mem_iff.mp hkey)
    rw [lookup, hnone hexact, hnone hqualified, hclosest]
    rfl
  | unknown hexact hqualified hnone =>
    refine ⟨t.entries, List.Perm.refl _, ?_⟩
    have hmatching : t.matching model = [] := by
      refine List.eq_nil_iff_forall_not_mem.mpr fun e he => ?_
      exact hnone e (mem_matching.mp he).1 (mem_matching.mp he).2
    rw [lookup, get?_eq_none_iff.mpr hexact, get?_eq_none_iff.mpr hqualified, closest_eq, hmatching]
    rfl

theorem Priced.unique (hkeys : t.keys.Nodup) (hsettled : Settled t provider model)
    (h : Priced t provider model result) (h' : Priced t provider model result') :
    result = result' := by
  have hsame {key : String} {p q : Prices} (hp : (key, p) ∈ t.entries) (hq : (key, q) ∈ t.entries) :
      some p = some q := by
    rw [← (get?_eq_some_iff hkeys).mpr hp, (get?_eq_some_iff hkeys).mpr hq]
  have hkey {key : String} {p : Prices} (hp : (key, p) ∈ t.entries) : key ∈ t.keys :=
    List.mem_map_of_mem hp
  cases h with
  | exact hmem =>
    cases h' with
    | exact hmem' => exact hsame hmem hmem'
    | qualified hexact | closest hexact | unknown hexact => exact absurd (hkey hmem) hexact
  | qualified hexact hmem =>
    cases h' with
    | exact hmem' => exact absurd (hkey hmem') hexact
    | qualified _ hmem' => exact hsame hmem hmem'
    | closest _ hqualified | unknown _ hqualified => exact absurd (hkey hmem) hqualified
  | closest hexact hqualified hbest =>
    cases h' with
    | exact hmem' => exact absurd (hkey hmem') hexact
    | qualified _ hmem' => exact absurd (hkey hmem') hqualified
    | closest _ _ hbest' => rw [hsettled hexact hqualified _ _ hbest hbest']
    | unknown _ _ hnone => exact absurd hbest.begins (hnone _ hbest.mem)
  | unknown hexact hqualified hnone =>
    cases h' with
    | exact hmem' => exact absurd (hkey hmem') hexact
    | qualified _ hmem' => exact absurd (hkey hmem') hqualified
    | closest _ _ hbest' => exact absurd hbest'.begins (hnone _ hbest'.mem)
    | unknown => rfl

/-- If the entries fix what is found, it is found in every order. -/
theorem Settled.lookup_eq (h : Settled t provider model) (hkeys : t.keys.Nodup)
    (hperm : order.Perm t.entries) :
    (PriceTable.mk order).lookup provider model = t.lookup provider model := by
  have horder := priced_lookup (nodup_of_perm hperm hkeys) provider model
  exact (priced_of_perm hperm horder).unique hkeys h (priced_lookup hkeys provider model)

theorem settled_of_lookup_eq (hkeys : t.keys.Nodup)
    (h : ∀ order, order.Perm t.entries →
      (PriceTable.mk order).lookup provider model = t.lookup provider model) :
    Settled t provider model := by
  intro hexact hqualified e e' hbest hbest'
  obtain ⟨order, hperm, hfound⟩ := exists_order hkeys (.closest hexact hqualified hbest)
  obtain ⟨order', hperm', hfound'⟩ := exists_order hkeys (.closest hexact hqualified hbest')
  rw [h order hperm] at hfound
  rw [h order' hperm', hfound] at hfound'
  exact Option.some.inj hfound'

/-- **What is found, and when the order makes no difference.** In a table that is made by setting
prices, the prices that may be found are those of the exact key, else of the key under the provider,
else of a key that no other one precedes. Each of them is found in some order; the order makes no
difference exactly when the entries alone fix what is found. Keys between which they do not have one
bare name in lower case, and name a provider all of them or none. -/
theorem lookup_eq_iff_settled (h : Built t) (provider model : String) :
    (∀ result, Priced t provider model result ↔
      ∃ order, order.Perm t.entries ∧ (PriceTable.mk order).lookup provider model = result) ∧
    ((∀ order, order.Perm t.entries →
      (PriceTable.mk order).lookup provider model = t.lookup provider model) ↔
        Settled t provider model) ∧
    ∀ e e', Best t model e → Best t model e' →
      bareName e.1 = bareName e'.1 ∧ isBare e.1 = isBare e'.1 := by
  refine ⟨fun result => ⟨exists_order h.nodup, ?_⟩, ⟨settled_of_lookup_eq h.nodup, ?_⟩, ?_⟩
  · rintro ⟨order, hperm, rfl⟩
    exact priced_of_perm hperm (priced_lookup (nodup_of_perm hperm h.nodup) provider model)
  · intro hsettled order hperm
    exact hsettled.lookup_eq h.nodup hperm
  · intro e e' hbest hbest'
    exact hbest.tie hbest'

/-- Two providers with one model have two prices for its dated names. -/
theorem exists_unsettled_lookup : ∃ (t : PriceTable) (order : List (String × Prices)),
    Built t ∧ order.Perm t.entries ∧
      (PriceTable.mk order).lookup "c" "m-1" ≠ t.lookup "c" "m-1" := by
  let t : PriceTable := ⟨[("a/m", .plain 1 1), ("b/m", .plain 2 2)]⟩
  have hbuilt : Built t := by
    have hfirst : empty.set? "a/m" (.plain 1 1) = .ok ⟨[("a/m", .plain 1 1)]⟩ := if_pos (by decide)
    have hsecond : set? ⟨[("a/m", .plain 1 1)]⟩ "b/m" (.plain 2 2) = .ok t := if_pos (by decide)
    exact .set (.set .empty hfirst) hsecond
  have hbest : ∀ e ∈ t.entries, Best t "m-1" e := by
    have hnames : ∀ e ∈ t.entries, ∀ e' ∈ t.entries, Begins e.1 "m-1" ∧
        (bareName e'.1).length ≤ (bareName e.1).length ∧ isBare e'.1 = false := by decide +kernel
    intro e he
    refine ⟨he, (hnames e he e he).1, fun e' he' _ => (hnames e he e' he').2.1, ?_⟩
    intro e' he' _ hbare
    rw [(hnames e he e' he').2.2] at hbare
    cases hbare
  obtain ⟨-, hiff, -⟩ := lookup_eq_iff_settled hbuilt "c" "m-1"
  by_contra hnone
  have hsettled := hiff.mp fun order hperm => by
    by_contra hne
    exact hnone ⟨t, order, hbuilt, hperm, hne⟩
  have hsame := hsettled (by decide) (by decide) _ _ (hbest _ List.mem_cons_self)
    (hbest _ (List.mem_cons_of_mem _ List.mem_cons_self))
  exact absurd (congrArg Prices.input hsame) (by decide)

/-- In the usual table the order makes no difference, for its bare names are distinct. -/
theorem standard_lookup (provider model : String) (h : order.Perm standard.entries) :
    (PriceTable.mk order).lookup provider model = standard.lookup provider model := by
  have hnames : (standard.entries.map fun e => bareName e.1).Nodup := by decide +kernel
  have hsettled : Settled standard provider model := by
    intro _ _ e e' hbest hbest'
    rw [List.inj_on_of_nodup_map hnames hbest.mem hbest'.mem (hbest.tie hbest').1]
  exact hsettled.lookup_eq Built.standard.nodup h

end Orders

end AgentDesk.PriceTable

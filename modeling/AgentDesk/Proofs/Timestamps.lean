import AgentDesk.Proofs.Digits
import Mathlib.Data.String.Basic
/-!
# Written timestamps

A timestamp that is written is read back as it was, and the sortable texts of the years of four
digits are in the order of the times.

## Main definitions

* `Timestamp.FourDigit` — a valid time of a year of four digits.
-/

namespace AgentDesk

namespace Timestamp

/-- A valid time of a year of four digits. -/
structure FourDigit (t : Timestamp) : Prop where
  valid : t.isValid
  from0 : 0 ≤ t.year
  upTo9999 : t.year ≤ 9999

variable {c : Char} {ds s rest zone : List Char} {n m max : Nat} {year : Int} {t a b : Timestamp}

/-- The fields of a valid time behind its year are written with two digits, and its fraction with
nine at most. -/
theorem bounds (h : t.isValid) : t.month < 100 ∧ t.day < 100 ∧ t.hour < 100 ∧ t.minute < 100 ∧
    t.second < 100 ∧ t.nanos < 10 ^ 9 := by
  have hdays : daysIn t.year t.month ≤ 31 := by
    unfold daysIn
    split
    · split <;> decide
    all_goals decide
  simp only [isValid, Bool.and_eq_true, decide_eq_true_eq] at h
  omega

/-! ## Reading fields -/

theorem isBlank_of_isDigit (h : c.isDigit) : Text.isBlank c = false := by
  have hc := isDigit_iff.mp h
  simp only [Text.isBlank, Bool.or_eq_false_iff, Bool.and_eq_false_iff, decide_eq_false_iff_not,
    beq_eq_false_iff_ne]
  omega

theorem dropBlank_cons (h : Text.isBlank c = false) : Text.dropBlank (c :: s) = c :: s := by
  simp [Text.dropBlank, h]

theorem dropBlank_digits (hd : Digits ds) (hne : ds ≠ []) :
    Text.dropBlank (ds ++ rest) = ds ++ rest := by
  cases ds with
  | nil => exact absurd rfl hne
  | cons c ds => exact dropBlank_cons (isBlank_of_isDigit (digits_cons.mp hd).1)

/-- A run of digits is read up to the end of the run, or up to the largest number of digits. -/
theorem number?_digits (hd : Digits ds) (hne : ds ≠ []) (hmax : ds.length ≤ max)
    (hrest : ds.length = max ∨ rest.takeWhile Char.isDigit = []) :
    number? max (ds ++ rest) = some (digitsValue ds, rest) := by
  have htake : ((ds ++ rest).takeWhile Char.isDigit).take max = ds := by
    rw [List.takeWhile_append_of_pos hd]
    rcases hrest with rfl | hstop
    · exact List.take_left
    · rw [hstop, List.append_nil, List.take_of_length_le hmax]
  simp [number?, htake, hne, digitsValue]

theorem padded_ne_nil (hw : 0 < max) (h : n < 10 ^ max) : padded max n ≠ [] := by
  intro hnil
  have hlen := length_padded hw h
  rw [hnil] at hlen
  exact absurd hlen.symm hw.ne'

theorem field?_padded (h : n < 100) : field? (padded 2 n ++ rest) = some (n, rest) := by
  have hn : n < 10 ^ 2 := h
  have hlen := length_padded (by decide) hn
  have hne := padded_ne_nil (by decide) hn
  rw [field?, dropBlank_digits (digits_padded 2 n) hne,
    number?_digits (digits_padded 2 n) hne hlen.le (.inl hlen), digitsValue_padded]

/-- A year is read back, whether it is written with a sign or not. -/
theorem year?_writeYear (year : Int) :
    year? (writeYear year ++ '-' :: rest) = some (year, '-' :: rest) := by
  have hstop : ('-' :: rest).takeWhile Char.isDigit = [] := rfl
  have hdigits := digits_padded 4
  unfold writeYear
  split
  · rename_i hrange
    simp only [Bool.and_eq_true, decide_eq_true_eq] at hrange
    have hyear : year.toNat < 10 ^ 4 := by omega
    have hlen := length_padded (by decide) hyear
    have hne := padded_ne_nil (by decide) hyear
    have hnumber : number? 4 (padded 4 year.toNat ++ '-' :: rest) =
        some (year.toNat, '-' :: rest) := by
      rw [number?_digits (hdigits _) hne hlen.le (.inl hlen), digitsValue_padded]
    obtain ⟨c, ds, hcons⟩ := List.exists_cons_of_ne_nil hne
    have hc : c.isDigit := hdigits _ c (hcons ▸ List.mem_cons_self)
    rw [year?, dropBlank_digits (hdigits _) hne]
    have hback : ((year.toNat : Nat) : Int) = year := by omega
    -- The first digit is no sign.
    split
    · rename_i heq
      rw [hcons] at heq
      cases heq
      exact absurd hc (by decide)
    · rename_i heq
      rw [hcons] at heq
      cases heq
      exact absurd hc (by decide)
    · rw [hnumber]
      simp [hback]
  · have hne : padded 4 year.natAbs ≠ [] := by
      rw [padded_eq]
      simp
    have hnumber : number? (padded 4 year.natAbs ++ '-' :: rest).length
        (padded 4 year.natAbs ++ '-' :: rest) = some (year.natAbs, '-' :: rest) := by
      rw [number?_digits (hdigits _) hne (by simp) (.inr hstop), digitsValue_padded]
    have hminus : ∀ s, year? ('-' :: s) = (number? s.length s).map fun p => (-(p.1 : Int), p.2) :=
      fun _ => rfl
    have hplus : ∀ s, year? ('+' :: s) = (number? s.length s).map fun p => ((p.1 : Int), p.2) :=
      fun _ => rfl
    split
    · rename_i hneg
      have hback : -((year.natAbs : Nat) : Int) = year := by omega
      rw [List.cons_append, hminus, hnumber]
      exact congrArg (fun year => some (year, '-' :: rest)) hback
    · rename_i hneg
      have hback : ((year.natAbs : Nat) : Int) = year := by omega
      rw [List.cons_append, hplus, hnumber]
      exact congrArg (fun year => some (year, '-' :: rest)) hback

/-- The written fraction is empty, or a point and digits that are worth the nanoseconds. -/
theorem writeNanos_cases (h : n < 10 ^ 9) : n = 0 ∧ writeNanos n = [] ∨
    ∃ ds, writeNanos n = '.' :: ds ∧ Digits ds ∧ ds ≠ [] ∧ ds.length ≤ 9 ∧
      digitsValue ds * 10 ^ (9 - ds.length) = n := by
  have hrun : ∀ w k, 0 < w → w ≤ 9 → k < 10 ^ w → k * 10 ^ (9 - w) = n →
      writeNanos n = '.' :: padded w k → ∃ ds, writeNanos n = '.' :: ds ∧ Digits ds ∧ ds ≠ [] ∧
        ds.length ≤ 9 ∧ digitsValue ds * 10 ^ (9 - ds.length) = n := by
    intro w k hw hw9 hk hvalue hwrite
    have hlen := length_padded hw hk
    refine ⟨_, hwrite, digits_padded w k, padded_ne_nil hw hk, hlen.trans_le hw9, ?_⟩
    rw [hlen, digitsValue_padded, hvalue]
  by_cases hzero : n = 0
  · exact .inl ⟨hzero, by simp [writeNanos, hzero]⟩
  by_cases hmilli : n % 1000000 = 0
  · exact .inr (hrun 3 (n / 1000000) (by decide) (by decide) (by omega) (by omega)
      (by simp [writeNanos, hzero, hmilli]))
  by_cases hmicro : n % 1000 = 0
  · exact .inr (hrun 6 (n / 1000) (by decide) (by decide) (by omega) (by omega)
      (by simp [writeNanos, hzero, hmilli, hmicro]))
  · exact .inr (hrun 9 n (by decide) (by decide) h (by omega)
      (by simp [writeNanos, hzero, hmilli, hmicro]))

theorem nanos?_writeNanos (hn : n < 10 ^ 9) (hzone : zone = ['Z'] ∨ zone = "+00:00".toList) :
    nanos? (writeNanos n ++ zone) = some (n, zone) := by
  rcases writeNanos_cases hn with ⟨rfl, hwrite⟩ | ⟨ds, hwrite, hd, hne, hlen, hvalue⟩
  · rw [hwrite, List.nil_append]
    rcases hzone with rfl | rfl <;> rfl
  · have hstop : zone.takeWhile Char.isDigit = [] := by rcases hzone with rfl | rfl <;> rfl
    have htake : (ds ++ zone).takeWhile Char.isDigit = ds := by
      rw [List.takeWhile_append_of_pos hd, hstop, List.append_nil]
    have hmin : Nat.min 9 ds.length = ds.length := Nat.min_eq_right hlen
    rw [hwrite, List.cons_append, nanos?, number?_digits hd hne hlen (.inr hstop)]
    simp only [Option.bind_eq_bind, Option.bind_some, htake, List.drop_left, hmin]
    exact congrArg (fun n => some (n, zone)) hvalue

/-! ## Reading back -/

/-- A valid time is read back from its fields and either form of its offset. -/
theorem parse?_writeFields (h : t.isValid) (hzone : zone = ['Z'] ∨ zone = "+00:00".toList) :
    parse? (String.ofList (t.writeFields ++ zone)) = some t := by
  obtain ⟨hmonth, hday, hhour, hminute, hsecond, hnanos⟩ := bounds h
  have hsep : ∀ (c : Char) (s : List Char), Text.isBlank c = false → sep? c (c :: s) = some s := by
    intro c s hc
    simp [sep?, dropBlank_cons hc]
  have hmark : ∀ s, timeMark? ('T' :: s) = some s := fun _ => rfl
  have hoffset : offset? zone = some (0, []) := by rcases hzone with rfl | rfl <;> decide
  have hwhole : Text.dropBlank [] = [] := rfl
  simp only [parse?, String.toList_ofList, writeFields, List.append_assoc, List.cons_append,
    year?_writeYear, Option.bind_eq_bind, Option.bind_some, hsep '-' _ (by decide),
    hsep ':' _ (by decide), hmark, field?_padded hmonth, field?_padded hday, field?_padded hhour,
    field?_padded hminute, field?_padded hsecond, nanos?_writeNanos hnanos hzone, hoffset]
  have hback : t.back 0 = t := rfl
  simp only [hback, hwhole, h, List.isEmpty_nil, Bool.and_self, if_true]

/-- **A time that is written is read back.** -/
theorem parse?_write (h : t.isValid) : parse? t.write = some t := parse?_writeFields h (.inl rfl)

/-- **A time that is written in its sortable form is read back.** -/
theorem parse?_writeSortable (h : t.isValid) : parse? t.writeSortable = some t :=
  parse?_writeFields h (.inr rfl)

/-! ## The order of the texts -/

/-- A shorter fraction comes first because the sign of the offset comes before every digit. -/
theorem writeNanos_append_lt (hm : m < 10 ^ 9) (h : n < m) :
    writeNanos n ++ "+00:00".toList < writeNanos m ++ "+00:00".toList := by
  have hbelow : ∀ (c : Char) (cs : List Char), c.isDigit → "+00:00".toList < c :: cs := by
    intro c cs hc
    refine List.cons_lt_cons_iff.mpr (.inl (char_lt_iff.mpr ?_))
    exact lt_of_lt_of_le (by decide) (isDigit_iff.mp hc).1
  rcases writeNanos_cases hm with ⟨rfl, -⟩ | ⟨es, hwrite, he, -, helen, hevalue⟩
  · exact absurd h (Nat.not_lt_zero n)
  rcases writeNanos_cases (h.trans hm) with ⟨-, hwrite'⟩ | ⟨ds, hwrite', hd, -, hdlen, hdvalue⟩
  · rw [hwrite, hwrite']
    exact List.cons_lt_cons_iff.mpr (.inl (by decide))
  · rw [hwrite, hwrite']
    refine List.cons_lt_cons_iff.mpr (.inr ⟨rfl, ?_⟩)
    exact append_lt_append hd he hdlen helen (by omega) (.inr hbelow)

/-- One time is before another if it is earlier in the first field in which they differ. -/
theorem before_iff : a.before b ↔ a.year < b.year ∨ a.year = b.year ∧
    (a.month < b.month ∨ a.month = b.month ∧ (a.day < b.day ∨ a.day = b.day ∧
      (a.hour < b.hour ∨ a.hour = b.hour ∧ (a.minute < b.minute ∨ a.minute = b.minute ∧
        (a.second < b.second ∨ a.second = b.second ∧ a.nanos < b.nanos))))) := by
  simp [before, List.compare_cons_cons, Ordering.then_eq_lt, compare_lt_iff_lt]

/-- The sortable texts of times of four-digit years are in the order of the times. -/
theorem writeSortable_lt (ha : a.FourDigit) (hb : b.FourDigit) (h : a.before b) :
    a.writeSortable < b.writeSortable := by
  obtain ⟨hmonth, hday, hhour, hminute, hsecond, hnanos⟩ := bounds hb.valid
  have hyear : ∀ {t : Timestamp}, t.FourDigit → writeYear t.year = padded 4 t.year.toNat := by
    intro t ht
    simp [writeYear, ht.from0, ht.upTo9999]
  have hfrom := ha.from0
  have hupTo := hb.upTo9999
  rw [String.lt_iff_toList_lt]
  simp only [writeSortable, String.toList_ofList, writeFields, List.append_assoc, List.cons_append,
    hyear ha, hyear hb]
  have hcons : ∀ {c : Char} {u v : List Char}, u < v → c :: u < c :: v :=
    fun h => List.cons_lt_cons_iff.mpr (.inr ⟨rfl, h⟩)
  -- In each field either the first text has the smaller number, or the rest decides.
  refine padded_append_lt (by decide) (by omega) ((before_iff.mp h).imp (by omega) ?_)
  refine fun ⟨heq, h⟩ => ⟨by omega, hcons (padded_append_lt (by decide) hmonth (h.imp_right ?_))⟩
  refine fun ⟨heq, h⟩ => ⟨heq, hcons (padded_append_lt (by decide) hday (h.imp_right ?_))⟩
  refine fun ⟨heq, h⟩ => ⟨heq, hcons (padded_append_lt (by decide) hhour (h.imp_right ?_))⟩
  refine fun ⟨heq, h⟩ => ⟨heq, hcons (padded_append_lt (by decide) hminute (h.imp_right ?_))⟩
  refine fun ⟨heq, h⟩ => ⟨heq, hcons (padded_append_lt (by decide) hsecond (h.imp_right ?_))⟩
  exact fun ⟨heq, h⟩ => ⟨heq, writeNanos_append_lt hnanos h⟩

theorem before_trichotomy (a b : Timestamp) : a.before b ∨ a = b ∨ b.before a := by
  by_cases hab : a.before b
  · exact .inl hab
  by_cases hba : b.before a
  · exact .inr (.inr hba)
  rw [before_iff] at hab hba
  obtain ⟨year, month, day, hour, minute, second, nanos⟩ := a
  obtain ⟨year', month', day', hour', minute', second', nanos'⟩ := b
  simp only [mk.injEq]
  dsimp only at hab hba
  omega

/-- **The sortable texts of times of four-digit years are in the order of the times.** -/
theorem writeSortable_lt_iff (ha : a.FourDigit) (hb : b.FourDigit) :
    a.writeSortable < b.writeSortable ↔ a.before b := by
  refine ⟨fun h => ?_, writeSortable_lt ha hb⟩
  rcases before_trichotomy a b with hab | rfl | hba
  · exact hab
  · exact absurd h (lt_irrefl _)
  · exact absurd h (lt_asymm (writeSortable_lt hb ha hba))

end Timestamp

end AgentDesk

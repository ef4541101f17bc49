/-!
# Shortest decimals of binary floating-point numbers

A finite positive double is `mantissa * 2 ^ exponent`, and the reals that round to it form an
interval around it. Its shortest decimal is the one with the fewest digits in that interval, and
among those the nearest to the number. All tests are made in exact arithmetic on natural numbers.

## Main definitions

* `Binary` and `Binary.ofFloat?` — the exact value of a finite double without its sign.
* `Binary.shortest` — the digits and the power of ten of its shortest decimal.
-/

namespace AgentDesk.Decimal

/-- The number `mantissa * 2 ^ exponent`; `narrowBelow` says that the next smaller double is at
half the usual distance. -/
structure Binary where
  mantissa : Nat
  exponent : Int
  narrowBelow : Bool
deriving Repr, DecidableEq

/-- The decimal number `digits * 10 ^ power`. -/
structure Scaled where
  digits : Nat
  power : Int
deriving Repr, DecidableEq

/-- The exponent field of a double. -/
def exponentField (x : Float) : Nat := (x.toBits.toNat >>> 52) % 2048

/-- The fraction field of a double. -/
def fractionField (x : Float) : Nat := x.toBits.toNat % Nat.pow 2 52

/-- Whether the sign bit of a double is set. -/
def isNegative (x : Float) : Bool := x.toBits.toNat >>> 63 == 1

/-- The absolute value of a finite double; `none` for infinities and for what is not a number. -/
def Binary.ofFloat? (x : Float) : Option Binary :=
  let e := exponentField x
  let f := fractionField x
  if e == 2047 then none
  else if e == 0 then some ⟨f, -1074, false⟩
  else some ⟨Nat.pow 2 52 + f, (e : Int) - 1075, f == 0 && e != 1⟩

/-- `n * 2 ^ e` as a fraction of natural numbers. -/
def scaleTwo (n : Nat) (e : Int) : Nat × Nat :=
  if 0 ≤ e then (n * Nat.pow 2 e.toNat, 1) else (n, Nat.pow 2 (-e).toNat)

/-- Whether `10 ^ k` is at most `num / den`. -/
def tenPowLe (k : Int) (num den : Nat) : Bool :=
  if 0 ≤ k then Nat.pow 10 k.toNat * den ≤ num else den ≤ num * Nat.pow 10 (-k).toNat

/-- The largest `k` with `10 ^ k ≤ num / den`, found upwards from a start that is not too large. -/
def magnitudeFrom (num den : Nat) : Nat → Int → Int
  | 0, k => k
  | n + 1, k => if tenPowLe (k + 1) num den then magnitudeFrom num den n (k + 1) else k

/-- The power of ten of the first digit of a positive number. -/
def Binary.magnitude (b : Binary) : Int :=
  let (num, den) := scaleTwo b.mantissa b.exponent
  let bits : Int := (Nat.log2 b.mantissa : Int) + b.exponent
  magnitudeFrom num den 4 (bits * 1233 / 4096 - 1)

/-- A decimal with `n` digits in the interval that rounds to `b`, if there is one: the nearer of
the two neighbours of `b` on the grid of that many digits. -/
def Binary.withDigits? (b : Binary) (top : Int) (n : Nat) : Option Scaled :=
  let power := top - n + 1
  let up (x : Nat) : Nat :=
    x * Nat.pow 2 (b.exponent - 2).toNat * Nat.pow 10 (-power).toNat
  let unit : Nat := Nat.pow 2 (2 - b.exponent).toNat * Nat.pow 10 power.toNat
  let value := up (4 * b.mantissa)
  let lower := up (if b.narrowBelow then 4 * b.mantissa - 1 else 4 * b.mantissa - 2)
  let upper := up (4 * b.mantissa + 2)
  let closed := b.mantissa % 2 == 0
  let inside (d : Nat) : Bool :=
    if closed then lower ≤ d * unit && d * unit ≤ upper
    else lower < d * unit && d * unit < upper
  let d := value / unit
  let below := inside d
  let above := inside (d + 1)
  if below && above then
    if 2 * (value % unit) ≤ unit then some ⟨d, power⟩ else some ⟨d + 1, power⟩
  else if below then some ⟨d, power⟩
  else if above then some ⟨d + 1, power⟩
  else none

/-- The first hit on the grids of `n`, `n + 1`, … digits. -/
def Binary.firstHit (b : Binary) (top : Int) : Nat → Nat → Scaled
  | 0, n => (b.withDigits? top n).getD ⟨b.mantissa, 0⟩
  | k + 1, n => (b.withDigits? top n).getD (b.firstHit top k (n + 1))

/-- Removes trailing zeros from the digits. -/
def Scaled.reduce : Nat → Scaled → Scaled
  | 0, s => s
  | n + 1, s =>
    if s.digits != 0 && s.digits % 10 == 0 then Scaled.reduce n ⟨s.digits / 10, s.power + 1⟩ else s

/-- The shortest decimal of a positive number; zero has the digit zero. -/
def Binary.shortest (b : Binary) : Scaled :=
  if b.mantissa == 0 then ⟨0, 0⟩
  else (b.firstHit b.magnitude 16 1).reduce 20

end AgentDesk.Decimal

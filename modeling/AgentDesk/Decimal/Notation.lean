import AgentDesk.Decimal.Shortest
/-!
# Written numbers

How floating-point numbers are written: with the shortest digits that read back, or with a fixed
number of places.

## Main definitions

* `jsonText` — the form used in JSON: positional from `1e-5` up to below `1e16`, else scientific.
* `plainText` — always positional, without a point if there is no fraction.
* `fixedText n x` — exactly `n` places, a half rounded to the even neighbour.
-/

namespace AgentDesk.Decimal

/-- The decimal digits of a number. -/
def digitsOf (n : Nat) : List Char := (toString n).toList

/-- Positional text of `digits * 10 ^ power`; `pointed` adds `.0` to a whole number. -/
def Scaled.positional (s : Scaled) (pointed : Bool) : List Char :=
  let ds := digitsOf s.digits
  let whole : Int := ds.length + s.power
  if 0 ≤ s.power then
    ds ++ List.replicate s.power.toNat '0' ++ (if pointed then ['.', '0'] else [])
  else if 0 < whole then
    ds.take whole.toNat ++ '.' :: ds.drop whole.toNat
  else
    '0' :: '.' :: (List.replicate (-whole).toNat '0' ++ ds)

/-- Scientific text: one digit, the others behind a point, and the power of ten. -/
def Scaled.scientific (s : Scaled) : List Char :=
  let ds := digitsOf s.digits
  let power : Int := ds.length + s.power - 1
  let head := match ds with
    | [] => []
    | [d] => [d]
    | d :: r => d :: '.' :: r
  head ++ 'e' :: (toString power).toList

/-- Puts the sign of `x` in front. -/
def signed (x : Float) (text : List Char) : String :=
  String.ofList (if isNegative x then '-' :: text else text)

/-- The JSON text of a finite number; `null` for one that is not. -/
def jsonText (x : Float) : String :=
  match Binary.ofFloat? x with
  | none => "null"
  | some b =>
    let s := b.shortest
    let top : Int := (digitsOf s.digits).length + s.power
    signed x <|
      if b.mantissa == 0 || (-5 < top && top ≤ 16) then s.positional true else s.scientific

/-- The text of a number that is not finite. -/
def specialText (x : Float) : String :=
  if x.isNaN then "NaN" else if isNegative x then "-inf" else "inf"

/-- Positional text with the shortest digits and no point behind a whole number. -/
def plainText (x : Float) : String :=
  match Binary.ofFloat? x with
  | none => specialText x
  | some b => signed x (b.shortest.positional false)

/-- `num / den` rounded to a natural number, a half to the even neighbour. -/
def roundHalfEven (num den : Nat) : Nat :=
  let q := num / den
  let r := num % den
  if 2 * r < den then q
  else if den < 2 * r then q + 1
  else if q % 2 == 0 then q else q + 1

/-- A natural number of units of `10 ^ -places` with its point. -/
def placesText (places units : Nat) : List Char :=
  let ds := digitsOf units
  let ds := List.replicate (places + 1 - ds.length) '0' ++ ds
  let whole := ds.length - places
  if places == 0 then ds else ds.take whole ++ '.' :: ds.drop whole

/-- The text of a number with exactly `places` digits behind the point. -/
def fixedText (places : Nat) (x : Float) : String :=
  match Binary.ofFloat? x with
  | none => specialText x
  | some b =>
    let (num, den) := scaleTwo b.mantissa b.exponent
    signed x (placesText places (roundHalfEven (num * Nat.pow 10 places) den))

end AgentDesk.Decimal

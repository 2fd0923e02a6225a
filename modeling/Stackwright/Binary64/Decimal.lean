import Stackwright.Binary64

/-!
# Shortest decimal text of a number

Two stages: `Binary64.shortest` chooses the fewest digits that read back to the value, and a
`Layout` says how a format writes them down.
-/

namespace Stackwright

/-- Digits `d₁d₂…` with a decimal point before the first of them: the value is
`0.d₁d₂… * 10^point`. -/
structure Decimal where
  digits : List Nat
  point : Int
deriving DecidableEq, Repr

namespace Decimal

def digitChar (d : Nat) : Char := Char.ofNat (48 + d)

def digitText (ds : List Nat) : String := String.ofList (ds.map digitChar)

/-- The digits without trailing zeros. -/
def trimmed (ds : List Nat) : List Nat :=
  (ds.reverse.dropWhile (· == 0)).reverse

/-- The decimal whose digits are those of `n`, the last of them at `10^exponent`. -/
def ofNat (n : Nat) (exponent : Int) : Decimal :=
  let ds := (Nat.toDigits 10 n).map fun c => c.toNat - 48
  ⟨trimmed ds, ds.length + exponent⟩

end Decimal

namespace Binary64

/-- A magnitude `num / den` compared on the common scale of a rounding interval. -/
structure Interval where
  low : Nat
  high : Nat
  /-- Whether the two ends read back to the value as well. -/
  closed : Bool

/-- The reals that round to the magnitude `units`, in quarters of a unit: half the distance to
each neighbour, where the lower neighbour of a power of two is only half as far. -/
def roundingInterval (units : Nat) : Interval :=
  let step := spacing units
  let below := if 1 < step && units == Nat.pow 2 units.log2 then step else 2 * step
  ⟨4 * units - below, 4 * units + 2 * step, units / step % 2 == 0⟩

def Interval.contains (i : Interval) (num den : Nat) : Bool :=
  if i.closed then i.low * den ≤ num && num ≤ i.high * den
  else i.low * den < num && num < i.high * den

/-- The grid of multiples of `10^exponent` around `units`: the multiples just below and above it
that lie in the interval, the nearer first. -/
def onGrid (units : Nat) (interval : Interval) (exponent : Int) : Option Nat :=
  -- a grid point `k` stands for `k * up / down` units
  let up := Nat.pow 2 unitExponent * Nat.pow 10 exponent.toNat
  let down := Nat.pow 10 (-exponent).toNat
  let lower := units * down / up
  let inside := fun k => interval.contains (4 * k * up) down
  let fromLower := units * down - lower * up
  let toUpper := (lower + 1) * up - units * down
  match inside lower, inside (lower + 1) with
  | true, true => some (if fromLower ≤ toUpper then lower else lower + 1)
  | true, false => some lower
  | false, true => some (lower + 1)
  | false, false => none

/-- The power of ten just above the magnitude. -/
def decimalPoint (units : Nat) : Int :=
  -- within one of the right place by the binary length; corrected by comparison
  let guess : Int := ((units.log2 : Int) - unitExponent) * 30103 / 100000
  let above (e : Int) : Bool :=
    units * Nat.pow 10 (-e).toNat < Nat.pow 2 unitExponent * Nat.pow 10 e.toNat
  if above (guess - 1) then guess - 1
  else if above guess then guess
  else if above (guess + 1) then guess + 1
  else guess + 2

/-- The shortest decimal that reads back to the magnitude, nearest to it among those of its
length. Seventeen digits always suffice. -/
def shortest (units : Nat) : Decimal :=
  if units = 0 then ⟨[0], 1⟩
  else
    let interval := roundingInterval units
    let point := decimalPoint units
    let grids := (List.range 17).map fun (k : Nat) => point - 1 - (k : Int)
    match grids.findSome? fun e => (onGrid units interval e).map (·, e) with
    | some (k, e) => Decimal.ofNat k e
    | none => ⟨[0], 1⟩

/-- How a format writes numbers: positionally while the decimal point stands between the two
bounds, otherwise with an exponent. -/
structure Layout where
  /-- Positional if the point lies above this place. -/
  smallest : Option Int
  /-- Positional if the point lies at most at this place. -/
  largest : Option Int
  /-- Whether a positive exponent carries a plus sign. -/
  plus : Bool
  nan : String
  infinity : String

/-- Digits written positionally, with at least one digit on each side of the point. -/
def positional (d : Decimal) : String :=
  let n : Int := d.digits.length
  if d.point ≤ 0 then
    "0." ++ String.ofList (List.replicate (-d.point).toNat '0') ++ Decimal.digitText d.digits
  else if n ≤ d.point then
    Decimal.digitText d.digits ++ String.ofList (List.replicate (d.point - n).toNat '0') ++ ".0"
  else
    Decimal.digitText (d.digits.take d.point.toNat) ++ "."
      ++ Decimal.digitText (d.digits.drop d.point.toNat)

/-- Digits written with an exponent: one digit before the point, and no point if it is alone. -/
def exponential (plus : Bool) (d : Decimal) : String :=
  let exponent := d.point - 1
  let sign := if plus && 0 ≤ exponent then "+" else ""
  let head := Decimal.digitText (d.digits.take 1)
  let tail := d.digits.drop 1
  head ++ (if tail.isEmpty then "" else "." ++ Decimal.digitText tail) ++ "e" ++ sign
    ++ toString exponent

def render (layout : Layout) : Binary64 → String
  | .nan => layout.nan
  | .infinite negative => (if negative then "-" else "") ++ layout.infinity
  | .finite negative units =>
    let d := shortest units
    let fits := layout.smallest.all (· < d.point) && layout.largest.all (d.point ≤ ·)
    (if negative then "-" else "") ++
      (if fits then positional d else exponential layout.plus d)

end Binary64

end Stackwright

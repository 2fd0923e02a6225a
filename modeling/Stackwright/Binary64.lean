/-!
# Binary64 numbers

The doubles of document formats, kept exact: a finite value is a whole number of the smallest
subnormal `2^-1074`, so products, quotients and comparisons are arithmetic on `Nat`, and rounding
is the only place where anything is lost.
-/

namespace Stackwright

/-- A binary64 datum; a finite one is `units` times `2^-1074` with its sign kept apart, so that
`-0` is a value of its own. -/
inductive Binary64 where
  | nan
  | infinite (negative : Bool)
  | finite (negative : Bool) (units : Nat)
deriving DecidableEq, Repr, Inhabited

namespace Binary64

/-- The power of two that the unit divides one by. -/
def unitExponent : Nat := 1074

/-- Number of significant bits of a finite value. -/
def precision : Nat := 53

/-- The first magnitude, in units, that rounds to infinity. -/
def overflowUnits : Nat := Nat.pow 2 2098

def zero : Binary64 := .finite false 0

/-- The quotient `num / den` rounded to a whole number, a tie going to the even neighbour. -/
def divideToEven (num den : Nat) : Nat :=
  let quotient := num / den
  let rest := 2 * (num % den)
  if rest < den then quotient
  else if den < rest then quotient + 1
  else if quotient % 2 = 0 then quotient else quotient + 1

/-- The distance, in units, between neighbouring values around the magnitude `units`. -/
def spacing (units : Nat) : Nat :=
  Nat.pow 2 (units.log2 + 1 - precision)

/-- The value nearest to `num / den`, a tie going to the even mantissa. -/
def ofRatio (negative : Bool) (num den : Nat) : Binary64 :=
  let scaled := num * Nat.pow 2 unitExponent
  let step := spacing (scaled / den)
  let units := divideToEven scaled (den * step) * step
  if units < overflowUnits then .finite negative units else .infinite negative

def ofNat (n : Nat) : Binary64 := ofRatio false n 1

def isInfinite : Binary64 → Bool
  | .infinite _ => true
  | _ => false

def isFinite : Binary64 → Bool
  | .finite .. => true
  | _ => false

/-- The sign turned round. -/
def neg : Binary64 → Binary64
  | .nan => .nan
  | .infinite s => .infinite (!s)
  | .finite s u => .finite (!s) u

/-- The rounded product of finite values; anything else has no product here. -/
def mul : Binary64 → Binary64 → Binary64
  | .finite s a, .finite t b => ofRatio (xor s t) (a * b) (Nat.pow 2 (2 * unitExponent))
  | _, _ => .nan

/-- The rounded quotient of finite values with a non-zero divisor. -/
def div : Binary64 → Binary64 → Binary64
  | .finite s a, .finite t b => if b = 0 then .nan else ofRatio (xor s t) a b
  | _, _ => .nan

/-- The value nearest to `digits * 10^exponent`; exponents that leave the range are decided
without building the power. -/
def ofDecimal (negative : Bool) (digits : Nat) (exponent : Int) : Binary64 :=
  if digits = 0 then .finite negative 0
  else
    let magnitude : Int := (Nat.toDigits 10 digits).length + exponent
    if magnitude > 310 then .infinite negative
    else if magnitude < -330 then .finite negative 0
    else if exponent < 0 then ofRatio negative digits (Nat.pow 10 exponent.natAbs)
    else ofRatio negative (digits * Nat.pow 10 exponent.toNat) 1

end Binary64

end Stackwright

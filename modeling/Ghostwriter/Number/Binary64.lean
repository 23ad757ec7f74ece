/-!
Binary floating-point values of 64 bits, with exact arithmetic on their mantissas and exponents.
-/

namespace Ghostwriter.Number

-- A finite value is `mantissa * 2 ^ exponent` with its sign, where the mantissa has 53 bits, or
-- fewer if the exponent is the least one, -1074.
inductive Binary64 where
  | finite (negative : Bool) (mantissa : Nat) (exponent : Int)
  | infinite (negative : Bool)
  | notANumber
  deriving DecidableEq, Repr

namespace Binary64

def zero : Binary64 := .finite false 0 (-1074)

def negate : Binary64 → Binary64
  | .finite negative m e => .finite (!negative) m e
  | .infinite negative => .infinite (!negative)
  | .notANumber => .notANumber

def isZero : Binary64 → Bool
  | .finite _ 0 _ => true
  | _ => false

def isNegative : Binary64 → Bool
  | .finite negative _ _ => negative
  | .infinite negative => negative
  | .notANumber => false

-- The bits of a number, none for zero.
def bitLength (n : Nat) : Nat := if n = 0 then 0 else n.log2 + 1

-- The quotient rounded to the nearest natural number, a half to the even one.
def divideToEven (num den : Nat) : Nat :=
  let q := num / den
  let r := num % den
  if 2 * r < den then q
  else if den < 2 * r then q + 1
  else q + q % 2

-- Numerator and denominator of `num / den / 2 ^ e`.
def scaled (num den : Nat) (e : Int) : Nat × Nat :=
  if 0 ≤ e then (num, den * Nat.pow 2 e.toNat) else (num * Nat.pow 2 (-e).toNat, den)

-- The value nearest to `num / den`, the even one of two. Beyond the range it is infinite.
def ofRatio (negative : Bool) (num den : Nat) : Binary64 :=
  if num = 0 || den = 0 then .finite negative 0 (-1074)
  else
    let guess : Int := max (-1074) ((bitLength num : Int) - bitLength den - 53)
    let (n, d) := scaled num den guess
    let exponent := if Nat.pow 2 53 ≤ n / d then guess + 1 else guess
    let (n, d) := scaled num den exponent
    let mantissa := divideToEven n d
    let (mantissa, exponent) :=
      if mantissa = Nat.pow 2 53 then (Nat.pow 2 52, exponent + 1) else (mantissa, exponent)
    if 971 < exponent then .infinite negative else .finite negative mantissa exponent

-- The value nearest to `digits * 10 ^ exponent`. Exponents far out of range are settled without
-- the power.
def ofDecimal (negative : Bool) (digits : Nat) (exponent : Int) : Binary64 :=
  let magnitude := exponent + (bitLength digits : Int)
  if digits = 0 || magnitude < -400 then .finite negative 0 (-1074)
  else if 400 < exponent then .infinite negative
  else if 0 ≤ exponent then ofRatio negative (digits * Nat.pow 10 exponent.toNat) 1
  else ofRatio negative digits (Nat.pow 10 (-exponent).toNat)

-- The value nearest to an integer, if that is in range.
def ofInt? (i : Int) : Option Binary64 :=
  match ofRatio (i < 0) i.natAbs 1 with
  | .finite negative m e => some (.finite negative m e)
  | _ => none

-- Adds zero: only the negative zero changes.
def addZero (x : Binary64) : Binary64 := if x.isZero then zero else x

-- A finite value as a ratio of integers.
def ratio? : Binary64 → Option (Int × Nat)
  | .finite negative m e =>
    let n := if 0 ≤ e then m * Nat.pow 2 e.toNat else m
    let d := if 0 ≤ e then 1 else Nat.pow 2 (-e).toNat
    some (if negative then -(n : Int) else n, d)
  | _ => none

-- Equality of the values: both zeros are equal, and `notANumber` equals nothing.
def sameValue : Binary64 → Binary64 → Bool
  | .infinite a, .infinite b => a == b
  | .finite na ma ea, .finite nb mb eb =>
    (ma == 0 && mb == 0) || (na == nb && ma == mb && ea == eb)
  | _, _ => false

-- Whether the value is the integer `i`.
def equalsInt (x : Binary64) (i : Int) : Bool :=
  match x.ratio? with
  | some (n, d) => n == i * d
  | none => false

end Binary64

end Ghostwriter.Number

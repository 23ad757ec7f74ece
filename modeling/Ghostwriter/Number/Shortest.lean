import Ghostwriter.Text.Basic
import Ghostwriter.Number.Binary64

/-!
The decimal text of a floating-point value: the fewest digits that are nearer to it than to any
other value, laid out positionally for moderate exponents and with an exponent otherwise.
-/

namespace Ghostwriter.Number

open Ghostwriter.Text

-- `digits * 10 ^ exponent`
structure Decimal where
  digits : Nat
  exponent : Int
  deriving DecidableEq, Repr

namespace Decimal

-- The quarter of the last place as a unit: the value is four units times its mantissa.
private def cross (a : Nat) (i : Int) (n : Nat) (j : Int) : Ordering :=
  compare (a * Nat.pow 10 i.toNat * Nat.pow 2 (-j).toNat)
    (n * Nat.pow 2 j.toNat * Nat.pow 10 (-i).toNat)

-- Whether `d` lies among the reals that round to `mantissa * 2 ^ exponent`. The ends belong to
-- them for an even mantissa, and below a power of two the gap is half as wide.
def roundsTo (d : Decimal) (mantissa : Nat) (exponent : Int) : Bool :=
  let narrow := mantissa = Nat.pow 2 52 && -1074 < exponent
  let low := if narrow then 4 * mantissa - 1 else 4 * mantissa - 2
  let even := mantissa % 2 = 0
  let below := cross d.digits d.exponent low (exponent - 2)
  let above := cross d.digits d.exponent (4 * mantissa + 2) (exponent - 2)
  (below == .gt || (even && below == .eq)) && (above == .lt || (even && above == .eq))

-- The number of decimal digits.
def width (n : Nat) : Nat := (decimal n).length

-- The exponent `k` with `10 ^ (k - 1) ≤ num / den < 10 ^ k`.
def scale (num den : Nat) : Int :=
  if den ≤ num then (width (num / den) : Int)
  else
    let d := width (den / num)
    if den ≤ num * Nat.pow 10 (d - 1) then 2 - (d : Int) else 1 - (d : Int)

-- Of the two neighbours of `num / den` on the grid `10 ^ exponent`, one that rounds to the value:
-- the nearer one if both do, and the even one of two equally near.
def onGrid? (num den mantissa : Nat) (binary exponent : Int) : Option Decimal :=
  let n := num * Nat.pow 10 (-exponent).toNat
  let d := den * Nat.pow 10 exponent.toNat
  let low : Decimal := ⟨n / d, exponent⟩
  let high : Decimal := ⟨n / d + 1, exponent⟩
  match low.roundsTo mantissa binary, high.roundsTo mantissa binary with
  | true, false => some low
  | false, true => some high
  | false, false => none
  | true, true =>
    let twice := 2 * (n % d)
    if twice < d || (twice == d && low.digits % 2 == 0) then some low else some high

-- Drops trailing zeros of the digits. The first argument bounds their number.
def strip : Nat → Decimal → Decimal
  | 0, d => d
  | fuel + 1, d =>
    if d.digits ≠ 0 ∧ d.digits % 10 = 0 then strip fuel ⟨d.digits / 10, d.exponent + 1⟩ else d

-- The shortest decimal for a positive value. Seventeen digits always tell the values apart.
def shortest (mantissa : Nat) (exponent : Int) : Decimal :=
  let num := mantissa * Nat.pow 2 exponent.toNat
  let den := Nat.pow 2 (-exponent).toNat
  let k := scale num den
  let withDigits (n : Nat) : Option Decimal := onGrid? num den mantissa exponent (k - n)
  match (List.range' 1 17).findSome? withDigits with
  | some d => strip 18 d
  | none => ⟨num, 0⟩

end Decimal

-- How decimals are laid out: the exponents of the leading digit that are written positionally, and
-- what follows the digits of a whole number.
structure Layout where
  leastPositional : Int
  mostPositional : Int
  wholeSuffix : Text

def Layout.exponentText (e : Int) : Text :=
  let digits := decimal e.natAbs
  'e' :: (if e < 0 then '-' else '+') :: (if digits.length < 2 then '0' :: digits else digits)

def Layout.write (layout : Layout) (d : Decimal) : Text :=
  let digits := decimal d.digits
  let point := (digits.length : Int) + d.exponent
  let lead := point - 1
  if layout.leastPositional ≤ lead ∧ lead ≤ layout.mostPositional then
    if point ≤ 0 then '0' :: '.' :: List.replicate (-point).toNat '0' ++ digits
    else if (digits.length : Int) ≤ point then
      digits ++ List.replicate (point.toNat - digits.length) '0' ++ layout.wholeSuffix
    else digits.take point.toNat ++ '.' :: digits.drop point.toNat
  else
    match digits with
    | [] => []
    | first :: [] => first :: Layout.exponentText lead
    | first :: others => first :: '.' :: others ++ Layout.exponentText lead

-- A number on its own, `1.0`, is written positionally from `0.0001` up to sixteen digits.
def aloneLayout : Layout := ⟨-4, 15, ".0".toList⟩

-- Inside a complex number the point of a whole number is dropped: `(1+2j)`.
def partLayout : Layout := ⟨-4, 15, []⟩

def Binary64.write (layout : Layout) : Binary64 → Text
  | .notANumber => "nan".toList
  | .infinite negative => (if negative then "-inf" else "inf").toList
  | .finite negative m e =>
    let sign : Text := if negative then ['-'] else []
    if m = 0 then sign ++ '0' :: layout.wholeSuffix
    else sign ++ layout.write (Decimal.shortest m e)

end Ghostwriter.Number

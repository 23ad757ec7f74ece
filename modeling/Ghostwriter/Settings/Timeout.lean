import Ghostwriter.Grammar.Numeral
import Ghostwriter.Literal.Value

/-!
Timeouts in seconds: whole numbers, or floating-point ones, which may be infinite or no number.
-/

namespace Ghostwriter

open Ghostwriter.Grammar Ghostwriter.Lexeme Ghostwriter.Number Ghostwriter.Text

inductive Timeout where
  | whole (seconds : Int)
  | real (seconds : Binary64)
  deriving DecidableEq, Repr

namespace Timeout

-- No number is neither positive nor the opposite, and so it passes.
def isPositive : Timeout → Bool
  | whole i => 0 < i
  | real x => x = .notANumber || !(x.isZero || x.isNegative)

def write : Timeout → Text
  | whole i => (Value.writeInt? i).getD []
  | real x => Value.writeReal x

-- A sign in front of a number: whether it is negative, and the rest.
def unsign : Text → Bool × Text
  | '-' :: rest => (true, rest)
  | '+' :: rest => (false, rest)
  | t => (false, t)

def infinityNames : List Text := ["inf", "infinity"].map String.toList

-- A decimal number without a sign.
def readUnsigned? (negative : Bool) (t : Text) : Option Binary64 :=
  let lower := t.map lowerAscii
  if infinityNames.contains lower then some (.infinite negative)
  else if lower = "nan".toList then some .notANumber
  else
    let whole := t.take (digits isDigit t)
    let afterWhole := t.drop whole.length
    let (fraction, rest) :=
      match afterWhole with
      | '.' :: more => let n := digits isDigit more; (more.take n, more.drop n)
      | _ => ([], afterWhole)
    let value (exponent : Int) : Binary64 :=
      let places : Int := (fraction.filter (· ≠ '_')).length
      Binary64.ofDecimal negative (valueOf 10 (whole ++ fraction)) (exponent - places)
    if whole.isEmpty && fraction.isEmpty then none
    else
      match readExponent rest with
      | .given e [] => some (value e)
      | .absent => if rest.isEmpty then some (value 0) else none
      | _ => none

def readReal? (t : Text) : Option Binary64 :=
  let (negative, rest) := unsign (trimRight (trimLeft t))
  readUnsigned? negative rest

def readWhole? (t : Text) : Option Int :=
  let (negative, rest) := unsign (trimRight (trimLeft t))
  if !rest.isEmpty && digits isDigit rest = rest.length then
    some (if negative then -(valueOf 10 rest : Int) else valueOf 10 rest)
  else none

-- Characters that only floating-point numbers have.
def isRealMark (c : Char) : Bool := c = '.' || c = 'e' || c = 'i' || c = 'n' || c = 'f'

def ofText? (t : Text) : Option Timeout :=
  if t.any isRealMark then (readReal? t).map real else (readWhole? t).map whole

end Timeout

end Ghostwriter

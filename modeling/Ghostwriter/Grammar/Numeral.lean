import Ghostwriter.Grammar.Token
import Ghostwriter.Lexeme.Shape
import Ghostwriter.Text.Digit

/-!
Number literals as the compiler reads them: no zeros in front of a decimal integer, no letter right
behind the digits, except for the start of a keyword that may follow a number.
-/

namespace Ghostwriter.Grammar

open Ghostwriter.Number Ghostwriter.Text Ghostwriter.Lexeme

-- Characters that cannot follow a number, because they would belong to a name.
def continuesName (c : Char) : Bool :=
  isAsciiLetter c || isDigit c || c = '_' || 128 ≤ c.toNat

-- The beginnings of the keywords that may follow a number without a blank.
def keywordStarts : List Text :=
  ["and", "else", "for", "if", "in", "is", "or", "not"].map String.toList

def endsNumber : Text → Bool
  | [] => true
  | c :: rest =>
    !continuesName c || keywordStarts.any (List.isPrefixOf · (c :: rest))

-- More decimal digits than this are refused, in reading and in writing an integer.
def maxDecimalDigits : Nat := 4300

-- An integer in the base that the letter after the zero announces.
def basedInteger? (letter : Char) (isBaseDigit : Char → Bool) (rest : Text) :
    Option (Numeral × Text) :=
  let n := moreDigits isBaseDigit rest
  let base := if lowerAscii letter = 'x' then 16 else if lowerAscii letter = 'o' then 8 else 2
  if n = 0 || !endsNumber (rest.drop n) then none
  else some (.int (valueOf base (rest.take n)), rest.drop n)

-- An exponent: its value, and what follows it. A letter without digits behind it is none.
inductive Exponent where
  | absent
  | broken
  | given (value : Int) (rest : Text)

def readExponent : Text → Exponent
  | [] => .absent
  | e :: rest =>
    if e ≠ 'e' && e ≠ 'E' then .absent
    else
      match rest with
      | '+' :: others =>
        match digits isDigit others with
        | 0 => .broken
        | n => .given (valueOf 10 (others.take n)) (others.drop n)
      | '-' :: others =>
        match digits isDigit others with
        | 0 => .broken
        | n => .given (-(valueOf 10 (others.take n) : Int)) (others.drop n)
      | _ =>
        match digits isDigit rest with
        | 0 => .absent
        | n => .given (valueOf 10 (rest.take n)) (rest.drop n)

def isImaginaryMark : Text → Bool
  | c :: _ => c = 'j' || c = 'J'
  | [] => false

-- A decimal integer. Zeros in front are allowed only for zero itself; before a keyword they make
-- the number a real one.
def decimalInteger? (whole : Text) (rest : Text) : Option (Numeral × Text) :=
  let bare := whole.filter (· ≠ '_')
  if !endsNumber rest then none
  else if bare.head? = some '0' && bare.any (· ≠ '0') then
    if rest.head? = some 'e' then
      some (.real (Binary64.ofDecimal false (valueOf 10 whole) 0), rest)
    else none
  else if bare.head? ≠ some '0' && maxDecimalDigits < bare.length then none
  else some (.int (valueOf 10 whole), rest)

-- A number from the digits before and after the point, and what follows them.
def finishReal? (whole fraction rest : Text) (hasPoint : Bool) : Option (Numeral × Text) :=
  let digits := valueOf 10 (whole ++ fraction)
  let places : Int := (fraction.filter (· ≠ '_')).length
  match readExponent rest with
  | .broken => none
  | .given e after =>
    let value := Binary64.ofDecimal false digits (e - places)
    if isImaginaryMark after then
      if endsNumber after.tail then some (.imaginary value, after.tail) else none
    else if endsNumber after then some (.real value, after)
    else none
  | .absent =>
    let value := Binary64.ofDecimal false digits (-places)
    if isImaginaryMark rest then
      if endsNumber rest.tail then some (.imaginary value, rest.tail) else none
    else if hasPoint then
      if endsNumber rest then some (.real value, rest) else none
    else decimalInteger? whole rest

def decimalNumber? (t : Text) : Option (Numeral × Text) :=
  let n := digits isDigit t
  match t.drop n with
  | '.' :: rest =>
    let k := digits isDigit rest
    finishReal? (t.take n) (rest.take k) (rest.drop k) true
  | rest => finishReal? (t.take n) [] rest false

-- The number at the head of a text that starts with a digit, or with a point and a digit.
def number? (t : Text) : Option (Numeral × Text) :=
  match t with
  | '0' :: letter :: rest =>
    match baseDigit? letter with
    | some isBaseDigit => basedInteger? letter isBaseDigit rest
    | none => decimalNumber? t
  | _ => decimalNumber? t

end Ghostwriter.Grammar

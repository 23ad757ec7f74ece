import Ghostwriter.Text.Basic
import Ghostwriter.Text.Identifier

/-!
The shapes of numbers, operators and quoted strings. Each function here gives the number of
characters at the head of a text that have a shape, with zero for none.
-/

namespace Ghostwriter.Lexeme

open Ghostwriter.Text

-- Blanks between the lexemes of a line.
def isGap (c : Char) : Bool := c = ' ' || c = '\t' || c = '\x0c'

-- Digits after the first one, where a single underscore may stand before each.
def moreDigits (isDigit : Char → Bool) : List Char → Nat
  | [] => 0
  | [c] => if isDigit c then 1 else 0
  | c :: d :: rest =>
    if isDigit c then moreDigits isDigit (d :: rest) + 1
    else if c = '_' && isDigit d then moreDigits isDigit rest + 2
    else 0

def digits (isDigit : Char → Bool) : List Char → Nat
  | [] => 0
  | c :: rest => if isDigit c then moreDigits isDigit rest + 1 else 0

def isBinaryDigit (c : Char) : Bool := c = '0' || c = '1'

def isOctalDigit (c : Char) : Bool := '0' ≤ c && c ≤ '7'

def isHexDigit (c : Char) : Bool :=
  isDigit c || ('a' ≤ c && c ≤ 'f') || ('A' ≤ c && c ≤ 'F')

-- The digits of the base that a letter after a zero announces.
def baseDigit? (letter : Char) : Option (Char → Bool) :=
  if letter = 'x' || letter = 'X' then some isHexDigit
  else if letter = 'o' || letter = 'O' then some isOctalDigit
  else if letter = 'b' || letter = 'B' then some isBinaryDigit
  else none

def decimalLength : List Char → Nat
  | [] => 0
  | '0' :: rest => moreDigits (· = '0') rest + 1
  | t => digits isDigit t

def integerLength : List Char → Nat
  | '0' :: letter :: rest =>
    match baseDigit? letter with
    | none => decimalLength ('0' :: letter :: rest)
    | some isBaseDigit =>
      -- the digits after the letter may begin with an underscore
      match moreDigits isBaseDigit rest with
      | 0 => 1
      | n => n + 2
  | t => decimalLength t

def exponentLength : List Char → Nat
  | [] => 0
  | e :: rest =>
    if e = 'e' || e = 'E' then
      match rest with
      | [] => 0
      | sign :: others =>
        if sign = '+' || sign = '-' then
          match digits isDigit others with
          | 0 => 0
          | n => n + 2
        else
          match digits isDigit rest with
          | 0 => 0
          | n => n + 1
    else 0

-- A number with a point, with an exponent, or with both.
def floatLength (t : List Char) : Nat :=
  let whole := digits isDigit t
  match t.drop whole with
  | '.' :: rest =>
    let fraction := digits isDigit rest
    if whole = 0 && fraction = 0 then 0
    else whole + 1 + fraction + exponentLength (rest.drop fraction)
  | rest =>
    match exponentLength rest with
    | 0 => 0
    | n => if whole = 0 then 0 else whole + n

def imaginaryLength (t : List Char) : Nat :=
  let marked (n : Nat) : Bool :=
    match t.drop n with
    | c :: _ => n ≠ 0 && (c = 'j' || c = 'J')
    | [] => false
  if marked (digits isDigit t) then digits isDigit t + 1
  else if marked (floatLength t) then floatLength t + 1
  else 0

def numberLength (t : List Char) : Nat :=
  match imaginaryLength t with
  | 0 =>
    match floatLength t with
    | 0 => integerLength t
    | n => n
  | n => n

-- The operators, the longer ones first.
def operators : List (List Char) :=
  ["**=", "...", "//=", "<<=", ">>=",
    "!=", "%=", "&=", "**", "*=", "+=", "-=", "->", "//", "/=", ":=", "<<", "<=", "==", ">=", ">>",
    "@=", "^=", "|=",
    "%", "&", "(", ")", "*", "+", ",", "-", ".", "/", ":", ";", "<", "=", ">", "@", "[", "]", "^",
    "\x7b", "|", "\x7d", "~"].map String.toList

def operatorLength (t : List Char) : Nat :=
  match operators.find? (List.isPrefixOf · t) with
  | some operator => operator.length
  | none => 0

-- The letters that may stand before the quote of a string, in either case and order.
def isStringPrefix (letters : List Char) : Bool :=
  match letters.map lowerAscii with
  | [] => true
  | [a] => a = 'b' || a = 'r' || a = 'u' || a = 'f'
  | [a, b] => (a = 'r' && (b = 'b' || b = 'f')) || (b = 'r' && (a = 'b' || a = 'f'))
  | _ => false

def isQuote (c : Char) : Bool := c = '\'' || c = '"'

-- How a quoted string begins: the letters before the quote, the quote, and whether it is tripled.
structure Opening where
  letters : Nat
  quote : Char
  tripled : Bool
  deriving DecidableEq, Repr

def Opening.length (o : Opening) : Nat := o.letters + if o.tripled then 3 else 1

def openingAfter (letters : Nat) : List Char → Option Opening
  | q :: q' :: q'' :: _ =>
    if isQuote q then some ⟨letters, q, q' = q && q'' = q⟩ else none
  | q :: _ => if isQuote q then some ⟨letters, q, false⟩ else none
  | [] => none

def opening? (t : List Char) : Option Opening :=
  let letters := (t.take 3).takeWhile (fun c => !isQuote c)
  if isStringPrefix letters then openingAfter letters.length (t.drop letters.length) else none

-- Up to and with the quote that ends a string, if there is one. A backslash takes the next
-- character with it, unless that ends the line.
def closeLength? (quote : Char) : List Char → Option Nat
  | [] => none
  | [c] => if c = quote then some 1 else none
  | c :: d :: rest =>
    if c = '\\' then
      if d = '\n' then none else (closeLength? quote rest).map (· + 2)
    else if c = quote then some 1
    else (closeLength? quote (d :: rest)).map (· + 1)

-- The same for a tripled quote.
def closeTripleLength? (quote : Char) : List Char → Option Nat
  | [] => none
  | c :: rest =>
    if c = '\\' then
      match rest with
      | [] => none
      | d :: others =>
        if d = '\n' then none else (closeTripleLength? quote others).map (· + 2)
    else if c = quote && rest.take 2 == [quote, quote] then some 3
    else (closeTripleLength? quote rest).map (· + 1)

-- The first line of a string: up to its quote, or to a backslash at the end of the line.
inductive FirstLine where
  | closed (length : Nat)
  | continued (length : Nat)
  deriving DecidableEq, Repr

def FirstLine.shift (n : Nat) : FirstLine → FirstLine
  | .closed k => .closed (k + n)
  | .continued k => .continued (k + n)

def firstLine? (quote : Char) : List Char → Option FirstLine
  | [] => none
  | [c] => if c = quote then some (.closed 1) else none
  | c :: d :: rest =>
    if c = '\\' then
      if d = '\n' then some (.continued 2)
      else if d = '\r' && rest.head? = some '\n' then some (.continued 3)
      else (firstLine? quote rest).map (FirstLine.shift 2)
    else if c = quote then some (.closed 1)
    else if c = '\n' then none
    else (firstLine? quote (d :: rest)).map (FirstLine.shift 1)

end Ghostwriter.Lexeme

import Ghostwriter.Grammar.Numeral
import Ghostwriter.Text.CharName

/-!
The escapes in string literals. What follows a backslash and is no escape is kept, with the
backslash. An escape that is cut short, or that names no character, is an error.
-/

namespace Ghostwriter.Grammar

open Ghostwriter.Text Ghostwriter.Lexeme

-- The characters that a single letter after a backslash stands for.
def simpleEscape? (c : Char) : Option Char :=
  if c = '\\' || c = '\'' || c = '"' then some c
  else if c = 'a' then some '\x07'
  else if c = 'b' then some '\x08'
  else if c = 'f' then some '\x0c'
  else if c = 'n' then some '\n'
  else if c = 'r' then some '\r'
  else if c = 't' then some '\t'
  else if c = 'v' then some '\x0b'
  else none

-- The digits of an escape in base eight: at most three.
def octalRun (t : Text) : Text := (t.take 3).takeWhile isOctalDigit

-- A code point of exactly `width` hexadecimal digits.
def hexRun? (width : Nat) (t : Text) : Option Nat :=
  let digits := (t.take width).takeWhile isHexDigit
  if digits.length = width then some (valueOf 16 digits) else none

-- How many hexadecimal digits follow the letter.
def hexWidth? (c : Char) : Option Nat :=
  if c = 'x' then some 2
  else if c = 'u' then some 4
  else if c = 'U' then some 8
  else none

-- The character of a code point. A surrogate is no character of its own and is replaced.
def scalar (n : Nat) : Char := if 0xD800 ≤ n && n ≤ 0xDFFF then '\uFFFD' else Char.ofNat n

-- The name in braces, and what follows it.
def bracedName? : Text → Option (Text × Text)
  | '\x7b' :: rest =>
    let name := rest.takeWhile (· ≠ '\x7d')
    match rest.drop name.length with
    | _ :: after => if name.isEmpty then none else some (name, after)
    | [] => none
  | _ => none

-- What an escape stands for, and the rest. `t` is what follows the backslash.
def escapeAt? (t : Text) : Option (Text × Text) :=
  match t with
  | [] => some (['\\'], [])
  | '\n' :: rest => some ([], rest)
  | 'N' :: rest =>
    match bracedName? rest with
    | none => none
    | some (name, after) => (charNamed? name).map fun c => ([c], after)
  | c :: rest =>
    match simpleEscape? c, hexWidth? c with
    | some e, _ => some ([e], rest)
    | none, some width =>
      match hexRun? width rest with
      | none => none
      | some n => if 0x10FFFF < n then none else some ([scalar n], rest.drop width)
    | none, none =>
      let octal := octalRun t
      if octal.isEmpty then some (['\\', c], rest)
      else some ([Char.ofNat (valueOf 8 octal)], t.drop octal.length)

-- Replaces all escapes. The first argument bounds the number of characters.
def unescapeUpTo : Nat → Text → Option Text
  | _, [] => some []
  | 0, _ => some []
  | fuel + 1, '\\' :: rest =>
    match escapeAt? rest with
    | none => none
    | some (value, after) => (unescapeUpTo fuel after).map (value ++ ·)
  | fuel + 1, c :: rest => (unescapeUpTo fuel rest).map (c :: ·)

def unescape? (t : Text) : Option Text := unescapeUpTo t.length t

-- In a literal of bytes only the escapes for single bytes count.
def byteEscapeAt? (t : Text) : Option (Bytes × Text) :=
  match t with
  | [] => none
  | '\n' :: rest => some ([], rest)
  | 'x' :: rest => (hexRun? 2 rest).map fun n => ([UInt8.ofNat n], rest.drop 2)
  | c :: rest =>
    match simpleEscape? c with
    | some e => some ([UInt8.ofNat e.toNat], rest)
    | none =>
      let octal := octalRun t
      if octal.isEmpty then some ([92, UInt8.ofNat c.toNat], rest)
      else some ([UInt8.ofNat (valueOf 8 octal)], t.drop octal.length)

def unescapeBytesUpTo : Nat → Text → Option Bytes
  | _, [] => some []
  | 0, _ => some []
  | fuel + 1, '\\' :: rest =>
    match byteEscapeAt? rest with
    | none => none
    | some (value, after) => (unescapeBytesUpTo fuel after).map (value ++ ·)
  | fuel + 1, c :: rest => (unescapeBytesUpTo fuel rest).map (UInt8.ofNat c.toNat :: ·)

def unescapeBytes? (t : Text) : Option Bytes := unescapeBytesUpTo t.length t

end Ghostwriter.Grammar

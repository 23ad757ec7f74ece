import Ghostwriter.Grammar.Escape

/-!
Formatted strings: text in which braces enclose expressions. An expression may be followed by an
equals sign, a conversion and a format, and a format may hold expressions again, one level deep.
-/

namespace Ghostwriter.Grammar

open Ghostwriter.Text

-- The text up to the next expression or the end: its characters, whether a doubled brace ended it,
-- and the rest. Doubled braces count only outside formats, and there a single closing brace is an
-- error. The first argument bounds the number of characters.
def literalPart (raw inFormat : Bool) : Nat → Text → Option (Text × Bool × Text)
  | _, [] => some ([], false, [])
  | 0, _ => some ([], false, [])
  | fuel + 1, c :: rest =>
    let brace (before : Text) (c : Char) (rest : Text) : Option (Text × Bool × Text) :=
      if inFormat then some (before, false, c :: rest)
      else if rest.head? = some c then some (before ++ [c], true, rest.tail)
      else if c = '\x7d' then none
      else some (before, false, c :: rest)
    let further (read rest : Text) : Option (Text × Bool × Text) :=
      (literalPart raw inFormat fuel rest).map fun (text, doubled, rest) =>
        (read ++ text, doubled, rest)
    if !raw && c = '\\' then
      match rest with
      | [] => some ([c], false, [])
      | 'N' :: '\x7b' :: others =>
        let name := others.takeWhile (· ≠ '\x7d')
        let close := (others.drop name.length).take 1
        further (c :: 'N' :: '\x7b' :: name ++ close) (others.drop (name.length + 1))
      | 'N' :: d :: others => further [c, 'N', d] others
      | d :: others =>
        if d = '\x7b' || d = '\x7d' then brace [c] d others else further [c, d] others
    else if c = '\x7b' || c = '\x7d' then brace [] c rest
    else further [c] rest

-- A quote within an expression that is not closed yet, and whether it is tripled.
abbrev OpenQuote := Option (Char × Bool)

def isOpener (c : Char) : Bool := c = '(' || c = '[' || c = '\x7b'

def matchesOpener (opener c : Char) : Bool :=
  (opener = '(' && c = ')') || (opener = '[' && c = ']') || (opener = '\x7b' && c = '\x7d')

-- The most brackets that may be open at a time.
def maxOpen : Nat := 200

-- Two characters that are one comparison operator.
def isComparison (c d : Char) : Bool :=
  d = '=' && (c = '!' || c = '=' || c = '<' || c = '>')

def endsField (c : Char) : Bool := c = '!' || c = ':' || c = '\x7d' || c = '='

-- The source of an expression and the rest, which begins with the character that ended it.
-- Backslashes and comments are not allowed, and brackets must match. The first argument bounds
-- the number of characters.
def fieldSource : Nat → OpenQuote → List Char → Text → Option (Text × Text)
  | 0, _, _, _ => none
  | _, _, _, [] => none
  | fuel + 1, quote, opened, c :: rest =>
    let further (quote : OpenQuote) (opened : List Char) (read rest : Text) :
        Option (Text × Text) :=
      (fieldSource fuel quote opened rest).map fun (source, rest) => (read ++ source, rest)
    if c = '\\' then none
    else
      match quote with
      | some (q, tripled) =>
        if c ≠ q then further quote opened [c] rest
        else if !tripled then further none opened [c] rest
        else if rest.take 2 = [c, c] then further none opened [c, c, c] (rest.drop 2)
        else further quote opened [c] rest
      | none =>
        if c = '\'' || c = '"' then
          if rest.take 2 = [c, c] then further (some (c, true)) opened [c, c, c] (rest.drop 2)
          else further (some (c, false)) opened [c] rest
        else if isOpener c then
          if maxOpen ≤ opened.length then none else further none (c :: opened) [c] rest
        else if c = '#' then none
        else
          match opened with
          | [] =>
            match rest with
            | d :: others =>
              if isComparison c d then further none [] [c, d] others
              else if endsField c then some ([], c :: rest)
              else if c = ')' || c = ']' then none
              else further none [] [c] rest
            | [] => if endsField c then some ([], [c]) else none
          | opener :: outer =>
            if c = ')' || c = ']' || c = '\x7d' then
              if matchesOpener opener c then further none outer [c] rest else none
            else further none opened [c] rest

-- Blanks that do not make an expression.
def isFieldBlank (c : Char) : Bool := c = ' ' || c = '\t' || c = '\n' || c = '\x0c'

def isSpaceAfterEqual (c : Char) : Bool :=
  isFieldBlank c || c = '\r' || c = '\x0b'

-- Skips an equals sign after an expression, and the blanks behind it.
def skipEqual (t : Text) : Text :=
  match t with
  | '=' :: rest => rest.dropWhile isSpaceAfterEqual
  | _ => t

-- Skips a conversion.
def skipConversion? (t : Text) : Option Text :=
  match t with
  | '!' :: c :: rest => if c = 's' || c = 'r' || c = 'a' then some rest else none
  | ['!'] => none
  | _ => some t

-- The expressions in a formatted string, or in a format if `level` is not zero, and the rest.
-- A format ends at its closing brace. The first argument bounds the number of parts.
def fieldsUpTo (raw : Bool) : Nat → Nat → Text → Option (List Text × Text)
  | 0, _, _ => none
  | fuel + 1, level, t => do
    let (literal, doubled, rest) ← literalPart raw (level ≠ 0) t.length t
    if !raw && (unescape? literal).isNone then none
    else if doubled then fieldsUpTo raw fuel level rest
    else
      match rest with
      | [] => if level = 0 then some ([], []) else none
      | '\x7b' :: body =>
        if 2 ≤ level then none
        else
          let (source, rest) ← fieldSource (body.length + 1) none [] body
          if source.all isFieldBlank then none
          else
            let rest ← skipConversion? (skipEqual rest)
            let (inner, rest) ←
              match rest with
              | ':' :: format => fieldsUpTo raw fuel (level + 1) format
              | _ => some ([], rest)
            match rest with
            | '\x7d' :: after =>
              let (others, rest) ← fieldsUpTo raw fuel level after
              some (source :: inner ++ others, rest)
            | _ => none
      | _ => some ([], rest)

-- The sources of all expressions in a formatted string.
def fields? (raw : Bool) (body : Text) : Option (List Text) :=
  match fieldsUpTo raw (body.length + 2) 0 body with
  | some (fields, []) => some fields
  | _ => none

end Ghostwriter.Grammar

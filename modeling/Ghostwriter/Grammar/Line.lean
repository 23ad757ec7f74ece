import Ghostwriter.Grammar.Formatted
import Ghostwriter.Grammar.Row

/-!
Logical lines. Unlike the tolerant scanner this reader refuses what the compiler refuses: an unknown
character, a bracket that does not match, a string that is not closed, an escape that names nothing.
-/

namespace Ghostwriter.Grammar

open Ghostwriter.Text Ghostwriter.Lexeme

-- The column that the blanks before a line lead to, with tabs up to the next multiple of eight, and
-- with tabs as wide as a space. Two lines are comparable only if both measures agree.
structure Margin where
  column : Nat
  narrow : Nat
  deriving DecidableEq, Repr, Inhabited

-- A logical line: its margin and its tokens, which may come from several rows of the text.
structure Line where
  margin : Margin
  tokens : List Token
  deriving DecidableEq, Repr, Inhabited

-- The columns that leading blanks lead to, and what follows the blanks.
def leadingBlanks (margin : Margin) : Text → Margin × Text
  | ' ' :: rest => leadingBlanks ⟨margin.column + 1, margin.narrow + 1⟩ rest
  | '\t' :: rest => leadingBlanks ⟨(margin.column / 8 + 1) * 8, margin.narrow + 1⟩ rest
  | '\x0c' :: rest => leadingBlanks ⟨0, 0⟩ rest
  | rest => (margin, rest)

-- The margin of a line with these rows. Where backslashes join empty rows to the line, the column of
-- the first such backslash counts, unless that is zero.
def marginFrom (margin : Margin) (first : Nat) : List Text → Margin
  | [] => margin
  | row :: rows =>
    let (margin, rest) := leadingBlanks margin row
    if rest.isEmpty && !rows.isEmpty then
      marginFrom margin (if first = 0 then margin.column else first) rows
    else if first = 0 then margin
    else ⟨first, first⟩

-- The text of a string up to its closing quote, and what follows that. A backslash takes the next
-- character with it. Only a tripled quote lets the string run over several rows.
def stringBody? (quote : Char) (tripled : Bool) : Text → Option (Text × Text)
  | [] => none
  | '\\' :: d :: rest =>
    (stringBody? quote tripled rest).map fun (body, rest) => ('\\' :: d :: body, rest)
  | c :: rest =>
    if c = '\n' && !tripled then none
    else if c = quote && (!tripled || rest.take 2 = [quote, quote]) then
      some ([], if tripled then rest.drop 2 else rest)
    else (stringBody? quote tripled rest).map fun (body, rest) => (c :: body, rest)

-- The content of a string with the given letters before its quote.
def content? (letters body : Text) : Option StringContent :=
  let letters := letters.map lowerAscii
  let raw := letters.contains 'r'
  if letters.contains 'b' then
    if body.any (128 ≤ ·.toNat) then none
    else if raw then some (.bytes (body.map fun c => UInt8.ofNat c.toNat))
    else (unescapeBytes? body).map .bytes
  else if letters.contains 'f' then (fields? raw body).map .formatted
  else if raw then some (.text body)
  else (unescape? body).map .text

def string? (opening : Opening) (t : Text) : Option (Token × Text) := do
  let (body, rest) ← stringBody? opening.quote opening.tripled (t.drop opening.length)
  let content ← content? (t.take opening.letters) body
  some (.string content, rest)

-- A name or a keyword. Beyond ASCII, any character may continue the word, but the word as a whole
-- must be an identifier.
def word? (t : Text) : Option (Token × Text) :=
  let word := t.takeWhile continuesName
  let rest := t.drop word.length
  match Keyword.ofText? word with
  | some keyword => some (.keyword keyword, rest)
  | none => if isIdentifier word then some (.name word, rest) else none

def symbol? (t : Text) : Option (Token × Text) :=
  (symbolTable.find? fun entry => entry.1.isPrefixOf t).map fun (text, symbol) =>
    (.symbol symbol, t.drop text.length)

def startsNumber : Text → Bool
  | '.' :: c :: _ => isDigit c
  | c :: _ => isDigit c
  | [] => false

-- The token at the head of a text that starts with no blank and no line end.
def token? (t : Text) : Option (Token × Text) :=
  match opening? t with
  | some opening => string? opening t
  | none =>
    if startsNumber t then (number? t).map fun (value, rest) => (.number value, rest)
    else if t.head?.any continuesName then word? t
    else symbol? t

-- The brackets that are open after a token: of each, the bracket that closes it.
def trackBrackets? (opened : List Symbol) : Token → Option (List Symbol)
  | .symbol symbol =>
    match symbol.closer? with
    | some closer => if maxOpen ≤ opened.length then none else some (closer :: opened)
    | none =>
      if symbol.isCloser then
        match opened with
        | expected :: outer => if symbol = expected then some outer else none
        | [] => none
      else some opened
  | _ => some opened

-- The tokens of a row without blanks at its end. The first argument bounds the number of
-- characters.
def tokensUpTo : Nat → Text → Option (List Token)
  | _, [] => some []
  | 0, _ => none
  | fuel + 1, c :: rest =>
    if isGap c then tokensUpTo fuel rest
    else do
      let (token, rest) ← token? (c :: rest)
      let others ← tokensUpTo fuel rest
      some (token :: others)

def rowTokens? (row : Text) : Option (List Token) :=
  let row := dropRightWhile isGap row
  tokensUpTo row.length row

-- The logical line with these rows. It may be blank.
def line? (rows : List Text) : Option Line := do
  let tokens := (← rows.mapM rowTokens?).flatten
  if tokens.foldlM trackBrackets? [] = some [] then some ⟨marginFrom ⟨0, 0⟩ 0 rows, tokens⟩
  else none

-- The logical lines of a text, with blank ones and with what follows the last line end.
def lines? (t : Text) : Option (List Line) := (rows? t).bind (List.mapM line?)

def Line.isBlank (line : Line) : Bool := line.tokens.isEmpty

-- A module ends in a line feed, which is supplied where it is missing.
def endLine (t : Text) : Text := if t.getLast? = some '\n' then t else t ++ ['\n']

-- The logical lines of a module that are not blank.
def moduleLines? (t : Text) : Option (List Line) :=
  (lines? (endLine (unifyBreaks t))).map (List.filter (!·.isBlank))

-- The tokens of a text that is a single line. Neither the line nor what follows it has a margin.
def singleLine? (t : Text) : Option (List Token) := do
  let lines ← lines? t
  if lines.getLast?.any (·.margin.column ≠ 0) then none
  match lines.filter (!·.isBlank) with
  | [line] => if line.margin.column = 0 then some line.tokens else none
  | _ => none

-- The tokens of an expression that stands alone. Blanks before it do not count.
def aloneTokens? (t : Text) : Option (List Token) :=
  if t.contains '\x00' then none
  else singleLine? (unifyBreaks (t.dropWhile fun c => c = ' ' || c = '\t'))

-- The tokens of an expression within a formatted string, in parentheses of its own.
def fieldTokens? (field : Text) : Option (List Token) :=
  singleLine? ('(' :: field ++ [')', '\n'])

end Ghostwriter.Grammar

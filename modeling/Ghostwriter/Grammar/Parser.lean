import Ghostwriter.Grammar.Token

/-!
Parsers over tokens: each takes what it recognises from the head of a list and hands on the rest.
-/

namespace Ghostwriter.Grammar

open Ghostwriter.Text

abbrev Parser (α : Type) := List Token → Option (α × List Token)

-- Takes one symbol.
def take? (symbol : Symbol) : List Token → Option (List Token)
  | .symbol other :: rest => if other = symbol then some rest else none
  | _ => none

-- Takes one keyword.
def takeWord? (keyword : Keyword) : List Token → Option (List Token)
  | .keyword other :: rest => if other = keyword then some rest else none
  | _ => none

def startsWith (symbol : Symbol) (ts : List Token) : Bool := (take? symbol ts).isSome

def nameToken? : Parser Text
  | .name text :: rest => some (text, rest)
  | _ => none

-- Further items behind a first one, each with a comma before it: the items, whether a comma follows
-- the last one, and the rest. The second argument bounds the number of items.
def moreItemsUpTo {α : Type} (item : Parser α) : Nat → List Token → List α × Bool × List Token
  | 0, ts => ([], false, ts)
  | fuel + 1, ts =>
    match take? .comma ts with
    | none => ([], false, ts)
    | some ts =>
      match item ts with
      | none => ([], true, ts)
      | some (first, ts) =>
        let (others, trailing, rest) := moreItemsUpTo item fuel ts
        (first :: others, trailing, rest)

def moreItems {α : Type} (item : Parser α) (ts : List Token) : List α × Bool × List Token :=
  moreItemsUpTo item ts.length ts

-- Items with commas between them: the items, whether a comma follows the last one, and the rest.
def commaList {α : Type} (item : Parser α) (ts : List Token) :
    Option (List α × Bool × List Token) := do
  let (first, ts) ← item ts
  let (others, trailing, ts) := moreItems item ts
  some (first :: others, trailing, ts)

-- An operand, then as many operators with their operands as there are, taken from the left. The
-- fourth argument bounds the number of operators.
def operatorsUpTo {α β : Type} (operator : Parser β) (operand : Parser α)
    (combine : α → β → α → α) :
    Nat → α → List Token → Option (α × List Token)
  | 0, left, ts => some (left, ts)
  | fuel + 1, left, ts =>
    match operator ts with
    | none => some (left, ts)
    | some (op, ts) => do
      let (right, ts) ← operand ts
      operatorsUpTo operator operand combine fuel (combine left op right) ts

def operators {α β : Type} (operator : Parser β) (operand : Parser α)
    (combine : α → β → α → α) :
    Parser α := fun ts => do
  let (left, ts) ← operand ts
  operatorsUpTo operator operand combine ts.length left ts

-- Takes what the parser recognises, or nothing.
def optional {α : Type} (parser : Parser α) (ts : List Token) : Option α × List Token :=
  match parser ts with
  | none => (none, ts)
  | some (value, rest) => (some value, rest)

-- Skips what the parser recognises, as often as it does. The second argument bounds how often.
def skipManyUpTo {α : Type} (parser : Parser α) : Nat → List Token → List Token
  | 0, ts => ts
  | fuel + 1, ts =>
    match parser ts with
    | none => ts
    | some (_, rest) => skipManyUpTo parser fuel rest

def skipMany {α : Type} (parser : Parser α) (ts : List Token) : List Token :=
  skipManyUpTo parser ts.length ts

end Ghostwriter.Grammar

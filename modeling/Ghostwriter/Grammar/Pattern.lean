import Ghostwriter.Grammar.Expression

/-!
The patterns of a case: literals, names that capture a value, dotted names that stand for one, and
sequences, mappings and classes of patterns. The underscore stands for anything and is no name.
-/

namespace Ghostwriter.Grammar

open Ghostwriter.Text

def underscore : Text := ['_']

-- What keeps a name from being a capture.
def extendsName (ts : List Token) : Bool :=
  startsWith .dot ts || startsWith .openParen ts || startsWith .equal ts

-- A name that captures a value.
def capture : List Token → Option (List Token)
  | .name text :: ts => if text = underscore || extendsName ts then none else some ts
  | _ => none

-- A number with a sign or not, or a sum of a real and an imaginary number.
def numberPattern (ts : List Token) : Option (List Token) :=
  let unsigned := (take? .minus ts).getD ts
  match unsigned with
  | .number value :: rest =>
    match isSign rest with
    | none => some rest
    | some (_, .number (.imaginary _) :: rest) =>
      match value with
      | .imaginary _ => none
      | _ => some rest
    | some _ => none
  | _ => none

section

-- Reads string literals that stand next to each other.
variable (strings : List Token → Option (List Token))

def literalPattern (ts : List Token) : Option (List Token) :=
  match ts with
  | .keyword .none_ :: rest => some rest
  | .keyword .true_ :: rest => some rest
  | .keyword .false_ :: rest => some rest
  | .string _ :: _ => strings ts
  | _ => numberPattern ts

-- The further parts of a dotted name.
def dottedRest : List Token → List Token
  | .symbol .dot :: .name _ :: rest => dottedRest rest
  | ts => ts

-- A dotted name: whether there is a dot in it, and the rest.
def dotted? : List Token → Option (Bool × List Token)
  | .name _ :: rest => some (startsWith .dot rest, dottedRest rest)
  | _ => none

variable (pattern : List Token → Option (List Token))

def patternItem : Parser Unit := fun ts => (pattern ts).map ((), ·)

-- A pattern in a sequence: whether it has an asterisk.
def sequenceItem : Parser Bool
  | .symbol .star :: .name text :: ts =>
    if text = underscore || !extendsName ts then some (true, ts) else none
  | ts => (pattern ts).map (false, ·)

-- Patterns in brackets. In parentheses a single pattern needs a comma to be a sequence, and
-- without one it must have no asterisk.
def sequencePattern (closer : Symbol) (ts : List Token) : Option (List Token) :=
  match take? closer ts with
  | some ts => some ts
  | none => do
    let (items, trailing, ts) ← commaList (sequenceItem pattern) ts
    if closer = .closeParen && items = [true] && !trailing then none
    take? closer ts

-- An entry of a mapping. Its key is a literal or a dotted name.
def mappingItem : Parser Unit := fun ts => do
  let ts ←
    match literalPattern strings ts with
    | some ts => some ts
    | none =>
      match dotted? ts with
      | some (true, ts) => some ts
      | _ => none
  let ts ← take? .colon ts
  let ts ← pattern ts
  some ((), ts)

-- The end of a mapping: two asterisks and a name for all other entries, and a comma.
def mappingEnd (ts : List Token) : Option (List Token) := do
  let ts ←
    match take? .doubleStar ts with
    | none => some ts
    | some ts => do
      let ts ← capture ts
      some ((take? .comma ts).getD ts)
  take? .closeBrace ts

def mappingPattern (ts : List Token) : Option (List Token) :=
  match commaList (mappingItem strings pattern) ts with
  | none => mappingEnd ts
  | some (_, true, ts) => mappingEnd ts
  | some (_, false, ts) => take? .closeBrace ts

def namesKeyword : List Token → Bool
  | .name _ :: .symbol .equal :: _ => true
  | _ => false

def keywordItem : Parser Unit
  | .name _ :: .symbol .equal :: ts => (pattern ts).map ((), ·)
  | _ => none

-- The patterns in the parentheses behind a class: positional ones, then named ones.
def classArgumentsPattern (ts : List Token) : Option (List Token) :=
  let namedOnly (ts : List Token) : Option (List Token) := do
    let (_, _, ts) ← commaList (keywordItem pattern) ts
    take? .closeParen ts
  if startsWith .closeParen ts then some ts.tail
  else if namesKeyword ts then namedOnly ts
  else do
    let (_, trailing, ts) ← commaList (patternItem pattern) ts
    match take? .closeParen ts with
    | some ts => some ts
    | none => if trailing then namedOnly ts else none

def closedPattern (ts : List Token) : Option (List Token) :=
  match literalPattern strings ts with
  | some ts => some ts
  | none =>
    match capture ts with
    | some ts => some ts
    | none =>
      match ts with
      | .symbol .openParen :: ts => sequencePattern pattern .closeParen ts
      | .symbol .openBracket :: ts => sequencePattern pattern .closeBracket ts
      | .symbol .openBrace :: ts => mappingPattern strings pattern ts
      | .name text :: rest =>
        if text = underscore then some rest
        else
          match dotted? ts with
          | none => none
          | some (isDotted, rest) =>
            match take? .openParen rest with
            | some rest => classArgumentsPattern pattern rest
            | none => if isDotted && !startsWith .equal rest then some rest else none
      | _ => none

-- Alternatives, and a name for what they match.
def patternRule (ts : List Token) : Option (List Token) := do
  let closed : Parser Unit := fun ts => (closedPattern strings pattern ts).map ((), ·)
  let (_, ts) ← operators (anyOf [.bar]) closed (fun _ _ _ => ()) ts
  match takeWord? .as_ ts with
  | none => some ts
  | some rest => capture rest

-- A pattern in which patterns are nested at most that deep.
def patternUpTo : Nat → List Token → Option (List Token)
  | 0 => fun _ => none
  | fuel + 1 => patternRule strings (patternUpTo fuel)

-- The patterns of a case: one, or a sequence without brackets.
def casePattern (ts : List Token) : Option (List Token) := do
  let (items, trailing, ts) ← commaList (sequenceItem (patternUpTo strings (ts.length + 1))) ts
  if items = [true] && !trailing then none else some ts

end

end Ghostwriter.Grammar

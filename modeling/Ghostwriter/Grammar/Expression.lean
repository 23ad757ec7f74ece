import Ghostwriter.Grammar.Line
import Ghostwriter.Grammar.Parameter

/-!
The grammar of expressions. Every rule below takes the parser for the expressions inside, so that
only the last definition is recursive; it bounds how deep expressions are nested.
-/

namespace Ghostwriter.Grammar

open Ghostwriter.Text

-- Literals next to each other are one literal. Bytes and text do not mix.
def joinStrings (contents : List StringContent) : Option Expr :=
  let isBytes : StringContent → Bool
    | .bytes _ => true
    | _ => false
  let isFormatted : StringContent → Bool
    | .formatted _ => true
    | _ => false
  let value : StringContent → Text
    | .text t => t
    | _ => []
  let byteValue : StringContent → Bytes
    | .bytes b => b
    | _ => []
  if contents.all isBytes then some (.bytes (contents.flatMap byteValue))
  else if contents.any isBytes then none
  else if contents.any isFormatted then some .formatted
  else some (.text (contents.flatMap value))

def stringContent? : Token → Option StringContent
  | .string content => some content
  | _ => none

def isSign (ts : List Token) : Option (Bool × List Token) :=
  match ts with
  | .symbol .plus :: rest => some (false, rest)
  | .symbol .minus :: rest => some (true, rest)
  | _ => none

-- Takes one of several symbols.
def anyOf (symbols : List Symbol) : Parser Symbol
  | .symbol symbol :: rest => if symbols.contains symbol then some (symbol, rest) else none
  | _ => none

def productOperator : Parser Symbol :=
  anyOf [.star, .slash, .doubleSlash, .percent, .at]

def shiftOperator : Parser Symbol := anyOf [.shiftLeft, .shiftRight]

def comparisonOperator : Parser Unit
  | .keyword .not_ :: .keyword .in_ :: rest => some ((), rest)
  | .keyword .is_ :: .keyword .not_ :: rest => some ((), rest)
  | .keyword .is_ :: rest => some ((), rest)
  | .keyword .in_ :: rest => some ((), rest)
  | ts =>
    match anyOf [.less, .greater, .lessEqual, .greaterEqual, .equalEqual, .notEqual] ts with
    | some (_, rest) => some ((), rest)
    | none => none

def asOther {α β γ : Type} (_ : α) (_ : β) (_ : γ) : Expr := .other

-- Whether the clauses of a comprehension begin.
def startsClauses : List Token → Bool
  | .keyword .for_ :: _ => true
  | .keyword .async_ :: .keyword .for_ :: _ => true
  | _ => false

-- Which arguments of a call may follow: at first all kinds, behind a named one no positional ones,
-- behind an unpacked dictionary only named ones and dictionaries.
inductive ArgumentPhase where
  | positional
  | named
  | unpacking
  deriving DecidableEq, Repr

section

variable (expression : Parser Expr)

-- An expression that may be given a name: `x := value`.
def named : Parser Expr
  | .name _ :: .symbol .walrus :: ts =>
    match expression ts with
    | some (_, rest) => some (.other, rest)
    | none => none
  | ts => expression ts

def lambdaStyle : ParameterStyle :=
  ⟨.colon, fun ts => some ((), ts), fun ts => some ((), ts)⟩

-- One part of a subscript: a slice, or an item, which may have an asterisk.
def subscriptPart : Parser Unit
  | .symbol .star :: ts => do
    let (_, ts) ← expression ts
    some ((), ts)
  | .name text :: .symbol .walrus :: ts => do
    let (_, ts) ← named expression (.name text :: .symbol .walrus :: ts)
    some ((), ts)
  | ts => do
    let (low, ts) := optional expression ts
    match take? .colon ts with
    | none => if low.isNone then none else some ((), ts)
    | some ts =>
      let (_, ts) := optional expression ts
      match take? .colon ts with
      | none => some ((), ts)
      | some ts => some ((), (optional expression ts).2)

-- The arguments of a call up to its closing parenthesis: whether there are any, and the rest. A
-- generator may stand alone without parentheses of its own if `clauses` reads what makes it one.
-- The third argument bounds the number of arguments.
def argumentsUpTo (clauses : List Token → Option (List Token)) :
    Nat → Bool → ArgumentPhase → List Token → Option (Bool × List Token)
  | 0, _, _, _ => none
  | fuel + 1, isFirst, phase, ts =>
    let further (phase : ArgumentPhase) (ts : List Token) : Option (Bool × List Token) :=
      match take? .comma ts with
      | some ts => argumentsUpTo clauses fuel false phase ts
      | none => (take? .closeParen ts).map (true, ·)
    match ts with
    | .symbol .closeParen :: ts => some (!isFirst, ts)
    | .symbol .star :: ts => do
      if phase = .unpacking then none
      let (_, ts) ← expression ts
      further phase ts
    | .symbol .doubleStar :: ts => do
      let (_, ts) ← expression ts
      further .unpacking ts
    | .name _ :: .symbol .equal :: ts => do
      let (_, ts) ← expression ts
      further (if phase = .unpacking then .unpacking else .named) ts
    | ts => do
      if phase ≠ .positional then none
      let (_, ts) ← named expression ts
      if isFirst && startsClauses ts then
        let ts ← clauses ts
        (take? .closeParen ts).map (true, ·)
      else further phase ts

def arguments (clauses : List Token → Option (List Token)) (ts : List Token) :
    Option (Bool × List Token) :=
  argumentsUpTo expression clauses (ts.length + 1) true .positional ts

-- A class takes no generator for an argument.
def classArguments (ts : List Token) : Option (Bool × List Token) :=
  arguments expression (fun _ => none) ts

-- The levels of binding, each in terms of the next tighter one. The tightest here is `primary`.
section

variable (primary : Parser Expr)

-- The signs in front of an operand, the first one first. `none` stands for the tilde.
def signs : List Token → List (Option Bool) × List Token
  | .symbol .plus :: ts => let (s, rest) := signs ts; (some false :: s, rest)
  | .symbol .minus :: ts => let (s, rest) := signs ts; (some true :: s, rest)
  | .symbol .tilde :: ts => let (s, rest) := signs ts; (none :: s, rest)
  | ts => ([], ts)

def applySign (sign : Option Bool) (operand : Expr) : Expr :=
  match sign with
  | some negative => .signed negative operand
  | none => .other

def signedPrimary : Parser Expr := fun ts => do
  let (signs, ts) := signs ts
  let (operand, ts) ← primary ts
  some (signs.foldr applySign operand, ts)

-- Signs, and powers of operands with signs.
def factor : Parser Expr :=
  operators (anyOf [.doubleStar]) (signedPrimary primary) asOther

def sum : Parser Expr :=
  operators isSign (operators productOperator (factor primary) asOther)
    fun left negative right => .sum negative left right

def bitOr : Parser Expr :=
  operators (anyOf [.bar])
    (operators (anyOf [.caret])
      (operators (anyOf [.ampersand])
        (operators shiftOperator (sum primary) asOther) asOther) asOther) asOther

def comparison : Parser Expr := operators comparisonOperator (bitOr primary) asOther

def inversion : Parser Expr := fun ts =>
  let isNot (t : Token) : Bool := t = .keyword .not_
  match comparison primary (ts.dropWhile isNot) with
  | none => none
  | some (e, rest) => some (if ts.head?.any isNot then .other else e, rest)

def disjunction : Parser Expr :=
  let oneWord (keyword : Keyword) : Parser Unit := fun ts => (takeWord? keyword ts).map ((), ·)
  operators (oneWord .or_) (operators (oneWord .and_) (inversion primary) asOther) asOther

def starred : Parser Expr := fun ts => do
  let (e, ts) ← bitOr primary ts
  some (.starred e, ts)

-- An item of a list: a named expression, or an operand with an asterisk.
def item : Parser Expr
  | .symbol .star :: ts => starred primary ts
  | ts => named expression ts

-- An item where names cannot be given.
def plainItem : Parser Expr
  | .symbol .star :: ts => starred primary ts
  | ts => expression ts

-- Several items are a tuple, and so is one with a comma behind it.
def plainItems : Parser Expr := fun ts => do
  let (items, trailing, ts) ← commaList (plainItem expression primary) ts
  match items, trailing with
  | [e], false => some (e, ts)
  | items, _ => some (.tuple items, ts)

def yielded : List Token → Option (List Token)
  | .keyword .from_ :: ts => (expression ts).map Prod.snd
  | ts => some (optional (plainItems expression primary) ts).2

-- One name, member or subscript, or a list of them, that values are assigned to.
def target : Parser Expr := fun ts => do
  let (e, ts) ←
    match ts with
    | .symbol .star :: ts => (primary ts).map fun (e, ts) => (Expr.starred e, ts)
    | ts => primary ts
  if e.isTarget then some (e, ts) else none

def targets (ts : List Token) : Option (List Token) := do
  let (_, _, ts) ← commaList (target primary) ts
  some ts

-- A clause of a comprehension, `for targets in values`, with its conditions.
def clause : Parser Unit := fun ts => do
  let ts := (takeWord? .async_ ts).getD ts
  let ts ← takeWord? .for_ ts
  let ts ← targets primary ts
  let ts ← takeWord? .in_ ts
  let (_, ts) ← disjunction primary ts
  let condition : Parser Unit := fun ts => do
    let ts ← takeWord? .if_ ts
    let (_, ts) ← disjunction primary ts
    some ((), ts)
  some ((), skipMany condition ts)

def clauses (ts : List Token) : Option (List Token) := do
  let (_, ts) ← clause primary ts
  some (skipMany (clause primary) ts)

-- The rest of what stands in brackets, behind its first item: the clauses of a comprehension, or
-- further items. A comprehension comes as `none`.
def bracketRest {α : Type} (next : Parser α) (closer : Symbol) (comprehends : Bool) :
    Parser (Option (List α × Bool)) := fun ts =>
  if comprehends && startsClauses ts then do
    let ts ← clauses primary ts
    let ts ← take? closer ts
    some (none, ts)
  else do
    let (others, trailing, ts) := moreItems next ts
    let ts ← take? closer ts
    some (some (others, trailing), ts)

-- What follows an opening parenthesis: a tuple, a generator, or an expression in parentheses.
def afterParen : Parser Expr
  | .symbol .closeParen :: ts => some (.tuple [], ts)
  | .keyword .yield_ :: ts => do
    let ts ← yielded expression primary ts
    let ts ← take? .closeParen ts
    some (.other, ts)
  | ts => do
    let (first, ts) ← item expression primary ts
    let (rest, ts) ←
      bracketRest primary (item expression primary) .closeParen (!first.isStarred) ts
    match rest with
    | none => some (.other, ts)
    | some ([], false) => if first.isStarred then none else some (first, ts)
    | some (others, _) => some (.tuple (first :: others), ts)

-- What follows an opening square bracket.
def afterBracket : Parser Expr
  | .symbol .closeBracket :: ts => some (.list [], ts)
  | ts => do
    let (first, ts) ← item expression primary ts
    let (rest, ts) ←
      bracketRest primary (item expression primary) .closeBracket (!first.isStarred) ts
    match rest with
    | none => some (.other, ts)
    | some (others, _) => some (.list (first :: others), ts)

-- An entry of a dictionary: a key and a value, or two asterisks and a dictionary.
def entry : Parser (Expr × Expr)
  | .symbol .doubleStar :: ts => do
    let (e, ts) ← bitOr primary ts
    some ((.other, e), ts)
  | ts => do
    let (key, ts) ← expression ts
    let ts ← take? .colon ts
    let (value, ts) ← expression ts
    some ((key, value), ts)

-- The rest of a dictionary, behind its first entry.
def dictRest (first : Expr × Expr) (comprehends : Bool) : Parser Expr := fun ts => do
  let (rest, ts) ←
    bracketRest primary (entry expression primary) .closeBrace comprehends ts
  match rest with
  | none => some (.other, ts)
  | some (others, _) => some (.dict (first :: others), ts)

def givesName : List Token → Bool
  | .name _ :: .symbol .walrus :: _ => true
  | _ => false

-- What follows an opening brace: a dictionary if it is empty or starts with an entry, else a set.
def afterBrace : Parser Expr
  | .symbol .closeBrace :: ts => some (.dict [], ts)
  | .symbol .doubleStar :: ts => do
    let (first, ts) ← entry expression primary (.symbol .doubleStar :: ts)
    dictRest expression primary first false ts
  | ts => do
    let named := givesName ts
    let (first, ts) ← item expression primary ts
    match take? .colon ts with
    | some ts =>
      if named || first.isStarred then none
      else
        let (value, ts) ← expression ts
        dictRest expression primary (first, value) true ts
    | none =>
      let (rest, ts) ←
        bracketRest primary (item expression primary) .closeBrace (!first.isStarred) ts
      match rest with
      | none => some (.other, ts)
      | some (others, _) => some (.set (first :: others), ts)

-- Whether the sources of a formatted string are expressions.
def areFields (fields : List Text) : Bool :=
  fields.all fun field =>
    match fieldTokens? field with
    | none => false
    | some ts =>
      match plainItems expression primary ts with
      | some (_, []) => true
      | _ => false

def strings : Parser Expr := fun ts => do
  let contents := (ts.map stringContent?).takeWhile Option.isSome
  let contents := contents.filterMap id
  let isSound : StringContent → Bool
    | .formatted fields => areFields expression primary fields
    | _ => true
  if contents.all isSound then
    let e ← joinStrings contents
    some (e, ts.drop contents.length)
  else none

def atom : Parser Expr
  | .name text :: ts => some (.name text, ts)
  | .keyword .true_ :: ts => some (.singleton .true, ts)
  | .keyword .false_ :: ts => some (.singleton .false, ts)
  | .keyword .none_ :: ts => some (.singleton .none, ts)
  | .symbol .ellipsis :: ts => some (.singleton .ellipsis, ts)
  | .number value :: ts => some (.number value, ts)
  | .string content :: ts => strings expression primary (.string content :: ts)
  | .symbol .openParen :: ts => afterParen expression primary ts
  | .symbol .openBracket :: ts => afterBracket expression primary ts
  | .symbol .openBrace :: ts => afterBrace expression primary ts
  | _ => none

-- What follows an operand: members, calls and subscripts. The first argument bounds their number.
def trailersUpTo : Nat → Expr → List Token → Option (Expr × List Token)
  | 0, e, ts => some (e, ts)
  | fuel + 1, e, ts =>
    match ts with
    | .symbol .dot :: ts => do
      let (_, ts) ← nameToken? ts
      trailersUpTo fuel .member ts
    | .symbol .openParen :: ts => do
      let (hasArguments, ts) ← arguments expression (clauses primary) ts
      trailersUpTo fuel (.call e hasArguments) ts
    | .symbol .openBracket :: ts => do
      let (_, _, ts) ← commaList (subscriptPart expression) ts
      let ts ← take? .closeBracket ts
      trailersUpTo fuel .subscript ts
    | ts => some (e, ts)

def trailers (e : Expr) (ts : List Token) : Option (Expr × List Token) :=
  trailersUpTo expression primary ts.length e ts

-- An operand with what follows it, which may be awaited.
def primaryRule : Parser Expr
  | .keyword .await_ :: ts => do
    let (e, ts) ← atom expression primary ts
    let (_, ts) ← trailers expression primary e ts
    some (.other, ts)
  | ts => do
    let (e, ts) ← atom expression primary ts
    trailers expression primary e ts

-- A function without a name, or a value, which may depend on a condition.
def expressionRule : Parser Expr
  | .keyword .lambda_ :: ts => do
    let ts ← parameters expression lambdaStyle ts
    let ts ← take? .colon ts
    let (_, ts) ← expression ts
    some (.other, ts)
  | ts => do
    let (e, ts) ← disjunction primary ts
    match takeWord? .if_ ts with
    | none => some (e, ts)
    | some ts =>
      let (_, ts) ← disjunction primary ts
      let ts ← takeWord? .else_ ts
      let (_, ts) ← expression ts
      some (.other, ts)

end

end

mutual

-- An operand in which expressions are nested at most that deep.
def primary : Nat → Parser Expr
  | 0 => fun _ => none
  | fuel + 1 => primaryRule (expression fuel) (primary fuel)

-- An expression in which expressions are nested at most that deep.
def expression : Nat → Parser Expr
  | 0 => fun _ => none
  | fuel + 1 => expressionRule (expression fuel) (primary fuel)

end

-- A depth that no text with these tokens exceeds: whatever is nested takes a token of its own.
def depthBound (ts : List Token) : Nat := 2 * (ts.foldl (fun sum t => sum + t.weight) 0) + 8

-- An operand and an expression, however deep expressions are nested in them.
def anyPrimary : Parser Expr := fun ts => primary (depthBound ts) ts

def anyExpression : Parser Expr := fun ts => expression (depthBound ts) ts

-- The value of a text that is a single expression.
def expressionAlone? (t : Text) : Option Expr := do
  let ts ← aloneTokens? t
  let depth := depthBound ts
  let (items, trailing, rest) ← commaList (expression depth) ts
  if !rest.isEmpty then none
  match items, trailing with
  | [e], false => some e
  | items, _ => some (.tuple items)

end Ghostwriter.Grammar

import Ghostwriter.Grammar.Block
import Ghostwriter.Grammar.Pattern

/-!
The grammar of statements. It says for a text whether it is a module, and of what kind its
statements are. Only the shape counts: a `return` may stand outside a function.
-/

namespace Ghostwriter.Grammar

open Ghostwriter.Text

inductive StatementKind where
  | functionDef | asyncFunctionDef | classDef
  | returns | delete
  | assign | augAssign | annAssign
  | forLoop | asyncFor | whileLoop | ifElse | withItems | asyncWith
  | matchCases | raises | tryExcept | tryStar | asserts
  | imports | importFrom | globals | nonlocals
  | expr | pass | breaks | continues
  deriving DecidableEq, Repr

-- A simple statement with the tokens behind it.
abbrev Simple := Option (StatementKind × List Token)

-- A simple statement ends its line, or a semicolon follows it.
def endsSimple (ts : List Token) : Bool := ts.isEmpty || startsWith .semicolon ts

-- A module by its dotted name.
def dottedName (ts : List Token) : Option (List Token) := (dotted? ts).map Prod.snd

-- Skips `as` and a name, if they are there. An `as` without a name behind it stays.
def skipAlias (ts : List Token) : List Token :=
  match ts with
  | .keyword .as_ :: .name _ :: rest => rest
  | _ => ts

def importedModule : Parser Unit := fun ts => (dottedName ts).map fun ts => ((), skipAlias ts)

def importedName : Parser Unit := fun ts => do
  let (_, ts) ← nameToken? ts
  some ((), skipAlias ts)

def isDot (t : Token) : Bool := t = .symbol .dot || t = .symbol .ellipsis

-- What is imported from a module: names, in parentheses or not, or an asterisk.
def importTargets (ts : List Token) : Option (List Token) :=
  match ts with
  | .symbol .star :: rest => some rest
  | .symbol .openParen :: rest => do
    let (_, _, ts) ← commaList importedName rest
    take? .closeParen ts
  | _ => do
    let (_, trailing, ts) ← commaList importedName ts
    if trailing then none else some ts

def importFrom (ts : List Token) : Option (List Token) := do
  let afterDots := ts.dropWhile isDot
  let ts ←
    match dottedName afterDots with
    | some ts => some ts
    | none => if ts.head?.any isDot then some afterDots else none
  let ts ← takeWord? .import_ ts
  importTargets ts

def names (ts : List Token) : Option (List Token) := do
  let (_, trailing, ts) ← commaList nameToken? ts
  if trailing then none else some ts

section

-- The parsers for the expressions inside.
variable (expression primary : Parser Expr)

-- What is on the right of an assignment.
def assigned (ts : List Token) : Option (List Token) :=
  match ts with
  | .keyword .yield_ :: ts => yielded expression primary ts
  | _ => (plainItems expression primary ts).map Prod.snd

-- The rest of `a = b = c`, behind an equals sign. The third argument bounds the number of targets.
def assignments : Nat → List Token → Option (List Token)
  | 0, _ => none
  | fuel + 1, ts =>
    match ts with
    | .keyword .yield_ :: ts => do
      let ts ← yielded expression primary ts
      if startsWith .equal ts then none else some ts
    | _ => do
      let (e, ts) ← plainItems expression primary ts
      match take? .equal ts with
      | none => some ts
      | some ts => if e.isTarget then assignments fuel ts else none

-- A statement that starts with an expression.
def expressionStatement (ts : List Token) : Simple := do
  let (e, ts) ← plainItems expression primary ts
  match ts with
  | .symbol .equal :: ts =>
    if e.isTarget then
      (assignments expression primary (ts.length + 1) ts).map (StatementKind.assign, ·)
    else none
  | .symbol .augmented :: ts =>
    if e.isSingleTarget then (assigned expression primary ts).map (StatementKind.augAssign, ·)
    else none
  | .symbol .colon :: ts =>
    if e.isSingleTarget then do
      let (_, ts) ← expression ts
      match take? .equal ts with
      | none => some (.annAssign, ts)
      | some ts => (assigned expression primary ts).map (StatementKind.annAssign, ·)
    else none
  | _ => some (.expr, ts)

def raise (ts : List Token) : Option (List Token) := do
  if endsSimple ts then some ts
  else
    let (_, ts) ← expression ts
    match takeWord? .from_ ts with
    | none => some ts
    | some ts => (expression ts).map Prod.snd

def assertion (ts : List Token) : Option (List Token) := do
  let (_, ts) ← expression ts
  match take? .comma ts with
  | none => some ts
  | some ts => (expression ts).map Prod.snd

def deletion (ts : List Token) : Option (List Token) := do
  let (items, _, ts) ← commaList primary ts
  if items.all Expr.isDeletable && endsSimple ts then some ts else none

def simple (ts : List Token) : Simple :=
  match ts with
  | .keyword .pass_ :: ts => some (.pass, ts)
  | .keyword .break_ :: ts => some (.breaks, ts)
  | .keyword .continue_ :: ts => some (.continues, ts)
  | .keyword .return_ :: ts => some (.returns, (optional (plainItems expression primary) ts).2)
  | .keyword .yield_ :: ts => (yielded expression primary ts).map (StatementKind.expr, ·)
  | .keyword .raise_ :: ts => (raise expression ts).map (StatementKind.raises, ·)
  | .keyword .assert_ :: ts => (assertion expression ts).map (StatementKind.asserts, ·)
  | .keyword .del_ :: ts => (deletion primary ts).map (StatementKind.delete, ·)
  | .keyword .global_ :: ts => (names ts).map (StatementKind.globals, ·)
  | .keyword .nonlocal_ :: ts => (names ts).map (StatementKind.nonlocals, ·)
  | .keyword .import_ :: ts => do
    let (_, trailing, ts) ← commaList importedModule ts
    if trailing then none else some (.imports, ts)
  | .keyword .from_ :: ts => (importFrom ts).map (StatementKind.importFrom, ·)
  | ts => expressionStatement expression primary ts

-- The simple statements of a line, with semicolons between them. The third argument bounds their
-- number.
def simpleLineUpTo : Nat → List Token → Option (List StatementKind)
  | 0, _ => none
  | fuel + 1, ts => do
    let (kind, ts) ← simple expression primary ts
    match ts with
    | [] => some [kind]
    | .symbol .semicolon :: [] => some [kind]
    | .symbol .semicolon :: ts => (simpleLineUpTo fuel ts).map (kind :: ·)
    | _ => none

def simpleLine (ts : List Token) : Option (List StatementKind) :=
  simpleLineUpTo expression primary (ts.length + 1) ts

-- The headers of compound statements up to and with their colon. Each gives what follows it.

-- An expression and a colon.
def condition (ts : List Token) : Option (List Token) := do
  let (_, ts) ← named expression ts
  take? .colon ts

def loopHeader (ts : List Token) : Option (List Token) := do
  let ts ← targets primary ts
  let ts ← takeWord? .in_ ts
  let (_, ts) ← plainItems expression primary ts
  take? .colon ts

-- An annotation behind a parameter, if there is one.
def annotation (value : Parser Expr) : Parser Unit := fun ts =>
  match take? .colon ts with
  | none => some ((), ts)
  | some ts => (value ts).map fun (_, ts) => ((), ts)

def functionStyle : ParameterStyle :=
  ⟨.closeParen, annotation expression, annotation (plainItem expression primary)⟩

def functionHeader (ts : List Token) : Option (List Token) := do
  let (_, ts) ← nameToken? ts
  let ts ← take? .openParen ts
  let ts ← parameters expression (functionStyle expression primary) ts
  let ts ← take? .closeParen ts
  let ts ←
    match take? .arrow ts with
    | none => some ts
    | some ts => (expression ts).map Prod.snd
  take? .colon ts

def classHeader (ts : List Token) : Option (List Token) := do
  let (_, ts) ← nameToken? ts
  let ts ←
    match take? .openParen ts with
    | none => some ts
    | some ts => (classArguments expression ts).map Prod.snd
  take? .colon ts

-- A context with the target for its value. A target that is none leaves the `as` behind.
def withItem : Parser Unit := fun ts => do
  let (_, ts) ← expression ts
  match takeWord? .as_ ts with
  | none => some ((), ts)
  | some rest =>
    match target primary rest with
    | none => some ((), ts)
    | some (_, rest) => some ((), rest)

-- The items may stand in parentheses.
def withHeader (ts : List Token) : Option (List Token) :=
  let plain : Option (List Token) := do
    let (_, trailing, ts) ← commaList (withItem expression primary) ts
    if trailing then none else take? .colon ts
  let enclosed : Option (List Token) := do
    let ts ← take? .openParen ts
    let (_, _, ts) ← commaList (withItem expression primary) ts
    let ts ← take? .closeParen ts
    take? .colon ts
  enclosed.or plain

-- What is excepted: the expression and a name for it may be missing, unless there is an asterisk.
def exceptHeader (ts : List Token) : Option (List Token) :=
  match take? .colon ts with
  | some ts => some ts
  | none => do
    let (_, ts) ← expression ((take? .star ts).getD ts)
    take? .colon (skipAlias ts)

-- The subject of a match: an expression, or items, of which one with an asterisk needs a comma.
def matchHeader (ts : List Token) : Option (List Token) := do
  let (items, trailing, ts) ← commaList (item expression primary) ts
  match items, trailing with
  | [e], false => if e.isStarred then none else take? .colon ts
  | _, _ => take? .colon ts

def caseHeader (ts : List Token) : Option (List Token) := do
  let strings (ts : List Token) : Option (List Token) :=
    (strings expression primary ts).map Prod.snd
  let ts ← casePattern strings ts
  match takeWord? .if_ ts with
  | none => take? .colon ts
  | some ts => condition expression ts

-- A statement that may have further clauses: its kind and what follows its header.
def compoundHeader (ts : List Token) : Option (StatementKind × Option (List Token)) :=
  match ts with
  | .keyword .if_ :: ts => some (.ifElse, condition expression ts)
  | .keyword .while_ :: ts => some (.whileLoop, condition expression ts)
  | .keyword .for_ :: ts => some (.forLoop, loopHeader expression primary ts)
  | .keyword .try_ :: ts => some (.tryExcept, take? .colon ts)
  | .keyword .with_ :: ts => some (.withItems, withHeader expression primary ts)
  | .keyword .def_ :: ts => some (.functionDef, functionHeader expression primary ts)
  | .keyword .class_ :: ts => some (.classDef, classHeader expression ts)
  | .keyword .async_ :: .keyword .for_ :: ts => some (.asyncFor, loopHeader expression primary ts)
  | .keyword .async_ :: .keyword .with_ :: ts => some (.asyncWith, withHeader expression primary ts)
  | .keyword .async_ :: .keyword .def_ :: ts =>
    some (.asyncFunctionDef, functionHeader expression primary ts)
  | _ => none

end

-- The further clauses that a statement takes, in their order.
inductive Clause where
  | elif
  | except
  | exceptStar
  | orElse
  | finally_
  deriving DecidableEq, Repr

def clauseOf? : List Token → Option (Clause × List Token)
  | .keyword .elif_ :: ts => some (.elif, ts)
  | .keyword .else_ :: ts => some (.orElse, ts)
  | .keyword .finally_ :: ts => some (.finally_, ts)
  | .keyword .except_ :: ts => some (if startsWith .star ts then .exceptStar else .except, ts)
  | _ => none

def isDecorated : StatementKind → Bool
  | .functionDef | .asyncFunctionDef | .classDef => true
  | _ => false

-- Whether a statement is complete with these clauses. A `try` needs one of its clauses, and its
-- `else` an `except`.
def areClauses (kind : StatementKind) (clauses : List Clause) : Bool :=
  let after (drop : Clause) := clauses.dropWhile (· = drop)
  let optionalElse (rest : List Clause) : Bool := rest = [] || rest = [.orElse]
  match kind with
  | .ifElse => optionalElse (after .elif)
  | .whileLoop | .forLoop | .asyncFor => optionalElse clauses
  | .tryExcept =>
    match clauses with
    | [.finally_] => true
    | .except :: _ => ends (after .except)
    | .exceptStar :: _ => ends (after .exceptStar)
    | _ => false
  | _ => clauses = []
where
  ends (rest : List Clause) : Bool :=
    rest = [] || rest = [.orElse] || rest = [.finally_] || rest = [.orElse, .finally_]

-- A `try` whose exceptions have an asterisk is a kind of its own.
def refineKind (kind : StatementKind) (clauses : List Clause) : StatementKind :=
  if kind = .tryExcept && clauses.contains .exceptStar then .tryStar else kind

namespace Block

def clause? (block : Block) : Option (Clause × List Token) := clauseOf? block.tokens

def isClause (block : Block) : Bool := block.clause?.isSome

mutual

-- The number of blocks in a tree.
def size : Block → Nat
  | mk _ body => sizes body + 1

def sizes : List Block → Nat
  | [] => 0
  | block :: rest => size block + sizes rest

end

end Block

section

variable (expression primary : Parser Expr)

-- What follows the header of a clause.
def clauseHeader (clause : Clause) (ts : List Token) : Option (List Token) :=
  match clause with
  | .elif => condition expression ts
  | .except | .exceptStar => exceptHeader expression ts
  | .orElse | .finally_ => take? .colon ts

def isDecorator (block : Block) : Bool := startsWith .at block.tokens

-- A decorator is a line of its own.
def decorator (block : Block) : Bool :=
  match block.tokens with
  | _ :: ts =>
    match named expression ts with
    | some (_, []) => block.body.isEmpty
    | _ => false
  | [] => false

variable (statements : List Block → Option (List StatementKind))

-- What a colon introduces: the rest of the line, or the lines below.
def suite (rest : List Token) (body : List Block) : Bool :=
  if rest.isEmpty then !body.isEmpty && (statements body).isSome
  else body.isEmpty && (simpleLine expression primary rest).isSome

def clauseBlock (block : Block) : Bool :=
  match block.clause? with
  | none => false
  | some (clause, ts) =>
    match clauseHeader expression clause ts with
    | none => false
    | some rest => suite expression primary statements rest block.body

def caseBlock (block : Block) : Bool :=
  match block.tokens with
  | .name text :: ts =>
    text = "case".toList &&
      match caseHeader expression primary ts with
      | none => false
      | some rest => suite expression primary statements rest block.body
  | _ => false

-- A match is a line with its subject, and cases below. Any other line that starts with the word
-- is a simple statement.
def isMatch (block : Block) : Bool :=
  match block.tokens with
  | .name text :: ts =>
    text = "match".toList && matchHeader expression primary ts = some [] &&
      !block.body.isEmpty && block.body.all (caseBlock expression primary statements)
  | _ => false

-- The kinds of the statements on a line without further clauses.
def lineStatements (block : Block) : Option (List StatementKind) :=
  if isMatch expression primary statements block then some [.matchCases]
  else if block.body.isEmpty then simpleLine expression primary block.tokens
  else none

-- A compound statement: its line with what is below it, and its further clauses.
def compound (kind : StatementKind) (rest : List Token) (block : Block) (clauses : List Block) :
    Option StatementKind :=
  let found := (clauses.filterMap Block.clause?).map Prod.fst
  if suite expression primary statements rest block.body &&
      clauses.all (clauseBlock expression primary statements) && areClauses kind found then
    some (refineKind kind found)
  else none

-- The kinds of the first statements of a list of blocks, those of one line at least, and the blocks
-- behind them.
def firstStatements (blocks : List Block) : Option (List StatementKind × List Block) :=
  let decorators := blocks.takeWhile isDecorator
  match blocks.dropWhile isDecorator with
  | [] => none
  | block :: rest =>
    match compoundHeader expression primary block.tokens with
    | none =>
      if decorators.isEmpty then
        (lineStatements expression primary statements block).map (·, rest)
      else none
    | some (_, none) => none
    | some (kind, some ts) => do
      let kind ←
        compound expression primary statements kind ts block (rest.takeWhile Block.isClause)
      if decorators.all (decorator expression) && (decorators.isEmpty || isDecorated kind) then
        some ([kind], rest.dropWhile Block.isClause)
      else none

end

-- The kinds of the statements of a list of blocks. The third argument bounds the number of blocks.
def statementsUpTo (expression primary : Parser Expr) :
    Nat → List Block → Option (List StatementKind)
  | _, [] => some []
  | 0, _ => none
  | fuel + 1, blocks => do
    let (first, rest) ←
      firstStatements expression primary (statementsUpTo expression primary fuel) blocks
    let others ← statementsUpTo expression primary fuel rest
    some (first ++ others)

-- The kinds of the statements of a list of blocks, if it is a list of statements.
def kinds? (blocks : List Block) : Option (List StatementKind) :=
  statementsUpTo anyExpression anyPrimary (Block.sizes blocks) blocks

-- The kinds of the statements of a module, if it is one.
def statements? (t : Text) : Option (List StatementKind) := (Block.ofText? t).bind kinds?

end Ghostwriter.Grammar

import Ghostwriter.Directive.EntryPoint
import Ghostwriter.Directive.Site
import Ghostwriter.Failure.Basic

/-!
Where the directives of a text are. A directive is a statement of its own: at the start of a line
the name of an entry point, then an opening parenthesis, and behind the matching closing one nothing
but a comment. A name that the text itself binds is an ordinary name.
-/

namespace Ghostwriter.Directive

open Ghostwriter.Lexeme Ghostwriter.Text

-- Whether a lexeme of this kind can stand before the first one of a line.
def precedesLine : LexemeKind → Bool
  | .newline | .lineBreak | .indent | .dedent => true
  | _ => false

-- The first lexeme of a text is also the first of a line.
def startsLine (before : Option Lexeme) : Bool :=
  match before with
  | none => true
  | some l => precedesLine l.kind

def isWord (words : List String) (l : Lexeme) : Bool := words.any (·.toList = l.text)

-- Whether a name between these two lexemes is bound there.
def binds (inImport : Bool) (before after : Option Lexeme) : Bool :=
  inImport || before.any (isWord ["def", "class"]) ||
    (startsLine before && after.any (·.isOperator ['=']))

-- The entry points that the lexemes define, import or assign.
def boundNamesFrom (inImport : Bool) (before : Option Lexeme) : List Lexeme → List Text
  | [] => []
  | l :: rest =>
    match l.kind with
    | .newline => boundNamesFrom false (some l) rest
    | .name =>
      if startsLine before && isWord ["import", "from"] l then boundNamesFrom true (some l) rest
      else if EntryPoint.isName l.text && binds inImport before rest.head? then
        l.text :: boundNamesFrom inImport (some l) rest
      else boundNamesFrom inImport (some l) rest
    | _ => boundNamesFrom inImport (some l) rest

def boundNames (lexemes : List Lexeme) : List Text := boundNamesFrom false none lexemes

-- Whether a directive begins at `l`, if `after` follows it.
def begins (bound : List Text) (before : Option Lexeme) (l : Lexeme) (after : Option Lexeme) :
    Bool :=
  l.kind = .name && EntryPoint.isName l.text && !bound.contains l.text && startsLine before &&
    after.any (·.isOperator ['('])

-- The bracket that closes what is open at `depth`, and the lexemes behind it.
def closing? (depth : Int) : List Lexeme → Option (Lexeme × List Lexeme)
  | [] => none
  | l :: rest =>
    if l.closes && depth + l.depthChange = 0 then some (l, rest)
    else closing? (depth + l.depthChange) rest

def isTrivia (l : Lexeme) : Bool := l.kind = .comment || l.kind = .lineBreak

-- Whether a statement ends before these lexemes.
def endsStatement (rest : List Lexeme) : Bool :=
  match rest.dropWhile isTrivia with
  | [] => true
  | l :: _ => l.kind = .newline || l.kind = .endMarker

-- The text from one position to another.
def slice (rows : List Text) (start stop : Position) : Text :=
  let row (n : Nat) : Text := rows.getD (n - 1) []
  if start.line = stop.line then ((row start.line).take stop.column).drop start.column
  else
    (row start.line).drop start.column ++
      ((rows.take (stop.line - 1)).drop start.line).flatten ++ (row stop.line).take stop.column

def siteOf (path : Path) (rows : List Text) (name opener closer : Lexeme) : Site where
  path := path
  entryPoint := name.text
  payload := slice rows opener.stop closer.start
  start := name.start
  stop := closer.stop
  indent := (rows.getD (name.start.line - 1) []).take name.start.column

def unclosed (path : Path) (name : Lexeme) : Failure :=
  let place := decimal name.start.line ++ ':' :: decimal (name.start.column + 1)
  .fault ⟨.directive (.unclosed name.text), some (path.toText ++ ':' :: place)⟩

-- The directives among the lexemes behind `before`. The first argument bounds their number.
def sitesUpTo (path : Path) (rows : List Text) (bound : List Text) :
    Nat → Option Lexeme → List Lexeme → Result (List Site)
  | 0, _, _ => .ok []
  | _, _, [] => .ok []
  | fuel + 1, before, l :: rest =>
    match rest with
    | opener :: body =>
      if begins bound before l (some opener) then
        match closing? 1 body with
        | none => .error (unclosed path l)
        | some (closer, behind) => do
          let others ← sitesUpTo path rows bound fuel (some closer) behind
          if endsStatement behind then .ok (siteOf path rows l opener closer :: others)
          else .ok others
      else sitesUpTo path rows bound fuel (some l) rest
    | [] => .ok []

-- All directives of a text, in their order.
def find (path : Path) (t : Text) : Result (List Site) :=
  match scan t with
  | .error cause =>
    .error (.fault ⟨.directive (.unreadableText cause), some path.toText⟩)
  | .ok lexemes =>
    sitesUpTo path (lines t) (boundNames lexemes) lexemes.length none lexemes

end Ghostwriter.Directive

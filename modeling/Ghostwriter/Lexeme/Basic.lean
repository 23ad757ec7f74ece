import Ghostwriter.Text.Basic

/-!
Lexemes: the pieces of a text that the tolerant scanner tells apart, with their places.
-/

namespace Ghostwriter

-- Lines are counted from 1, columns from 0, in characters.
structure Position where
  line : Nat
  column : Nat
  deriving DecidableEq, Repr, Inhabited

namespace Position

def before (p q : Position) : Bool :=
  p.line < q.line || (p.line == q.line && p.column < q.column)

end Position

inductive LexemeKind where
  | name
  | number
  | string
  | operator
  | comment
  -- the end of a logical line
  | newline
  -- the end of a line that ends no logical line
  | lineBreak
  | indent
  | dedent
  -- a character, or a broken string, that belongs to no other kind
  | stray
  | endMarker
  deriving DecidableEq, Repr, Inhabited

structure Lexeme where
  kind : LexemeKind
  text : Text
  start : Position
  stop : Position
  deriving DecidableEq, Repr, Inhabited

namespace Lexeme

def isOperator (l : Lexeme) (text : Text) : Bool :=
  l.kind == .operator && l.text == text

def opens (l : Lexeme) : Bool :=
  l.isOperator ['('] || l.isOperator ['['] || l.isOperator ['{']

def closes (l : Lexeme) : Bool :=
  l.isOperator [')'] || l.isOperator [']'] || l.isOperator ['}']

-- The change of the bracket depth. The three kinds of bracket are not told apart.
def depthChange (l : Lexeme) : Int :=
  if l.opens then 1 else if l.closes then -1 else 0

-- Lexemes of layout, which say where lines and blocks begin and end.
def isLayout (l : Lexeme) : Bool :=
  match l.kind with
  | .newline | .lineBreak | .comment | .indent | .dedent | .endMarker => true
  | _ => false

end Lexeme

end Ghostwriter

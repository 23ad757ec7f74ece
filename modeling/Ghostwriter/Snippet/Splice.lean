import Ghostwriter.Directive.Site
import Ghostwriter.Snippet.Basic

/-!
Splicing: a snippet takes the place of a directive. Its lines are indented like the directive,
except for those that go on inside a string, whose text would change.
-/

namespace Ghostwriter.Splice

open Ghostwriter.Lexeme Ghostwriter.Text

-- Whether a row lies inside a string that starts in a row before it.
def isProtected (lexemes : List Lexeme) (row : Nat) : Bool :=
  lexemes.any fun l => l.kind = .string && l.start.line < row && row ≤ l.stop.line

-- Indents the rows from number `row` on.
def indentRows (lexemes : List Lexeme) (indent : Text) (row : Nat) : List Text → List Text
  | [] => []
  | line :: rest =>
    (if isProtected lexemes row || isBlankLine line then line else indent ++ line) ::
      indentRows lexemes indent (row + 1) rest

-- Indents every line but the first. Blank lines stay as they are.
def reindent (code indent : Text) : Result Text :=
  if indent.isEmpty then .ok code
  else
    match scan code with
    | .error cause => .error (.crash (.scan cause))
    | .ok lexemes =>
      match pieces code with
      | [] => .ok []
      | first :: rest => .ok (joinWith ['\n'] (first :: indentRows lexemes indent 2 rest))

-- The number of characters before a position. Line zero stands for the last line.
def offset (rows : List Text) (p : Position) : Nat :=
  let before := if p.line = 0 then rows.dropLast else rows.take (p.line - 1)
  before.flatten.length + p.column

-- What takes the place of a directive. In a block, a snippet without statements becomes a `pass`.
def body (site : Site) (snippet : Snippet) : Result Text := do
  let body ← reindent (trimRight snippet.text) site.indent
  if snippet.items.isEmpty && !site.indent.isEmpty then
    .ok (if body.isEmpty then "pass".toList else body ++ '\n' :: site.indent ++ "pass".toList)
  else .ok body

def substitute (source : Text) (site : Site) (snippet : Snippet) : Result Text := do
  let rows := lines source
  let body ← body site snippet
  .ok (source.take (offset rows site.start) ++ body ++ source.drop (offset rows site.stop))

def startsLater (a b : Site × Snippet) : Bool := !(a.1.start.before b.1.start)

-- Replaces several directives, the last one first, so that no position moves.
def substituteAll (source : Text) (replacements : List (Site × Snippet)) : Result Text :=
  (replacements.mergeSort startsLater).foldlM (fun text r => substitute text r.1 r.2) source

end Ghostwriter.Splice

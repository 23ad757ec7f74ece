import Ghostwriter.Text.Basic

/-!
Rows. Before any token is read, a text is cut where its rows end: outside strings and comments, and
outside brackets only where no backslash stands before the end. Only strings, comments, brackets and
backslashes matter for that. A string that is not closed, a bracket that closes nothing and a
backslash within a row are errors.
-/

namespace Ghostwriter.Grammar

open Ghostwriter.Text

-- What the reader of a text is in.
inductive Mode where
  | code
  -- behind a backslash outside strings and comments
  | backslash
  -- at the start of a row that a backslash joins to the row before
  | joined
  | comment
  -- behind the first quote of a string
  | opened (quote : Char)
  -- behind two quotes, which are an empty string unless they are the first two of three
  | emptied (quote : Char)
  -- within a string, behind that many quotes in a row
  | string (quote : Char) (tripled : Bool) (quotes : Nat)
  -- behind a backslash in a string
  | escape (quote : Char) (tripled : Bool)
  deriving DecidableEq, Repr

-- The mode, and the number of open brackets.
structure RowState where
  mode : Mode
  depth : Nat
  deriving DecidableEq, Repr

-- What a text consists of once the comments and the backslashes between rows are gone.
inductive Mark where
  | keep (c : Char)
  -- the end of a row that goes on in the next one
  | cut
  -- the end of a row that ends a logical line
  | ended
  deriving DecidableEq, Repr

namespace RowState

def start : RowState := ⟨.code, 0⟩

def endRow (s : RowState) : Option Mark × RowState :=
  (if s.depth = 0 then some .ended else some .cut, ⟨.code, s.depth⟩)

-- A character outside strings and comments.
def codeStep? (s : RowState) (c : Char) : Option (Option Mark × RowState) :=
  if c = '\'' || c = '"' then some (some (.keep c), ⟨.opened c, s.depth⟩)
  else if c = '#' then some (none, ⟨.comment, s.depth⟩)
  else if c = '\\' then some (none, ⟨.backslash, s.depth⟩)
  else if c = '\n' then some s.endRow
  else if c = '(' || c = '[' || c = '\x7b' then some (some (.keep c), ⟨.code, s.depth + 1⟩)
  else if c = ')' || c = ']' || c = '\x7d' then
    if s.depth = 0 then none else some (some (.keep c), ⟨.code, s.depth - 1⟩)
  else some (some (.keep c), ⟨.code, s.depth⟩)

-- The mode behind a character of a string.
def stringMode? (quote : Char) (tripled : Bool) (quotes : Nat) (c : Char) : Option Mode :=
  if c = '\\' then some (.escape quote tripled)
  else if c = quote then
    if !tripled || quotes = 2 then some .code else some (.string quote tripled (quotes + 1))
  else if c = '\n' && !tripled then none
  else some (.string quote tripled 0)

-- What one character leaves behind, and the state after it.
def step? (s : RowState) (c : Char) : Option (Option Mark × RowState) :=
  let within (mode : Mode) : Option Mark × RowState := (some (.keep c), ⟨mode, s.depth⟩)
  match s.mode with
  | .code | .joined => codeStep? s c
  | .backslash => if c = '\n' then some (some .cut, ⟨.joined, s.depth⟩) else none
  | .comment => if c = '\n' then some s.endRow else some (none, s)
  | .opened quote =>
    if c = quote then some (within (.emptied quote))
    else (stringMode? quote false 0 c).map within
  | .emptied quote => if c = quote then some (within (.string quote true 0)) else codeStep? s c
  | .string quote tripled quotes => (stringMode? quote tripled quotes c).map within
  | .escape quote tripled => some (within (.string quote tripled 0))

-- Reads a text from a state on.
def run? (s : RowState) : Text → Option (List Mark × RowState)
  | [] => some ([], s)
  | c :: rest => do
    let (mark, next) ← s.step? c
    let (marks, last) ← run? next rest
    some (mark.toList ++ marks, last)

-- Whether a text may end here. A backslash needs a further row.
def isSettled (s : RowState) : Bool :=
  s.depth = 0 &&
    match s.mode with
    | .code | .comment | .emptied _ => true
    | _ => false

-- What a text comes to that is read to its end. A comment ends there.
def marks? (s : RowState) (t : Text) : Option (List Mark) :=
  match s.run? t with
  | none => none
  | some (marks, last) =>
    if last.isSettled then some (if last.mode = .comment then marks ++ [.ended] else marks)
    else none

end RowState

namespace Mark

def kept? : Mark → Option Char
  | .keep c => some c
  | _ => none

-- The rows of each logical line.
def rows (marks : List Mark) : List (List Text) :=
  (splitWhere (· = .ended) marks).map fun line =>
    (splitWhere (· = .cut) line).map (List.filterMap kept?)

end Mark

-- The rows of the logical lines of a text. What follows the last line end counts as a line.
def rows? (t : Text) : Option (List (List Text)) := (RowState.start.marks? t).map Mark.rows

end Ghostwriter.Grammar

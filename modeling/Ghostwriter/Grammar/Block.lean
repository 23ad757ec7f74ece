import Ghostwriter.Grammar.Line

/-!
Blocks: the lines that are indented under a line belong to it.
-/

namespace Ghostwriter.Grammar

open Ghostwriter.Text

-- A logical line with the lines that are indented under it.
inductive Block where
  | mk (tokens : List Token) (body : List Block)

namespace Block

def tokens : Block → List Token
  | mk tokens _ => tokens

def body : Block → List Block
  | mk _ body => body

-- The blocks that may be open at a time, the module itself included.
def maxMargins : Nat := 100

-- The margins of the blocks that are open at a line, the innermost first. A line is in the
-- innermost block, opens a new one, or goes back to one that is still open.
def openAt? (margins : List Margin) (m : Margin) : Option (List Margin) :=
  match margins with
  | [] => none
  | inner :: _ =>
    if m.column = inner.column then if m.narrow = inner.narrow then some margins else none
    else if inner.column < m.column then
      if maxMargins ≤ margins.length || m.narrow ≤ inner.narrow then none
      else some (m :: margins)
    else
      let outer := margins.dropWhile (m.column < ·.column)
      if outer.head? = some m then some outer else none

-- The lines with the number of blocks around each.
def depths? : List Margin → List Line → Option (List (Nat × List Token))
  | _, [] => some []
  | margins, line :: rest => do
    let margins ← openAt? margins line.margin
    let others ← depths? margins rest
    some ((margins.length - 1, line.tokens) :: others)

-- Puts a line before a forest. The deeper trees at its head become the body of the line.
def addLine (line : Nat × List Token) (forest : List (Nat × Block)) : List (Nat × Block) :=
  let isDeeper (tree : Nat × Block) : Bool := line.1 < tree.1
  (line.1, mk line.2 ((forest.takeWhile isDeeper).map Prod.snd)) :: forest.dropWhile isDeeper

def ofDepths (lines : List (Nat × List Token)) : List (Nat × Block) := lines.foldr addLine []

-- The blocks of the lines of a module. The first line is not indented.
def ofLines? (lines : List Line) : Option (List Block) := do
  let deep ← depths? [⟨0, 0⟩] lines
  let forest := ofDepths deep
  if forest.all (·.1 = 0) then some (forest.map Prod.snd) else none

def ofText? (t : Text) : Option (List Block) := (moduleLines? t).bind ofLines?

end Block

end Ghostwriter.Grammar

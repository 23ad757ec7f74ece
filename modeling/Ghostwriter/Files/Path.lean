import Ghostwriter.Text.Basic

/-!
File names. Reading one drops empty and `.` components; `..` is kept, because what it leads to
depends on the files.
-/

namespace Ghostwriter

open Ghostwriter.Text

-- The slashes that an absolute name starts with: exactly two mean something else than one, and
-- more than two mean one.
inductive PathRoot where
  | relative
  | slash
  | twoSlashes
  deriving DecidableEq, Repr

structure Path where
  root : PathRoot
  parts : List Text
  deriving DecidableEq, Repr

namespace Path

def rootOf (t : Text) : PathRoot :=
  match (t.takeWhile (· = '/')).length with
  | 0 => .relative
  | 2 => .twoSlashes
  | _ => .slash

def ofText (t : Text) : Path :=
  ⟨rootOf t, (splitWhere (· = '/') t).filter fun part => part ≠ [] && part ≠ ['.']⟩

def rootText : PathRoot → Text
  | .relative => []
  | .slash => ['/']
  | .twoSlashes => ['/', '/']

def toText (p : Path) : Text :=
  match p.root, p.parts with
  | .relative, [] => ['.']
  | root, parts => rootText root ++ joinWith ['/'] parts

def child (p : Path) (name : Text) : Path := { p with parts := p.parts ++ [name] }

-- The topmost names are their own parents.
def parent (p : Path) : Path := { p with parts := p.parts.dropLast }

end Path

end Ghostwriter

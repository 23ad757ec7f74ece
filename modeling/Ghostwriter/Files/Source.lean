import Ghostwriter.Failure.Basic

/-!
Sources: files with directives, as they are on the disk.
-/

namespace Ghostwriter

open Ghostwriter.Text

structure Source where
  path : Path
  content : Bytes
  deriving DecidableEq, Repr

namespace Source

def unavailable (p : Path) (reason : String) : Failure :=
  .ofCause (.sourceUnavailable p.toText reason.toList)

-- Reads a file under its absolute name.
def collect (disk : Disk) (p : Path) : Result Source :=
  match disk.resolve p with
  | .error e => .error (unavailable p e.problem.message)
  | .ok absolute =>
    match disk.isFile absolute with
    | .ok true =>
      match disk.contents absolute with
      | .ok content => .ok ⟨absolute, content⟩
      | .error e => .error (unavailable p e.problem.message)
    | .ok false => .error (unavailable p "not a regular file")
    | .error e => .error (unavailable p e.problem.message)

-- The text of a source, which has to be UTF-8.
def text (source : Source) : Result Text :=
  match decode source.content with
  | .ok t => .ok t
  | .error e => .error (unavailable source.path ("not valid UTF-8 (" ++ e.message ++ ")"))

end Source

end Ghostwriter

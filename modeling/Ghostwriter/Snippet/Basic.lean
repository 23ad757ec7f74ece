import Ghostwriter.Failure.Basic
import Ghostwriter.Grammar.Statement
import Ghostwriter.Snippet.Fence

/-!
Snippets: generated code that is a module, with the kinds of its statements.
-/

namespace Ghostwriter

open Ghostwriter.Grammar Ghostwriter.Text

structure Snippet where
  text : Text
  items : List StatementKind
  deriving DecidableEq, Repr

namespace Snippet

-- What is wrong with code in which every line ends in a line feed, or its statements.
def check (code : Text) : Except CodeProblem (List StatementKind) :=
  if code.contains '\x00' then .error .nullCharacter
  else
    match statements? code with
    | some items => .ok items
    | none => .error .grammar

-- The code of a response. A fault carries the response as it came.
def ofResponse (unwraps : Bool) (response : Text) : Result Snippet :=
  let code := unifyBreaks (if unwraps then Fence.unwrap response else response)
  match check code with
  | .ok items => .ok ⟨code, items⟩
  | .error problem => .error (.ofCause (.badCode response problem))

end Snippet

end Ghostwriter

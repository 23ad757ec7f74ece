import Ghostwriter.Files.Path
import Ghostwriter.Lexeme.Basic

/-!
Sites: the places of directives in a text.
-/

namespace Ghostwriter

open Ghostwriter.Text

structure Site where
  path : Path
  -- the name that was used, as written
  entryPoint : Text
  -- what stands between the parentheses, as written
  payload : Text
  -- where the name begins
  start : Position
  -- just behind the closing parenthesis
  stop : Position
  -- what stands before the name on its line
  indent : Text
  deriving DecidableEq, Repr

-- Columns are counted from 1 here.
def Site.location (site : Site) : Text :=
  site.path.toText ++ ':' :: decimal site.start.line ++ ':' :: decimal (site.start.column + 1)

end Ghostwriter

import Ghostwriter.Text.Basic
import Ghostwriter.Text.Printable

/-!
Texts and bytes in quotes. What is written between the quotes is a literal for the same value: the
quote and the backslash are escaped, and so is everything that does not print.
-/

namespace Ghostwriter.Text

-- The last `width` hexadecimal digits of `n`, in lower case.
def hexDigits (width n : Nat) : Text :=
  match width with
  | 0 => []
  | width + 1 => hexDigits width (n / 16) ++ [Nat.digitChar (n % 16)]

-- Single quotes, unless the content has a single quote and no double quote.
def quoteFor (hasSingle hasDouble : Bool) : Char :=
  if hasSingle && !hasDouble then '"' else '\''

def escapeChar (quote c : Char) : Text :=
  if c = quote || c = '\\' then ['\\', c]
  else if c = '\n' then ['\\', 'n']
  else if c = '\r' then ['\\', 'r']
  else if c = '\t' then ['\\', 't']
  else if isPrintable c then [c]
  else if c.toNat < 0x100 then '\\' :: 'x' :: hexDigits 2 c.toNat
  else if c.toNat < 0x10000 then '\\' :: 'u' :: hexDigits 4 c.toNat
  else '\\' :: 'U' :: hexDigits 8 c.toNat

def quoted (t : Text) : Text :=
  let quote := quoteFor (t.contains '\'') (t.contains '"')
  quote :: t.flatMap (escapeChar quote) ++ [quote]

def escapeByte (quote : Char) (b : UInt8) : Text :=
  let c := Char.ofNat b.toNat
  if c = quote || c = '\\' then ['\\', c]
  else if c = '\n' then ['\\', 'n']
  else if c = '\r' then ['\\', 'r']
  else if c = '\t' then ['\\', 't']
  else if 32 ≤ b.toNat && b.toNat < 127 then [c]
  else '\\' :: 'x' :: hexDigits 2 b.toNat

def quotedBytes (bytes : List UInt8) : Text :=
  let quote := quoteFor (bytes.contains 39) (bytes.contains 34)
  'b' :: quote :: bytes.flatMap (escapeByte quote) ++ [quote]

end Ghostwriter.Text

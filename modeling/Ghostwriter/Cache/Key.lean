import Ghostwriter.Directive.Options
import Ghostwriter.Hash.Sha256
import Ghostwriter.Text.Digit

/-!
Keys. The digest of a directive covers the whole file around it, its name and its payload; the key
of a record covers the digest and the model. Without a seed of its own a directive takes one from
its digest.
-/

namespace Ghostwriter.Key

open Ghostwriter.Hash Ghostwriter.Text

-- The bytes that the digest of a directive covers.
def digestInput (source : Bytes) (entryPoint payload : Text) : Bytes :=
  source ++ 0 :: encode entryPoint ++ 0 :: encode payload

def digest (source : Bytes) (entryPoint payload : Text) : Text :=
  sha256 (digestInput source entryPoint payload)

-- The bytes that a key covers.
def keyInput (digest model : Text) : Bytes := encode digest ++ 0 :: encode model

def ofDigest (digest model : Text) : Text := sha256 (keyInput digest model)

-- The digits of a digest that make up the seed.
def seedDigits : Nat := 16

-- Blanks around a number.
def isNumberBlank (c : Char) : Bool :=
  if c.toNat < 127 then c = ' ' || (9 ≤ c.toNat && c.toNat ≤ 13) else isBlank c

-- The value of a hexadecimal digit. The decimal digits of all scripts count.
def hexValue? (c : Char) : Option Nat :=
  if 'a' ≤ c && c ≤ 'f' then some (c.toNat - 87)
  else if 'A' ≤ c && c ≤ 'F' then some (c.toNat - 55)
  else digitValue? c

-- Digits, where a single underscore may stand before each but the first.
def hexNumber? (value : Nat) : Text → Option Nat
  | [] => none
  | [c] => (hexValue? c).map (value * 16 + ·)
  | c :: d :: rest =>
    match hexValue? c with
    | none => none
    | some digit =>
      if d = '_' then hexNumber? (value * 16 + digit) rest
      else hexNumber? (value * 16 + digit) (d :: rest)

-- The digits may follow `0x`, with an underscore between.
def unprefixed (t : Text) : Text :=
  match t with
  | z :: x :: rest =>
    if digitValue? z = some 0 && (x = 'x' || x = 'X') then
      if rest.head? = some '_' then rest.tail else rest
    else t
  | _ => t

-- A hexadecimal integer with a sign or not, and blanks around it.
def hexInteger? (t : Text) : Option Int :=
  let bare := dropRightWhile isNumberBlank (t.dropWhile isNumberBlank)
  match bare with
  | '-' :: rest => (hexNumber? 0 (unprefixed rest)).map fun n => -(n : Int)
  | '+' :: rest => (hexNumber? 0 (unprefixed rest)).map Int.ofNat
  | _ => (hexNumber? 0 (unprefixed bare)).map Int.ofNat

-- The first digits of a digest as a number, without what a seed has no room for.
def defaultSeed (digest : Text) : Result Nat :=
  let head := digest.take seedDigits
  match hexInteger? head with
  | some i => .ok (i % (Options.maxSeed + 1)).toNat
  | none => .error (.crash (.malformedDigest head))

end Ghostwriter.Key

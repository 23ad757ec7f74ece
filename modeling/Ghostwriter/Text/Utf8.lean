import Ghostwriter.Text.Basic

/-!
UTF-8. Decoding names the first bytes that are no character: the longest part of a sequence that
could still have become one, or a single byte that starts none.
-/

namespace Ghostwriter.Text

abbrev Bytes := List UInt8

def encodeChar (c : Char) : Bytes :=
  let n := c.toNat
  if n < 0x80 then [UInt8.ofNat n]
  else if n < 0x800 then [UInt8.ofNat (0xC0 + n / 0x40), UInt8.ofNat (0x80 + n % 0x40)]
  else if n < 0x10000 then
    [UInt8.ofNat (0xE0 + n / 0x1000), UInt8.ofNat (0x80 + n / 0x40 % 0x40),
      UInt8.ofNat (0x80 + n % 0x40)]
  else
    [UInt8.ofNat (0xF0 + n / 0x40000), UInt8.ofNat (0x80 + n / 0x1000 % 0x40),
      UInt8.ofNat (0x80 + n / 0x40 % 0x40), UInt8.ofNat (0x80 + n % 0x40)]

def encode (t : Text) : Bytes := t.flatMap encodeChar

inductive Utf8Problem where
  | startByte
  | continuationByte
  | endOfData
  deriving DecidableEq, Repr

-- A run of bytes that is no character: where it starts, its bytes, and what is wrong.
structure Utf8Error where
  position : Nat
  run : Bytes
  problem : Utf8Problem
  deriving DecidableEq, Repr

-- How many bytes follow a first byte, and the range of the second byte.
def follow? (b : UInt8) : Option (Nat × UInt8 × UInt8) :=
  if 0xC2 ≤ b && b ≤ 0xDF then some (1, 0x80, 0xBF)
  else if b == 0xE0 then some (2, 0xA0, 0xBF)
  else if b == 0xED then some (2, 0x80, 0x9F)
  else if 0xE1 ≤ b && b ≤ 0xEF then some (2, 0x80, 0xBF)
  else if b == 0xF0 then some (3, 0x90, 0xBF)
  else if b == 0xF4 then some (3, 0x80, 0x8F)
  else if 0xF1 ≤ b && b ≤ 0xF3 then some (3, 0x80, 0xBF)
  else none

inductive FirstChar where
  -- a character, the number of its bytes, and what follows it
  | char (c : Char) (rest : Bytes)
  -- a run that is no character, and what follows it
  | broken (run : Bytes) (problem : Utf8Problem) (rest : Bytes)

-- Reads the `count` bytes that are left of a sequence. `value` is what the bytes so far stand for,
-- and `read` are those bytes, the last one first.
def continueChar (value : Nat) (read : Bytes) (low high : UInt8) : Nat → Bytes → FirstChar
  | 0, rest => .char (Char.ofNat value) rest
  | _ + 1, [] => .broken read.reverse .endOfData []
  | count + 1, b :: rest =>
    if low ≤ b && b ≤ high then
      continueChar (value * 0x40 + b.toNat % 0x40) (b :: read) 0x80 0xBF count rest
    else .broken read.reverse .continuationByte (b :: rest)

def leadValue (count : Nat) (b : UInt8) : Nat :=
  match count with
  | 1 => b.toNat % 0x20
  | 2 => b.toNat % 0x10
  | _ => b.toNat % 0x08

def firstChar (b : UInt8) (rest : Bytes) : FirstChar :=
  if b < 0x80 then .char (Char.ofNat b.toNat) rest
  else
    match follow? b with
    | none => .broken [b] .startByte rest
    | some (count, low, high) => continueChar (leadValue count b) [b] low high count rest

-- Decodes from byte number `position` on. The first argument bounds the number of characters.
def decodeFrom : Nat → Nat → Bytes → Except Utf8Error Text
  | _, _, [] => .ok []
  | 0, _, _ => .ok []
  | fuel + 1, position, b :: rest =>
    match firstChar b rest with
    | .char c left =>
      (decodeFrom fuel (position + (encodeChar c).length) left).map (c :: ·)
    | .broken run problem _ => .error ⟨position, run, problem⟩

def decode (bytes : Bytes) : Except Utf8Error Text := decodeFrom bytes.length 0 bytes

def decodeLossyFrom : Nat → Bytes → Text
  | _, [] => []
  | 0, _ => []
  | fuel + 1, b :: rest =>
    match firstChar b rest with
    | .char c left => c :: decodeLossyFrom fuel left
    | .broken _ _ left => '\uFFFD' :: decodeLossyFrom fuel left

-- Every run of bytes that is no character becomes one replacement character.
def decodeLossy (bytes : Bytes) : Text := decodeLossyFrom bytes.length bytes

def Utf8Problem.message : Utf8Problem → String
  | .startByte => "invalid start byte"
  | .continuationByte => "invalid continuation byte"
  | .endOfData => "unexpected end of data"

def hexByte (b : UInt8) : String :=
  String.ofList [Nat.digitChar (b.toNat / 16), Nat.digitChar (b.toNat % 16)]

def Utf8Error.message (e : Utf8Error) : String :=
  let place :=
    match e.run with
    | [b] => "byte 0x" ++ hexByte b ++ " in position " ++ toString e.position
    | run =>
      "bytes in position " ++ toString e.position ++ "-" ++ toString (e.position + run.length - 1)
  "'utf-8' codec can't decode " ++ place ++ ": " ++ e.problem.message

end Ghostwriter.Text

import Ghostwriter.Text.Utf8

/-!
SHA-256 of a list of bytes. The message is padded to whole blocks of 64 bytes, and each block is
mixed into eight words of 32 bits.
-/

namespace Ghostwriter.Hash

open Ghostwriter.Text

-- The first 32 bits of the fractional parts of the cube roots of the first 64 primes.
def roundConstants : List UInt32 := [
  0x428a2f98, 0x71374491, 0xb5c0fbcf, 0xe9b5dba5, 0x3956c25b, 0x59f111f1,
  0x923f82a4, 0xab1c5ed5, 0xd807aa98, 0x12835b01, 0x243185be, 0x550c7dc3,
  0x72be5d74, 0x80deb1fe, 0x9bdc06a7, 0xc19bf174, 0xe49b69c1, 0xefbe4786,
  0x0fc19dc6, 0x240ca1cc, 0x2de92c6f, 0x4a7484aa, 0x5cb0a9dc, 0x76f988da,
  0x983e5152, 0xa831c66d, 0xb00327c8, 0xbf597fc7, 0xc6e00bf3, 0xd5a79147,
  0x06ca6351, 0x14292967, 0x27b70a85, 0x2e1b2138, 0x4d2c6dfc, 0x53380d13,
  0x650a7354, 0x766a0abb, 0x81c2c92e, 0x92722c85, 0xa2bfe8a1, 0xa81a664b,
  0xc24b8b70, 0xc76c51a3, 0xd192e819, 0xd6990624, 0xf40e3585, 0x106aa070,
  0x19a4c116, 0x1e376c08, 0x2748774c, 0x34b0bcb5, 0x391c0cb3, 0x4ed8aa4a,
  0x5b9cca4f, 0x682e6ff3, 0x748f82ee, 0x78a5636f, 0x84c87814, 0x8cc70208,
  0x90befffa, 0xa4506ceb, 0xbef9a3f7, 0xc67178f2]

structure Chaining where
  a : UInt32
  b : UInt32
  c : UInt32
  d : UInt32
  e : UInt32
  f : UInt32
  g : UInt32
  h : UInt32

-- The first 32 bits of the fractional parts of the square roots of the first eight primes.
def startingChaining : Chaining :=
  ⟨0x6a09e667, 0xbb67ae85, 0x3c6ef372, 0xa54ff53a,
    0x510e527f, 0x9b05688c, 0x1f83d9ab, 0x5be0cd19⟩

def rotateRight (x n : UInt32) : UInt32 := (x >>> n) ||| (x <<< (32 - n))

-- The `count` low bytes of `n`, the highest first.
def bigEndian : Nat → Nat → Bytes
  | 0, _ => []
  | count + 1, n => bigEndian count (n / 256) ++ [UInt8.ofNat n]

-- A one bit, zeros up to eight bytes before the end of a block, and the length in bits.
def padding (length : Nat) : Bytes :=
  0x80 :: List.replicate ((119 - length % 64) % 64) 0 ++ bigEndian 8 (8 * length)

def words : Bytes → List UInt32
  | a :: b :: c :: d :: rest =>
    ((a.toUInt32 <<< 24) ||| (b.toUInt32 <<< 16) ||| (c.toUInt32 <<< 8) ||| d.toUInt32) ::
      words rest
  | _ => []

-- Extends the sixteen words of a block to the sixty-four of its rounds, the newest word first.
def extendSchedule : Nat → List UInt32 → List UInt32
  | 0, w => w
  | count + 1, w =>
    let word (back : Nat) := w.getD (back - 1) 0
    let x := word 15
    let y := word 2
    let small0 := rotateRight x 7 ^^^ rotateRight x 18 ^^^ (x >>> 3)
    let small1 := rotateRight y 17 ^^^ rotateRight y 19 ^^^ (y >>> 10)
    extendSchedule count ((word 16 + small0 + word 7 + small1) :: w)

def mixRound (s : Chaining) (k w : UInt32) : Chaining :=
  let big1 := rotateRight s.e 6 ^^^ rotateRight s.e 11 ^^^ rotateRight s.e 25
  let choice := (s.e &&& s.f) ^^^ ((~~~ s.e) &&& s.g)
  let t1 := s.h + big1 + choice + k + w
  let big0 := rotateRight s.a 2 ^^^ rotateRight s.a 13 ^^^ rotateRight s.a 22
  let majority := (s.a &&& s.b) ^^^ (s.a &&& s.c) ^^^ (s.b &&& s.c)
  ⟨t1 + (big0 + majority), s.a, s.b, s.c, s.d + t1, s.e, s.f, s.g⟩

def mixBlock (s : Chaining) (block : List UInt32) : Chaining :=
  let schedule := (extendSchedule 48 block.reverse).reverse
  let t := ((roundConstants.zip schedule).foldl (fun s (k, w) => mixRound s k w) s)
  ⟨s.a + t.a, s.b + t.b, s.c + t.c, s.d + t.d, s.e + t.e, s.f + t.f, s.g + t.g, s.h + t.h⟩

-- Mixes in `count` blocks of sixteen words.
def mixBlocks : Nat → Chaining → List UInt32 → Chaining
  | 0, s, _ => s
  | count + 1, s, rest => mixBlocks count (mixBlock s (rest.take 16)) (rest.drop 16)

def hexWord (w : UInt32) : Text :=
  (bigEndian 4 w.toNat).flatMap fun b =>
    [Nat.digitChar (b.toNat / 16), Nat.digitChar (b.toNat % 16)]

-- The digest as 64 hexadecimal digits in lower case.
def sha256 (message : Bytes) : Text :=
  let padded := words (message ++ padding message.length)
  let s := mixBlocks (padded.length / 16) startingChaining padded
  [s.a, s.b, s.c, s.d, s.e, s.f, s.g, s.h].flatMap hexWord

end Ghostwriter.Hash

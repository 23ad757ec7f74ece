import Ghostwriter.Text.CharName.Aliases
import Ghostwriter.Text.CharName.Alphabets
import Ghostwriter.Text.CharName.Ancient
import Ghostwriter.Text.CharName.Asian
import Ghostwriter.Text.CharName.Pictures
import Ghostwriter.Text.CharName.Symbols
import Ghostwriter.Text.Digit
import Ghostwriter.Text.Identifier

/-!
Characters by name (Unicode version 14). Most names are in tables. A table is a text of entries with
semicolons or line ends between them. The entry `=2022` says that the next name belongs to U+2022.
Every other entry is a name, and the name behind it belongs to the next character. A name that
begins with a digit shares that many words with the name before it.
-/

namespace Ghostwriter.Text

namespace CharName

def wordsOf (name : Text) : List Text := splitWhere (· = ' ') name

-- A search in a table: the character that the next name belongs to, the words of the last name,
-- the entry so far, read backwards, and the character that was looked for.
structure Search where
  next : Nat
  last : List Text
  entry : Text
  found : Option Char

namespace Search

def start : Search := ⟨0, [], [], none⟩

-- The words of the name that an entry stands for.
def expand (last : List Text) (entry : Text) : List Text :=
  match entry with
  | c :: rest => if isDigit c then last.take (digitOf c) ++ wordsOf rest else wordsOf entry
  | [] => []

def endEntry (target : List Text) (s : Search) : Search :=
  match s.entry.reverse with
  | [] => s
  | '=' :: digits => { s with next := valueOf 16 digits, entry := [] }
  | entry =>
    let name := expand s.last entry
    ⟨s.next + 1, name, [], if name = target then some (Char.ofNat s.next) else s.found⟩

def step (target : List Text) (s : Search) (c : Char) : Search :=
  if c = ';' || c = '\n' then s.endEntry target else { s with entry := c :: s.entry }

end Search

def tables : List String := [alphabets, symbols, asian, ancient, pictures, aliases]

def inTable? (name : Text) (table : String) : Option Char :=
  let target := wordsOf name
  ((table.toList.foldl (Search.step target) Search.start).endEntry target).found

-- What follows the text `stem` at the head of a name.
def afterStem? (stem : String) (name : Text) : Option Text :=
  if stem.toList.isPrefixOf name then some (name.drop stem.length) else none

-- A code point in four or five hexadecimal digits.
def codePoint? (t : Text) : Option Nat :=
  let isCodeDigit (c : Char) : Bool := isDigit c || ('A' ≤ c && c ≤ 'F')
  if (t.length = 4 || t.length = 5) && t.all isCodeDigit then some (valueOf 16 t) else none

def charIn? (ranges : List (Nat × Nat)) (code : Nat) : Option Char :=
  if ranges.any fun (first, last) => first ≤ code && code ≤ last then some (Char.ofNat code)
  else none

-- The characters whose names end in their own code points.
def numbered : List (String × List (Nat × Nat)) := [
  ("CJK COMPATIBILITY IDEOGRAPH-", [(0xF900, 0xFA6D), (0xFA70, 0xFAD9), (0x2F800, 0x2FA1D)]),
  ("KHITAN SMALL SCRIPT CHARACTER-", [(0x18B00, 0x18CD5)]),
  ("NUSHU CHARACTER-", [(0x1B170, 0x1B2FB)])]

def numbered? (name : Text) (stem : String) (ranges : List (Nat × Nat)) : Option Char := do
  let digits ← afterStem? stem name
  if digits.head? = some '0' then none
  let code ← codePoint? digits
  charIn? ranges code

def ideographs : List (Nat × Nat) := [
  (0x3400, 0x4DBF), (0x4E00, 0x9FFF), (0x20000, 0x2A6DF), (0x2A700, 0x2B738), (0x2B740, 0x2B81D),
  (0x2B820, 0x2CEA1), (0x2CEB0, 0x2EBE0), (0x30000, 0x3134A)]

-- The digits of an ideograph may begin with a zero.
def ideograph? (name : Text) : Option Char := do
  let digits ← afterStem? "CJK UNIFIED IDEOGRAPH-" name
  let code ← codePoint? digits
  charIn? ideographs code

-- The parts of a Hangul syllable: the consonants before the vowel, vowels, and the consonants
-- behind the vowel.
def leading : List Text :=
  ["G", "GG", "N", "D", "DD", "R", "M", "B", "BB", "S", "SS", "", "J", "JJ", "C", "K", "T", "P",
    "H"].map String.toList

def vowels : List Text :=
  ["A", "AE", "YA", "YAE", "EO", "E", "YEO", "YE", "O", "WA", "WAE", "OE", "YO", "U", "WEO", "WE",
    "WI", "YU", "EU", "YI", "I"].map String.toList

def trailing : List Text :=
  ["", "G", "GG", "GS", "N", "NJ", "NH", "D", "L", "LG", "LM", "LB", "LS", "LT", "LP", "LH", "M",
    "B", "BS", "S", "SS", "NG", "J", "C", "K", "T", "P", "H"].map String.toList

-- The longest of the parts at the head of a text: its number, and what follows it.
def longestPart? (parts : List Text) (t : Text) : Option (Nat × Text) :=
  let better (best : Option (Nat × Nat)) (part : Nat × Text) : Option (Nat × Nat) :=
    let (number, text) := part
    if !text.isPrefixOf t then best
    else
      match best with
      | some (_, length) => if length < text.length then some (number, text.length) else best
      | none => some (number, text.length)
  ((parts.zipIdx.map fun (text, number) => (number, text)).foldl better none).map
    fun (number, length) => (number, t.drop length)

def syllable? (name : Text) : Option Char := do
  let rest ← afterStem? "HANGUL SYLLABLE " name
  let (l, rest) ← longestPart? leading rest
  let (v, rest) ← longestPart? vowels rest
  let (t, rest) ← longestPart? trailing rest
  if rest.isEmpty then
    some (Char.ofNat (0xAC00 + (l * vowels.length + v) * trailing.length + t))
  else none

end CharName

open CharName

-- The character of that name. Only syllables and ideographs have to be written in capitals.
def charNamed? (name : Text) : Option Char :=
  let upper := name.map upperAscii
  (((syllable? name).or (ideograph? name)).or
    (numbered.findSome? fun (stem, ranges) => numbered? upper stem ranges)).or
    (tables.findSome? (inTable? upper))

end Ghostwriter.Text

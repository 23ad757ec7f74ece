import Ghostwriter.Grammar.Numeral
import Ghostwriter.Number.Shortest
import Ghostwriter.Text.Quoted
import Ghostwriter.Text.Utf8

/-!
The values of literals: when two of them are the same key, and how they are written.
-/

namespace Ghostwriter

open Ghostwriter.Number Ghostwriter.Text

inductive Value where
  | none
  | ellipsis
  | bool (value : Bool)
  | int (value : Int)
  | real (value : Binary64)
  | complex (re im : Binary64)
  | text (value : Text)
  | bytes (value : Bytes)
  | tuple (items : List Value)
  | list (items : List Value)
  | set (items : List Value)
  | dict (entries : List (Value × Value))
  deriving Repr, Inhabited

namespace Value

-- Numbers in their widest form: a whole number, or a real and an imaginary part.
inductive Quantity where
  | whole (value : Int)
  | parts (re im : Binary64)

def quantity? : Value → Option Quantity
  | bool b => some (.whole (if b then 1 else 0))
  | int i => some (.whole i)
  | real x => some (.parts x Binary64.zero)
  | complex re im => some (.parts re im)
  | _ => Option.none

def Quantity.same : Quantity → Quantity → Bool
  | .whole i, .whole j => i == j
  | .whole i, .parts re im => im.isZero && re.equalsInt i
  | .parts re im, .whole i => im.isZero && re.equalsInt i
  | .parts a b, .parts c d => a.sameValue c && b.sameValue d

mutual

-- Whether two values are the same key. Numbers are compared by value, whatever their kind.
def sameKey : Value → Value → Bool
  | none, none => true
  | ellipsis, ellipsis => true
  | text a, text b => a == b
  | bytes a, bytes b => a == b
  | tuple a, tuple b => sameKeys a b
  | a, b =>
    match a.quantity?, b.quantity? with
    | some p, some q => p.same q
    | _, _ => false

def sameKeys : List Value → List Value → Bool
  | [], [] => true
  | a :: as, b :: bs => sameKey a b && sameKeys as bs
  | _, _ => false

end

mutual

-- What keeps a value from being a key: the kind of the first part that can change.
def changeable? : Value → Option String
  | list _ => some "list"
  | set _ => some "set"
  | dict _ => some "dict"
  | tuple items => firstChangeable? items
  | _ => Option.none

def firstChangeable? : List Value → Option String
  | [] => Option.none
  | item :: rest => (changeable? item).or (firstChangeable? rest)

end

-- Adds a value to a set, which holds no key twice.
def addTo (items : List Value) (v : Value) : List Value :=
  if items.any (sameKey v) then items else items ++ [v]

-- Adds an entry to a dictionary. A key that is there already keeps its place and takes the value.
def putEntry (key value : Value) : List (Value × Value) → List (Value × Value)
  | [] => [(key, value)]
  | (other, old) :: rest =>
    if sameKey key other then (other, value) :: rest else (other, old) :: putEntry key value rest

-- The room of a set with that many items, which grows when three fifths are taken.
def roomFor (count : Nat) : Nat :=
  if count < 5 then 8 else if count < 19 then 32 else if count < 77 then 128 else 512

-- Where a whole number stands among the items of a set. Numbers beyond 61 bits are reduced, and
-- minus one shares the place of minus two.
def place? (room : Nat) : Value → Option Nat
  | bool b => some (if b then 1 else 0)
  | int i =>
    let reduced := i.tmod (Nat.pow 2 61 - 1)
    some (((if reduced = -1 then -2 else reduced) % room).toNat)
  | _ => Option.none

-- The texts of the items of a set in the order in which they are written. Whole numbers go by their
-- places as long as no two share one; anything else stays in the order of insertion.
def setOrder (items : List (Value × Text)) : List Text :=
  let places := items.map fun item => place? (roomFor items.length) item.1
  if places.all Option.isSome && places.eraseDups.length = items.length then
    ((places.zip items).mergeSort fun a b => a.1.getD 0 ≤ b.1.getD 0).map (·.2.2)
  else items.map Prod.snd

-- A whole number in decimal, unless it has too many digits.
def writeInt? (i : Int) : Option Text :=
  let digits := decimal i.natAbs
  if Grammar.maxDecimalDigits < digits.length then Option.none
  else some (if i < 0 then '-' :: digits else digits)

def writeReal (x : Binary64) : Text := x.write aloneLayout

-- A part of a complex number with its sign.
def writeSigned (x : Binary64) : Text :=
  let t := x.write partLayout
  if t.head? = some '-' then t else '+' :: t

def writeComplex (re im : Binary64) : Text :=
  if re.isZero && !re.isNegative then im.write partLayout ++ ['j']
  else '(' :: re.write partLayout ++ writeSigned im ++ ['j', ')']

def commas (parts : List Text) : Text := joinWith [',', ' '] parts

def enclose (opener closer : Char) (parts : List Text) : Text :=
  opener :: commas parts ++ [closer]

def writeSet (items : List Value) (texts : List Text) : Text :=
  if items.isEmpty then "set()".toList else enclose '\x7b' '\x7d' (setOrder (items.zip texts))

mutual

-- The literal for a value. There is none for a whole number with too many digits.
def write? : Value → Option Text
  | none => some "None".toList
  | ellipsis => some "Ellipsis".toList
  | bool b => some (if b then "True" else "False").toList
  | int i => writeInt? i
  | real x => some (writeReal x)
  | complex re im => some (writeComplex re im)
  | text t => some (quoted t)
  | bytes b => some (quotedBytes b)
  | tuple items => (writeAll? items).map fun
    | [only] => '(' :: only ++ [',', ')']
    | parts => enclose '(' ')' parts
  | list items => (writeAll? items).map (enclose '[' ']')
  | set items => (writeAll? items).map (writeSet items)
  | dict entries => (writeEntries? entries).map (enclose '\x7b' '\x7d')

def writeAll? : List Value → Option (List Text)
  | [] => some []
  | v :: rest =>
    match write? v, writeAll? rest with
    | some t, some others => some (t :: others)
    | _, _ => Option.none

def writeEntries? : List (Value × Value) → Option (List Text)
  | [] => some []
  | (key, value) :: rest =>
    match write? key, write? value, writeEntries? rest with
    | some k, some v, some others => some ((k ++ [':', ' '] ++ v) :: others)
    | _, _, _ => Option.none

end

-- How a value reads inside a message: a text stands for itself.
def show? : Value → Option Text
  | text t => some t
  | v => write? v

end Value

end Ghostwriter

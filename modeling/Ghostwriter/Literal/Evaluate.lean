import Ghostwriter.Grammar.Expression
import Ghostwriter.Literal.Value

/-!
The value of a literal: constants, signs in front of numbers, a real and an imaginary number added
up, and lists, tuples, sets and dictionaries of literals.
-/

namespace Ghostwriter

open Ghostwriter.Grammar Ghostwriter.Number Ghostwriter.Text

inductive LiteralError where
  -- the text is no expression, or no literal
  | notLiteral
  -- a key, or an item of a set, that can change
  | unhashable (kind : String)
  -- a whole number beside an imaginary one that is beyond all floating-point values
  | tooLarge
  deriving DecidableEq, Repr

namespace Value

def ofNumeral : Numeral → Value
  | .int n => int n
  | .real x => real x
  | .imaginary x => complex Binary64.zero x

def ofSingleton : Singleton → Value
  | .none => none
  | .true => bool true
  | .false => bool false
  | .ellipsis => ellipsis

def negate : Value → Value
  | int i => int (-i)
  | real x => real x.negate
  | complex re im => complex re.negate im.negate
  | v => v

-- A number with at most one sign.
def signedNumber? : Expr → Option Value
  | .number n => some (ofNumeral n)
  | .signed negative (.number n) =>
    some (if negative then negate (ofNumeral n) else ofNumeral n)
  | _ => Option.none

-- The real part of a sum, if its left side is a real number.
def realPart? : Value → Option (Option Binary64)
  | int i => some (Binary64.ofInt? i)
  | real x => some (some x)
  | _ => Option.none

-- A real number with a sign or not, and an imaginary number added or taken away.
def complexSum (negative : Bool) (left right : Expr) : Except LiteralError Value :=
  match (signedNumber? left).bind realPart?, right with
  | some (some re), .number (.imaginary im) =>
    .ok <| if negative then complex re (if im.isZero then im else im.negate)
      else complex re.addZero im
  | some Option.none, .number (.imaginary _) => .error .tooLarge
  | _, _ => .error .notLiteral

-- Adds the items of a set in turn.
def collectSet (items : List Value) (v : Value) : Except LiteralError (List Value) :=
  match changeable? v with
  | some kind => .error (.unhashable kind)
  | Option.none => .ok (addTo items v)

mutual

def ofExpr : Expr → Except LiteralError Value
  | .singleton s => .ok (ofSingleton s)
  | .text t => .ok (text t)
  | .bytes b => .ok (bytes b)
  | .tuple items => (ofExprs items).map tuple
  | .list items => (ofExprs items).map list
  | .set items => (ofSetItems items []).map set
  | .dict entries => (ofEntries entries []).map dict
  | .call (.name f) false => if f = "set".toList then .ok (set []) else .error .notLiteral
  | .sum negative left right => complexSum negative left right
  | e =>
    match signedNumber? e with
    | some v => .ok v
    | Option.none => .error .notLiteral

def ofExprs : List Expr → Except LiteralError (List Value)
  | [] => .ok []
  | e :: rest => do
    let v ← ofExpr e
    let others ← ofExprs rest
    .ok (v :: others)

def ofSetItems : List Expr → List Value → Except LiteralError (List Value)
  | [], items => .ok items
  | e :: rest, items => do
    let v ← ofExpr e
    let items ← collectSet items v
    ofSetItems rest items

def ofEntries : List (Expr × Expr) → List (Value × Value) →
    Except LiteralError (List (Value × Value))
  | [], entries => .ok entries
  | (k, e) :: rest, entries => do
    let key ← ofExpr k
    let value ← ofExpr e
    match changeable? key with
    | some kind => .error (.unhashable kind)
    | Option.none => ofEntries rest (putEntry key value entries)

end

-- The value of a text that is a literal.
def ofText (t : Text) : Except LiteralError Value :=
  match expressionAlone? t with
  | some e => ofExpr e
  | Option.none => .error .notLiteral

end Value

end Ghostwriter

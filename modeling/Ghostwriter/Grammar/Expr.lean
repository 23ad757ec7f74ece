import Ghostwriter.Grammar.Token

/-!
Expressions, as far as a reader of literals and of assignment targets needs them: these are kept in
full, of all others only the fact that they are expressions. Parentheses leave no trace.
-/

namespace Ghostwriter.Grammar

open Ghostwriter.Text

-- The names that stand for a value of their own.
inductive Singleton where
  | none
  | true
  | false
  | ellipsis
  deriving DecidableEq, Repr

inductive Expr where
  | name (text : Text)
  | singleton (value : Singleton)
  | number (value : Numeral)
  | text (value : Text)
  | bytes (value : Bytes)
  -- a string with expressions in braces
  | formatted
  | tuple (items : List Expr)
  | list (items : List Expr)
  | set (items : List Expr)
  -- the key of an entry that unpacks another dictionary is `other`
  | dict (entries : List (Expr × Expr))
  -- a plus or a minus sign in front of an operand
  | signed (negative : Bool) (operand : Expr)
  -- a sum, or a difference
  | sum (negative : Bool) (left right : Expr)
  | call (function : Expr) (hasArguments : Bool)
  | member
  | subscript
  -- an asterisk in front of an operand, which only stands among other items
  | starred (operand : Expr)
  | other
  deriving Repr, Inhabited

namespace Expr

def isStarred : Expr → Bool
  | starred _ => true
  | _ => false

-- What an annotation or an operator of assignment may be applied to.
def isSingleTarget : Expr → Bool
  | name _ | member | subscript => true
  | _ => false

mutual

-- What a value may be assigned to. An asterisk does not stand directly behind another one.
def isTarget : Expr → Bool
  | name _ | member | subscript => true
  | tuple items | list items => areTargets items
  | starred operand => !operand.isStarred && isTarget operand
  | _ => false

def areTargets : List Expr → Bool
  | [] => true
  | item :: rest => isTarget item && areTargets rest

end

mutual

-- What can be deleted.
def isDeletable : Expr → Bool
  | name _ | member | subscript => true
  | tuple items | list items => areDeletable items
  | _ => false

def areDeletable : List Expr → Bool
  | [] => true
  | item :: rest => isDeletable item && areDeletable rest

end

end Expr

end Ghostwriter.Grammar

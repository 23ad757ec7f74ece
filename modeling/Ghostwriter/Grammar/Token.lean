import Ghostwriter.Number.Binary64
import Ghostwriter.Text.Utf8

/-!
The tokens of the compiler's grammar. Unlike the tolerant lexemes they carry what they stand for:
numbers their value, strings their content.
-/

namespace Ghostwriter.Grammar

open Ghostwriter.Number Ghostwriter.Text

inductive Keyword where
  | false_ | none_ | true_ | and_ | as_ | assert_ | async_ | await_ | break_ | class_ | continue_
  | def_ | del_ | elif_ | else_ | except_ | finally_ | for_ | from_ | global_ | if_ | import_ | in_
  | is_ | lambda_ | nonlocal_ | not_ | or_ | pass_ | raise_ | return_ | try_ | while_ | with_
  | yield_
  deriving DecidableEq, Repr

def keywordTable : List (Text × Keyword) :=
  [("False", .false_), ("None", .none_), ("True", .true_), ("and", .and_), ("as", .as_),
    ("assert", .assert_), ("async", .async_), ("await", .await_), ("break", .break_),
    ("class", .class_), ("continue", .continue_), ("def", .def_), ("del", .del_),
    ("elif", .elif_), ("else", .else_), ("except", .except_), ("finally", .finally_),
    ("for", .for_), ("from", .from_), ("global", .global_), ("if", .if_), ("import", .import_),
    ("in", .in_), ("is", .is_), ("lambda", .lambda_), ("nonlocal", .nonlocal_), ("not", .not_),
    ("or", .or_), ("pass", .pass_), ("raise", .raise_), ("return", .return_), ("try", .try_),
    ("while", .while_), ("with", .with_), ("yield", .yield_)].map
    fun (text, keyword) => (text.toList, keyword)

def Keyword.ofText? (t : Text) : Option Keyword := keywordTable.lookup t

inductive Symbol where
  | openParen | closeParen | openBracket | closeBracket | openBrace | closeBrace
  | comma | colon | walrus | semicolon | dot | ellipsis | arrow | at | equal
  | star | doubleStar | plus | minus | slash | doubleSlash | percent
  | tilde | ampersand | bar | caret | shiftLeft | shiftRight
  | less | greater | lessEqual | greaterEqual | equalEqual | notEqual
  -- an operator joined with the equals sign of an assignment
  | augmented
  deriving DecidableEq, Repr

-- The symbols, the longer ones first.
def symbolTable : List (Text × Symbol) :=
  [("**=", .augmented), ("//=", .augmented), ("<<=", .augmented), (">>=", .augmented),
    ("...", .ellipsis),
    ("+=", .augmented), ("-=", .augmented), ("*=", .augmented), ("/=", .augmented),
    ("%=", .augmented), ("&=", .augmented), ("|=", .augmented), ("^=", .augmented),
    ("@=", .augmented), (":=", .walrus), ("->", .arrow), ("**", .doubleStar),
    ("//", .doubleSlash), ("<<", .shiftLeft), (">>", .shiftRight), ("<=", .lessEqual),
    (">=", .greaterEqual), ("==", .equalEqual), ("!=", .notEqual),
    ("(", .openParen), (")", .closeParen), ("[", .openBracket), ("]", .closeBracket),
    ("\x7b", .openBrace), ("\x7d", .closeBrace), (",", .comma), (":", .colon), (";", .semicolon),
    (".", .dot), ("@", .at), ("=", .equal), ("*", .star), ("+", .plus), ("-", .minus),
    ("/", .slash), ("%", .percent), ("~", .tilde), ("&", .ampersand), ("|", .bar), ("^", .caret),
    ("<", .less), (">", .greater)].map
    fun (text, symbol) => (text.toList, symbol)

-- The bracket that closes what a bracket opens.
def Symbol.closer? : Symbol → Option Symbol
  | .openParen => some .closeParen
  | .openBracket => some .closeBracket
  | .openBrace => some .closeBrace
  | _ => none

def Symbol.isCloser : Symbol → Bool
  | .closeParen | .closeBracket | .closeBrace => true
  | _ => false

inductive Numeral where
  | int (value : Nat)
  | real (value : Binary64)
  | imaginary (value : Binary64)
  deriving DecidableEq, Repr

-- The content of a string literal. A formatted one has the source texts of its expressions.
inductive StringContent where
  | text (value : Text)
  | bytes (value : Bytes)
  | formatted (fields : List Text)
  deriving DecidableEq, Repr

inductive Token where
  | name (text : Text)
  | keyword (keyword : Keyword)
  | number (value : Numeral)
  | string (content : StringContent)
  | symbol (symbol : Symbol)
  deriving DecidableEq, Repr

-- A bound on the number of tokens that a token stands for, those within formatted strings
-- included.
def Token.weight : Token → Nat
  | .string (.formatted fields) => fields.foldl (fun sum field => sum + field.length + 4) 1
  | _ => 1

end Ghostwriter.Grammar

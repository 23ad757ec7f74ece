import Ghostwriter.Text.Basic

/-!
Files of environment variables. Each statement is a name and a value, which may be quoted. A line
that is no statement is skipped with a warning.
-/

namespace Ghostwriter.EnvFile

open Ghostwriter.Text

-- Blanks within a line.
def isGap (c : Char) : Bool := isBlank c && c ≠ '\n' && c ≠ '\r'

def isBreak (c : Char) : Bool := c = '\n' || c = '\r'

def skipGap (t : Text) : Text := t.dropWhile isGap

def exportWord : Text := "export".toList

-- Skips the word `export` with blanks behind it.
def skipExport (t : Text) : Text :=
  if exportWord.isPrefixOf t then
    let rest := t.drop exportWord.length
    if rest.head?.any isGap then skipGap rest else t
  else t

-- The text up to the closing quote, and what follows it. A quote behind a backslash closes nothing,
-- unless no other one does: then the last of these is taken.
def quotedText? (quote : Char) (afterBackslash : Bool) : Text → Option (Text × Text)
  | [] => none
  | c :: rest =>
    let further := (quotedText? quote (c = '\\') rest).map fun (t, after) => (c :: t, after)
    if c = quote then
      if afterBackslash then further.or (some ([], rest)) else some ([], rest)
    else further

-- The text up to the next single quote, which is not empty.
def quotedName? (t : Text) : Option (Text × Text) :=
  let name := t.takeWhile (· ≠ '\'')
  match t.drop name.length with
  | _ :: rest => if name.isEmpty then none else some (name, rest)
  | [] => none

def isNamePart (c : Char) : Bool := c ≠ '=' && c ≠ '#' && !isBlank c

-- How far a statement could be read.
inductive Step (α : Type) where
  | done (value : α) (rest : Text)
  -- where reading failed
  | stuck (rest : Text)

-- The name of a statement. A comment has none.
def name (t : Text) : Step (Option Text) :=
  match t with
  | '#' :: _ => .done none t
  | '\'' :: rest =>
    match quotedName? rest with
    | some (name, rest) => .done (some name) rest
    | none => .stuck t
  | _ =>
    let name := t.takeWhile isNamePart
    if name.isEmpty then .stuck t else .done (some name) (t.drop name.length)

-- What a letter behind a backslash stands for, if it is one of these letters.
def escaped? (letters : List (Char × Char)) (c : Char) : Option Char := letters.lookup c

def singleEscapes : List (Char × Char) := [('\\', '\\'), ('\'', '\'')]

def doubleEscapes : List (Char × Char) :=
  [('\\', '\\'), ('\'', '\''), ('"', '"'), ('a', '\x07'), ('b', '\x08'), ('f', '\x0c'),
    ('n', '\n'), ('r', '\r'), ('t', '\t'), ('v', '\x0b')]

def unescape (letters : List (Char × Char)) : Text → Text
  | [] => []
  | [c] => [c]
  | c :: d :: rest =>
    if c = '\\' then
      match escaped? letters d with
      | some e => e :: unescape letters rest
      | none => c :: unescape letters (d :: rest)
    else c :: unescape letters (d :: rest)

-- Cuts a text at the first number sign with a blank before it, blanks included.
def cutComment : Text → Text
  | [] => []
  | c :: rest =>
    if isBlank c && ((c :: rest).dropWhile isBlank).head? = some '#' then []
    else c :: cutComment rest

def value (t : Text) : Step Text :=
  let inQuotes (quote : Char) (letters : List (Char × Char)) (rest : Text) : Step Text :=
    match quotedText? quote false rest with
    | some (value, rest) => .done (unescape letters value) rest
    | none => .stuck t
  match t with
  | '\'' :: rest => inQuotes '\'' singleEscapes rest
  | '"' :: rest => inQuotes '"' doubleEscapes rest
  | _ =>
    let part := t.takeWhile fun c => !isBreak c
    .done (trimRight (cutComment part)) (t.drop part.length)

-- Skips a comment and the end of a line.
def lineEnd (t : Text) : Option Text :=
  let rest := skipGap t
  let rest := if rest.head? = some '#' then rest.dropWhile (fun c => !isBreak c) else rest
  match rest with
  | [] => some []
  | '\r' :: '\n' :: rest => some rest
  | c :: rest => if isBreak c then some rest else none

-- A statement: its name, if it has one, and its value.
structure Binding where
  name : Option Text
  value : Option Text
  deriving DecidableEq, Repr

-- The statement at the head of a text without blanks before it.
def statement (t : Text) : Step Binding :=
  match name (skipExport t) with
  | .stuck rest => .stuck rest
  | .done name rest =>
    let rest := skipGap rest
    let finish (value : Option Text) (rest : Text) : Step Binding :=
      match lineEnd rest with
      | some rest => .done ⟨name, value⟩ rest
      | none => .stuck rest
    match rest with
    | '=' :: rest =>
      match value (skipGap rest) with
      | .done v rest => finish (some v) rest
      | .stuck rest => .stuck rest
    | _ => finish none rest

-- Skips the rest of a line.
def skipLine (t : Text) : Text :=
  match t.dropWhile (fun c => !isBreak c) with
  | '\r' :: '\n' :: rest => rest
  | _ :: rest => rest
  | [] => []

def countBreaks (t : Text) : Nat := t.countP (· = '\n')

-- What a file says, from top to bottom: a variable with its value, or the line of a statement that
-- could not be read.
inductive Entry where
  | defines (name : Text) (value : Option Text)
  | unreadable (line : Nat)
  deriving DecidableEq, Repr

-- Reads statements from line number `line` on. The first argument bounds the number of characters.
def entriesUpTo : Nat → Nat → Text → List Entry
  | 0, _, _ => []
  | _, _, [] => []
  | fuel + 1, line, t =>
    match t.dropWhile isBlank with
    | [] => []
    | body =>
      let after (rest : Text) : Nat := line + countBreaks (t.take (t.length - rest.length))
      match statement body with
      | .stuck rest =>
        let rest := skipLine rest
        .unreadable line :: entriesUpTo fuel (after rest) rest
      | .done ⟨some name, value⟩ rest =>
        .defines name value :: entriesUpTo fuel (after rest) rest
      | .done ⟨none, _⟩ rest => entriesUpTo fuel (after rest) rest

-- All line ends count as line feeds.
def entries (t : Text) : List Entry := entriesUpTo (t.length + 1) 1 (unifyBreaks t)

-- Variables with their values.
abbrev Variables := List (Text × Text)

-- The name, the value to take without it, and the rest, behind an opening brace.
def reference? (t : Text) : Option (Text × Text × Text) :=
  let name := t.takeWhile fun c => c ≠ '\x7d' && c ≠ ':'
  match t.drop name.length with
  | '\x7d' :: rest => some (name, [], rest)
  | ':' :: '-' :: rest =>
    let fallback := rest.takeWhile (· ≠ '\x7d')
    match rest.drop fallback.length with
    | _ :: rest => some (name, fallback, rest)
    | [] => none
  | _ => none

-- Replaces the references to variables in a value. The third argument bounds the number of
-- characters.
def expandUpTo (known : Text → Option Text) : Nat → Text → Text
  | 0, t => t
  | _, [] => []
  | fuel + 1, c :: rest =>
    let further := c :: expandUpTo known fuel rest
    if c = '$' then
      match rest with
      | '\x7b' :: body =>
        match reference? body with
        | some (name, fallback, after) =>
          (known name).getD fallback ++ expandUpTo known fuel after
        | none => further
      | _ => further
    else further

def expand (known : Text → Option Text) (t : Text) : Text := expandUpTo known t.length t

-- Gives a name its value. A name that is there already keeps its place.
def assign (name : Text) (value : Option Text) :
    List (Text × Option Text) → List (Text × Option Text)
  | [] => [(name, value)]
  | (other, old) :: rest =>
    if other = name then (name, value) :: rest else (other, old) :: assign name value rest

-- The names of a file with the last of their values. References see the environment first, then the
-- file so far; a name without a value counts as empty.
def resolve (environment : Variables) (defined : List (Text × Option Text)) :
    List Entry → List (Text × Option Text)
  | [] => defined
  | .unreadable _ :: rest => resolve environment defined rest
  | .defines name value :: rest =>
    let known (n : Text) : Option Text :=
      (environment.lookup n).or ((defined.lookup n).map (·.getD []))
    resolve environment (assign name (value.map (expand known)) defined) rest

-- What an environment cannot hold.
inductive Unfit where
  | nullCharacter
  | equalsSign
  deriving DecidableEq, Repr

def unfit? (name value : Text) : Option Unfit :=
  if name.contains '\x00' || value.contains '\x00' then some .nullCharacter
  else if name.contains '=' then some .equalsSign
  else none

-- Adds variables to an environment, up to the first that it cannot hold. What is there already
-- stays.
def addAll (environment : Variables) : Variables → Variables × Option Unfit
  | [] => (environment, none)
  | (name, value) :: rest =>
    if (environment.lookup name).isSome then addAll environment rest
    else
      match unfit? name value with
      | some problem => (environment, some problem)
      | none => addAll (environment ++ [(name, value)]) rest

-- What a file makes of an environment: what is wrong with one of its variables, and the lines that
-- are no statements.
structure Loaded where
  environment : Variables
  problem : Option Unfit
  unreadable : List Nat
  deriving DecidableEq, Repr

def Loaded.unchanged (environment : Variables) : Loaded := ⟨environment, none, []⟩

def load (environment : Variables) (t : Text) : Loaded :=
  let entries := entries t
  let found := (resolve environment [] entries).filterMap fun (name, value) => value.map (name, ·)
  let (environment, problem) := addAll environment found
  let lines := entries.filterMap fun
    | .unreadable line => some line
    | .defines _ _ => none
  ⟨environment, problem, lines⟩

-- The variable that keeps files from being read, and the values that do so, in any case.
def switch : Text := "PYTHON_DOTENV_DISABLED".toList

def switchValues : List Text := ["1", "true", "t", "yes", "y"].map String.toList

def isSwitchedOff (environment : Variables) : Bool :=
  match environment.lookup switch with
  | none => false
  | some value => switchValues.contains (value.map lowerAscii)

end Ghostwriter.EnvFile

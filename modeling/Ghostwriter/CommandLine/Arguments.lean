import Ghostwriter.CommandLine.Manual
import Ghostwriter.Text.Digit
import Ghostwriter.Text.Quoted

/-!
Reading the words of a command line. Flags and operands may stand in any order. Long names may be
cut short as long as only one fits, short flags may share a word, a value may follow an equals sign,
and behind two dashes nothing is a flag. What fits nowhere is left over.
-/

namespace Ghostwriter.CommandLine

open Ghostwriter.Text

-- What is wrong with a command line.
inductive Misuse where
  | ambiguous (word : Text) (matching : List Text)
  | valueMissing (label : Text)
  | valueIgnored (label value : Text)
  | operandMissing (name : Text)
  | noSuchCommand (name word : Text) (choices : List Text)
  | leftOver (words : List Text)
  deriving DecidableEq, Repr

namespace Misuse

def commas (parts : List Text) : Text := joinWith [',', ' '] parts

def aboutFlag (label : Text) : Text := "argument ".toList ++ label ++ [':', ' ']

def message : Misuse → Text
  | ambiguous word matching =>
    "ambiguous option: ".toList ++ word ++ " could match ".toList ++ commas matching
  | valueMissing label => aboutFlag label ++ "expected one argument".toList
  | valueIgnored label value =>
    aboutFlag label ++ "ignored explicit argument ".toList ++ quoted value
  | operandMissing name => "the following arguments are required: ".toList ++ name
  | noSuchCommand name word choices =>
    aboutFlag name ++ "invalid choice: ".toList ++ quoted word ++ " (choose from ".toList ++
      commas (choices.map quoted) ++ [')']
  | leftOver words => "unrecognized arguments: ".toList ++ joinWith [' '] words

end Misuse

-- Why reading stops before its end.
inductive Stop where
  | help
  | misuse (misuse : Misuse)
  deriving DecidableEq, Repr

-- What a word looks like.
inductive Shape where
  | operand
  -- two dashes, from where on all words are operands
  | dashes
  -- A flag with the name that was used, and a value in the same word. Without an entry it is a flag
  -- that the command does not have.
  | flag (entry : Option FlagEntry) (name : Text) (value : Option Text)
  deriving DecidableEq, Repr

def isFlag : Shape → Bool
  | .flag .. => true
  | _ => false

-- Splits a word at its first equals sign.
def splitEqual (word : Text) : Text × Option Text :=
  let name := word.takeWhile (· ≠ '=')
  match word.drop name.length with
  | _ :: value => (name, some value)
  | [] => (name, none)

-- The flags that a word with two dashes may mean: the names that it begins, up to an equals sign.
def longMatches (m : Manual) (word : Text) : List (Text × FlagEntry × Option Text) :=
  let (start, value) := splitEqual word
  (m.names.filter fun entry => start.isPrefixOf entry.1).map fun (name, entry) =>
    (name, entry, value)

-- The flags that a word with one dash may mean: a short one with its value behind it, or a name
-- that the word begins.
def shortMatches (m : Manual) (word : Text) : List (Text × FlagEntry × Option Text) :=
  m.names.filterMap fun (name, entry) =>
    if name = word.take 2 then some (name, entry, some (word.drop 2))
    else if word.isPrefixOf name then some (name, entry, none)
    else none

def isDecimalDigit (c : Char) : Bool := (digitValue? c).isSome

-- Whether what follows a dash is a number.
def isNumber (t : Text) : Bool :=
  let t := if t.getLast? = some '\n' then t.dropLast else t
  let rest := t.dropWhile isDecimalDigit
  match rest with
  | [] => !t.isEmpty
  | '.' :: fraction => !fraction.isEmpty && fraction.all isDecimalDigit
  | _ => false

-- The shape of a word that begins with a dash and is longer.
def dashedShape (m : Manual) (word : Text) : Except Misuse Shape :=
  match m.names.lookup word with
  | some entry => .ok (.flag (some entry) word none)
  | none =>
    let (name, value) := splitEqual word
    match value.bind fun v => (m.names.lookup name).map (·, v) with
    | some (entry, value) => .ok (.flag (some entry) name (some value))
    | none =>
      let found :=
        if ['-', '-'].isPrefixOf word then longMatches m word else shortMatches m word
      match found with
      | [(name, entry, value)] => .ok (.flag (some entry) name value)
      | [] =>
        if isNumber word.tail || word.contains ' ' then .ok .operand
        else .ok (.flag none word none)
      | several => .error (.ambiguous word (several.map Prod.fst))

def shapeOf (m : Manual) (word : Text) : Except Misuse Shape :=
  match word with
  | '-' :: _ :: _ => dashedShape m word
  | _ => .ok .operand

-- The words with their shapes.
def shapes (m : Manual) : List Text → Except Misuse (List (Text × Shape))
  | [] => .ok []
  | word :: rest =>
    if word = ['-', '-'] then .ok ((word, .dashes) :: rest.map fun w => (w, .operand))
    else do
      let shape ← shapeOf m word
      let others ← shapes m rest
      .ok ((word, shape) :: others)

-- What has been read of a command line.
structure Reading where
  flags : List (Flag × Text)
  operands : Option (List Text)
  leftOver : List Text
  deriving DecidableEq, Repr

def Reading.start : Reading := ⟨[], none, []⟩

-- How many words the operand of a command takes here, none if it does not fit.
def operandLength (operand : Operand) (words : List (Text × Shape)) : Nat :=
  let dashes := (words.takeWhile (·.2 = .dashes)).length
  match (words.drop dashes) with
  | (_, .operand) :: rest =>
    match operand with
    | .absent => 0
    | .one _ => dashes + 1 + (rest.takeWhile (·.2 = .dashes)).length
    | .many _ => dashes + 1 + (rest.takeWhile fun w => !isFlag w.2).length
    | .command _ _ => dashes + 1 + rest.length
  | _ => 0

-- Takes the operand, if it is still missing and fits.
def takeOperand (m : Manual) (reading : Reading) (words : List (Text × Shape)) :
    Reading × List (Text × Shape) :=
  let n := if reading.operands.isSome then 0 else operandLength m.operand words
  if n = 0 then (reading, words)
  else
    let taken := (words.take n).map Prod.fst
    let taken :=
      match m.operand with
      | .command _ _ => taken
      | _ => taken.erase ['-', '-']
    ({ reading with operands := some taken }, words.drop n)

-- The flags in one word, with the value of the last one if it is in the word too. The last
-- component says whether that flag waits for the next word. The first argument bounds the number
-- of flags.
def flagsInWord (m : Manual) :
    Nat → FlagEntry → Text → Option Text → Except Misuse (List FlagEntry × Option Text × Bool)
  | _, entry, _, none => .ok ([entry], none, entry.takesValue)
  | 0, entry, _, some value => .error (.valueIgnored entry.label value)
  | fuel + 1, entry, name, some value =>
    if entry.takesValue then .ok ([entry], some value, false)
    else
      match value with
      | [] => .error (.valueIgnored entry.label value)
      | c :: rest =>
        if ['-', '-'].isPrefixOf name then .error (.valueIgnored entry.label value)
        else
          match m.names.lookup ['-', c] with
          | none => .error (.valueIgnored entry.label value)
          | some next => do
            let (others, last, waits) ←
              flagsInWord m fuel next ['-', c] (if rest.isEmpty then none else some rest)
            .ok (entry :: others, last, waits)

-- Enters flags that stand in one word. Asking for help stops everything.
def enterFlags (reading : Reading) (value : Text) : List FlagEntry → Except Stop Reading
  | [] => .ok reading
  | entry :: rest =>
    if entry.flag = .help then .error .help
    else
      let given := if entry.takesValue then value else []
      enterFlags { reading with flags := reading.flags ++ [(entry.flag, given)] } value rest

-- Reads a word with a flag, and the value behind it.
def takeFlag (m : Manual) (reading : Reading) (word : Text) (entry : Option FlagEntry) (name : Text)
    (value : Option Text) (rest : List (Text × Shape)) :
    Except Stop (Reading × List (Text × Shape)) :=
  match entry with
  | none => .ok ({ reading with leftOver := reading.leftOver ++ [word] }, rest)
  | some entry =>
    match flagsInWord m word.length entry name value with
    | .error misuse => .error (.misuse misuse)
    | .ok (entries, last, false) => do
      let reading ← enterFlags reading (last.getD []) entries
      .ok (reading, rest)
    | .ok (entries, _, true) =>
      match rest with
      | (value, .operand) :: rest => do
        let reading ← enterFlags reading value entries
        .ok (reading, rest)
      | _ => .error (.misuse (.valueMissing ((entries.getLast?.map (·.label)).getD [])))

-- Reads words until none is left. The second argument bounds their number.
def readWords (m : Manual) : Nat → Reading → List (Text × Shape) → Except Stop Reading
  | 0, reading, _ => .ok reading
  | fuel + 1, reading, words =>
    if words.any (isFlag ·.2) then
      match words with
      | (word, .flag entry name value) :: rest => do
        let (reading, rest) ← takeFlag m reading word entry name value rest
        readWords m fuel reading rest
      | _ =>
        let (reading, rest) := takeOperand m reading words
        if rest.length < words.length then readWords m fuel reading rest
        else
          let skipped := (words.takeWhile (!isFlag ·.2)).map Prod.fst
          readWords m fuel { reading with leftOver := reading.leftOver ++ skipped }
            (words.dropWhile (!isFlag ·.2))
    else
      let (reading, rest) := takeOperand m reading words
      .ok { reading with leftOver := reading.leftOver ++ rest.map Prod.fst }

def operandName? : Operand → Option Text
  | .absent => none
  | .one name | .many name | .command name _ => some name

-- Reads a command line. An operand that a command takes must be there.
def read (m : Manual) (words : List Text) : Except Stop Reading := do
  let words ← (shapes m words).mapError Stop.misuse
  let reading ← readWords m (words.length + 1) Reading.start words
  match operandName? m.operand with
  | some name =>
    if reading.operands.isNone then .error (.misuse (.operandMissing name)) else .ok reading
  | none => .ok reading

end Ghostwriter.CommandLine

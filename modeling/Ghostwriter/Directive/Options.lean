import Ghostwriter.Failure.Basic
import Ghostwriter.Literal.Evaluate

/-!
The payload of a directive: options and a prompt, with semicolons between them. An option is a name,
an equals sign and a literal; the prompt is a string literal and comes last.
-/

namespace Ghostwriter

open Ghostwriter.Lexeme Ghostwriter.Text

-- The options that a directive sets.
structure Options where
  model : Option Text
  seed : Option Nat
  maxCompletionTokens : Option Nat
  deriving DecidableEq, Repr

namespace Options

def empty : Options := ⟨none, none, none⟩

def maxSeed : Nat := 9223372036854775807

inductive Key where
  | model
  | seed
  | maxCompletionTokens
  deriving DecidableEq, Repr

namespace Key

def text : Key → Text
  | model => "model".toList
  | seed => "seed".toList
  | maxCompletionTokens => "max_completion_tokens".toList

def all : List Key := [model, seed, maxCompletionTokens]

def ofText? (t : Text) : Option Key := all.find? fun key => key.text = t

end Key

def isSet (options : Options) : Key → Bool
  | .model => options.model.isSome
  | .seed => options.seed.isSome
  | .maxCompletionTokens => options.maxCompletionTokens.isSome

-- A value of the wrong kind, or out of range. The message needs the value in writing.
def invalid {α : Type} (key : Key) (expected : String) (v : Value) : Result α :=
  match v.write? with
  | some shown => .error (.ofCause (.invalidOption key.text expected.toList shown))
  | none => .error (.crash .digitLimit)

def set (options : Options) (key : Key) (v : Value) : Result Options :=
  match key with
  | .model =>
    match v with
    | .text (c :: rest) => .ok { options with model := some (c :: rest) }
    | _ => invalid key "a non-empty string" v
  | .seed =>
    match v with
    | .int i =>
      if 0 ≤ i && i ≤ maxSeed then .ok { options with seed := some i.toNat }
      else invalid key ("an integer between 0 and " ++ toString maxSeed) v
    | _ => invalid key "an integer" v
  | .maxCompletionTokens =>
    match v with
    | .int i =>
      if i < 1 then invalid key "a positive integer" v
      else .ok { options with maxCompletionTokens := some i.toNat }
    | _ => invalid key "a positive integer" v

end Options

namespace Directive

-- Splits lexemes at the semicolons outside of all brackets.
def splitItems (depth : Int) : List Lexeme → List (List Lexeme)
  | [] => [[]]
  | l :: rest =>
    let depth := depth + l.depthChange
    match splitItems depth rest with
    | [] => [[l]]
    | first :: others =>
      if depth = 0 && l.isOperator [';'] then [] :: first :: others else (l :: first) :: others

-- The items of a payload. Within parentheses its line ends mean nothing. A semicolon at the end
-- leaves no empty item behind.
def items (payload : Text) : Result (List (List Lexeme)) :=
  match scan ('(' :: payload ++ [')']) with
  | .error cause => .error (.ofCause (.directive (.unreadablePayload cause)))
  | .ok lexemes =>
    let inner := ((lexemes.filter fun l => !l.isLayout).drop 1).dropLast
    let items := splitItems 0 inner
    .ok (if 1 < items.length && items.getLast? = some [] then items.dropLast else items)

-- The source of a literal: its lexemes with a blank between neighbours.
def literalSource (lexemes : List Lexeme) : Text := joinWith [' '] (lexemes.map (·.text))

def literal (lexemes : List Lexeme) (what : Text) : Result Value :=
  let source := literalSource lexemes
  match Value.ofText source with
  | .ok v => .ok v
  | .error .notLiteral => .error (.ofCause (.directive (.literalExpected what source)))
  | .error (.unhashable kind) => .error (.crash (.unhashable kind))
  | .error .tooLarge => .error (.crash .tooLarge)

-- What a payload says: its options, and its prompt if there is one.
structure Payload where
  options : Options
  prompt : Option Text
  deriving DecidableEq, Repr

namespace Payload

def empty : Payload := ⟨Options.empty, none⟩

def addOption (payload : Payload) (name : Text) (value : List Lexeme) : Result Payload :=
  match Options.Key.ofText? name with
  | none => .error (.ofCause (.unknownOption name (Options.Key.all.map Options.Key.text)))
  | some key => do
    if payload.options.isSet key then throw (.ofCause (.duplicateOption name))
    if value.isEmpty then throw (.ofCause (.directive (.missingValue name)))
    let v ← literal value ("option ".toList ++ quoted name)
    let options ← payload.options.set key v
    .ok { payload with options := options }

def addPrompt (payload : Payload) (item : List Lexeme) : Result Payload := do
  let v ← literal item "the prompt".toList
  match v with
  | .text t => .ok { payload with prompt := some t }
  | _ => .error (.ofCause (.directive .promptOfBytes))

-- Adds item number `number`, which is not empty.
def addItem (payload : Payload) (number : Nat) (first : Lexeme) (rest : List Lexeme) :
    Result Payload :=
  match rest with
  | second :: value =>
    if first.kind = .name && second.isOperator ['='] then payload.addOption first.text value
    else other
  | [] => other
where
  other : Result Payload :=
    if (first :: rest).all (·.kind = .string) then payload.addPrompt (first :: rest)
    else .error (.ofCause (.directive (.unexpectedItem number first.text)))

-- Adds the items from number `number` on.
def addItems (payload : Payload) (number : Nat) : List (List Lexeme) → Result Payload
  | [] => .ok payload
  | [] :: _ => .error (.ofCause (.directive .emptyItem))
  | (first :: tail) :: rest => do
    if payload.prompt.isSome then throw (.ofCause (.directive .behindPrompt))
    let payload ← payload.addItem number first tail
    payload.addItems (number + 1) rest

-- An empty payload sets nothing.
def ofText (t : Text) : Result Payload := do
  let items ← items t
  if items = [[]] then .ok empty else empty.addItems 1 items

end Payload

end Directive

end Ghostwriter

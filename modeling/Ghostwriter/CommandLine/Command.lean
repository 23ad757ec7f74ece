import Ghostwriter.CommandLine.Arguments
import Ghostwriter.Files.Path

/-!
Commands: what a command line asks for.
-/

namespace Ghostwriter.CommandLine

open Ghostwriter.Text

inductive Command where
  | build (source : Path) (output : Option Path) (cacheFolder : Option Path) (model : Option Text)
    (unwrapFences verbose : Bool)
  | list (cacheFolder : Option Path)
  | remove (cacheFolder : Option Path) (keys : List Text)
  deriving DecidableEq, Repr

-- Reading stopped in the part of the command line that a manual describes.
structure Refusal where
  manual : Manual
  stop : Stop
  deriving DecidableEq, Repr

namespace Reading

def has (reading : Reading) (flag : Flag) : Bool := reading.flags.any (·.1 = flag)

-- The value of a flag: the last one counts.
def value? (reading : Reading) (flag : Flag) : Option Text := reading.flags.reverse.lookup flag

def path? (reading : Reading) (flag : Flag) : Option Path :=
  (reading.value? flag).map Path.ofText

def words (reading : Reading) : List Text := reading.operands.getD []

end Reading

def readWith (m : Manual) (words : List Text) : Except Refusal Reading :=
  (read m words).mapError (⟨m, ·⟩)

def refuse {α : Type} (m : Manual) (misuse : Misuse) : Except Refusal α :=
  .error ⟨m, .misuse misuse⟩

-- A word that is none of the commands that a manual names.
def unknownCommand {α : Type} (m : Manual) (word : Text) : Except Refusal α :=
  match m.operand with
  | .command name choices => refuse m (.noSuchCommand name word choices)
  | _ => refuse m (.leftOver [word])

def Command.ofBuild (reading : Reading) : Command :=
  .build (Path.ofText (reading.words.headD [])) (reading.path? .output)
    (reading.path? .cacheFolder) (reading.value? .model) (reading.has .unwrapFences)
    (reading.has .verbose)

-- A command with the words that are left over.
def readBuild (words : List Text) : Except Refusal (Command × List Text) := do
  let reading ← readWith .build words
  .ok (.ofBuild reading, reading.leftOver)

def readList (words : List Text) : Except Refusal (Command × List Text) := do
  let reading ← readWith .list words
  .ok (.list (reading.path? .cacheFolder), reading.leftOver)

def readRemove (words : List Text) : Except Refusal (Command × List Text) := do
  let reading ← readWith .remove words
  .ok (.remove (reading.path? .cacheFolder) reading.words, reading.leftOver)

def readCache (words : List Text) : Except Refusal (Command × List Text) := do
  let reading ← readWith .cache words
  match reading.words with
  | [] => unknownCommand .cache []
  | word :: rest => do
    let (command, leftOver) ←
      if word = "list".toList then readList rest
      else if word = "rm".toList then readRemove rest
      else unknownCommand .cache word
    .ok (command, reading.leftOver ++ leftOver)

-- The command that a command line asks for. Nothing may be left over.
def Command.ofWords (words : List Text) : Except Refusal Command := do
  let reading ← readWith .top words
  match reading.words with
  | [] => unknownCommand .top []
  | word :: rest => do
    let (command, leftOver) ←
      if word = "build".toList then readBuild rest
      else if word = "cache".toList then readCache rest
      else unknownCommand .top word
    match reading.leftOver ++ leftOver with
    | [] => .ok command
    | words => refuse .top (.leftOver words)

end Ghostwriter.CommandLine

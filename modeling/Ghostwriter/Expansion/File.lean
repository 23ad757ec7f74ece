import Ghostwriter.Expansion.Basic

/-!
Expansion from file to file.
-/

namespace Ghostwriter.Expander

open Ghostwriter.Text

-- The source in a file.
def collect (p : Path) : Work Source := do
  let desk ← get
  Work.ofResult (Source.collect desk.disk p)

-- The text of a file with its directives expanded.
def expandFile (expander : Expander) (p : Path) : Work Text := do
  let source ← collect p
  let (text, _) ← expander.expandSource source
  pure text

-- Makes a folder and those above it.
def makeFolders (p : Path) : Work Unit := do
  let desk ← get
  let (problem, disk) := desk.disk.makeFolders p
  set { desk with disk := disk }
  match problem with
  | none => pure ()
  | some e => throw (.crash (.disk e))

def writeFile (p : Path) (text : Text) : Work Unit := do
  let desk ← get
  match desk.disk.writeFile p (encode text) with
  | .ok disk => set { desk with disk := disk }
  | .error e => throw (.crash (.disk e))

-- Expands one file into another. Nothing is written unless every directive could be expanded.
def build (expander : Expander) (source target : Path) : Work (List Expansion) := do
  let source ← collect source
  let (text, expansions) ← expander.expandSource source
  makeFolders target.parent
  writeFile target text
  Work.report [.fileWritten target expansions.length]
  pure expansions

end Ghostwriter.Expander

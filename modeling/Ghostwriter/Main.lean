import Ghostwriter.CommandLine.Run

/-!
The program. It reads what is below the working directory, runs the command line on it, and writes
back what has changed.
-/

namespace Ghostwriter.Main

open Ghostwriter.Text

-- Whether a run may look into a file of that name: the file of variables, a record, or a file that
-- one of the words names.
def mayRead (words : List Text) (name : Text) : Bool :=
  name = ".env".toList || Cache.isKey name || words.any (name.isSuffixOf ·)

mutual

partial def loadEntry (words : List Text) (entry : IO.FS.DirEntry) : IO (Option Node) := do
  let isLink := (← entry.path.symlinkMetadata).type == .symlink
  if ← entry.path.isDir then
    if isLink then return none
    return some (.folder (← loadFolder words (← entry.path.readDir)))
  else if !(← entry.path.pathExists) then return none
  else if mayRead words entry.fileName.toList then
    return some (.file (← IO.FS.readBinFile entry.path).toList)
  else return some (.file [])

-- What is in a folder. Links to folders are left out. A file that no run looks into comes without
-- its content.
partial def loadFolder (words : List Text) (entries : Array IO.FS.DirEntry) :
    IO (List (Text × Node)) :=
  entries.toList.filterMapM fun entry => do
    return (← loadEntry words entry).map (entry.fileName.toList, ·)

end

-- Writes what differs from before. A run removes files only.
partial def save (place : String) (before : Option Node) : Node → IO Unit
  | .file content => do
    match before with
    | some (.file old) => if old ≠ content then IO.FS.writeBinFile place ⟨content.toArray⟩
    | _ => IO.FS.writeBinFile place ⟨content.toArray⟩
  | .folder entries => do
    let below (name : Text) : String := place ++ "/" ++ String.ofList name
    let old ←
      match before with
      | some (.folder old) => pure old
      | _ => do
        IO.FS.createDir place
        pure []
    for (name, node) in entries do
      save (below name) (old.lookup name) node
    for (name, node) in old do
      if (entries.lookup name).isNone && node.isFile then IO.FS.removeFile (below name)

-- The variables of the process that a run may look up: those of the settings, and those that the
-- file of variables mentions.
def environment (disk : Disk) : IO EnvFile.Variables := do
  let file := ((Settings.fileContent disk (Settings.defaultFile disk)).toOption).getD []
  let mentioned := (splitWhere (fun c => !isWordPart c) file).eraseDups
  let names := Settings.variableNames.map String.toList ++ mentioned.filter (!·.isEmpty)
  names.eraseDups.filterMapM fun name => do
    return (← IO.getEnv (String.ofList name)).map fun value => (name, value.toList)

end Ghostwriter.Main

open Ghostwriter Ghostwriter.Main

def main (args : List String) : IO UInt32 := do
  let words := args.map String.toList
  let home ← IO.currentDir
  let tree := Node.folder (← loadFolder words (← home.readDir))
  let disk : Disk := ⟨home.toString.toList, tree⟩
  let outcome := CommandLine.run ⟨disk, ← environment disk, false⟩ words
  save "." (some tree) outcome.world.disk.tree
  IO.print (String.ofList outcome.stdout)
  IO.eprint (String.ofList outcome.stderr)
  match outcome.status with
  | .ok code => return code.toUInt32
  | .error crash =>
    IO.eprintln (String.ofList crash.message)
    return 1

import Ghostwriter.Files.Path
import Ghostwriter.Text.Quoted
import Ghostwriter.Text.Utf8

/-!
The files below the working directory, and what the operating system does with them: which names
lead where, and which operations fail for what reason.
-/

namespace Ghostwriter

open Ghostwriter.Text

inductive Node where
  | file (content : Bytes)
  | folder (entries : List (Text × Node))
  deriving Inhabited

namespace Node

def isFile : Node → Bool
  | .file _ => true
  | .folder _ => false

def isFolder : Node → Bool
  | .file _ => false
  | .folder _ => true

-- Replaces the entry of that name, or adds one at the end.
def put (name : Text) (node : Node) : List (Text × Node) → List (Text × Node)
  | [] => [(name, node)]
  | (other, old) :: rest =>
    if other = name then (name, node) :: rest else (other, old) :: put name node rest

def find? : Node → List Text → Option Node
  | node, [] => some node
  | .file _, _ :: _ => none
  | .folder entries, name :: rest =>
    match entries.lookup name with
    | none => none
    | some node => node.find? rest

-- Puts `new` at a place, with folders on the way to it.
def insert (new : Node) : Node → List Text → Node
  | _, [] => new
  | .file content, _ :: _ => .file content
  | .folder entries, name :: rest =>
    let inner := (entries.lookup name).getD (.folder [])
    .folder (put name (insert new inner rest) entries)

def erase : Node → List Text → Node
  | node, [] => node
  | .file content, _ :: _ => .file content
  | .folder entries, [name] => .folder (entries.filter fun entry => entry.1 ≠ name)
  | .folder entries, name :: rest =>
    match entries.lookup name with
    | none => .folder entries
    | some node => .folder (put name (node.erase rest) entries)

end Node

-- What the operating system objects to.
inductive DiskProblem where
  | missing
  | alreadyThere
  | notFolder
  | isFolder
  | nameTooLong
  deriving DecidableEq, Repr

def DiskProblem.number : DiskProblem → Nat
  | .missing => 2
  | .alreadyThere => 17
  | .notFolder => 20
  | .isFolder => 21
  | .nameTooLong => 36

def DiskProblem.message : DiskProblem → String
  | .missing => "No such file or directory"
  | .alreadyThere => "File exists"
  | .notFolder => "Not a directory"
  | .isFolder => "Is a directory"
  | .nameTooLong => "File name too long"

structure DiskError where
  problem : DiskProblem
  path : Path
  deriving DecidableEq, Repr

def DiskError.message (e : DiskError) : String :=
  "[Errno " ++ toString e.problem.number ++ "] " ++ e.problem.message ++ ": " ++
    String.ofList (quoted e.path.toText)

-- The working directory: its absolute name, and what is in it.
structure Disk where
  home : Text
  tree : Node

namespace Disk

def upward : Text := ['.', '.']

-- The longest name of a file and of a path, in bytes.
def maxName : Nat := 255

def maxPath : Nat := 4095

-- Follows names from the folder at `here`, a place in the tree read backwards. Every name but the
-- last must lead to a folder. The result is a place whose folder exists.
def walk (tree : Node) : List Text → List Text → Except DiskProblem (List Text)
  | here, [] => .ok here.reverse
  | here, name :: rest =>
    match tree.find? here.reverse with
    | none => .error .missing
    | some (.file _) => .error .notFolder
    | some (.folder _) =>
      if name = upward then
        match here with
        | [] => .error .missing
        | _ :: above => walk tree above rest
      else if maxName < (encode name).length then .error .nameTooLong
      else walk tree (name :: here) rest

-- The names of a path from the working directory on. Absolute names outside of it lead nowhere.
def fromHome? (disk : Disk) (p : Path) : Option (List Text) :=
  if p.root = .relative then some p.parts
  else
    let home := Path.ofText disk.home
    if home.root = p.root && home.parts.isPrefixOf p.parts then
      some (p.parts.drop home.parts.length)
    else none

def place (disk : Disk) (p : Path) : Except DiskError (List Text) :=
  if maxPath < (encode p.toText).length then .error ⟨.nameTooLong, p⟩
  else
    match disk.fromHome? p with
    | none => .error ⟨.missing, p⟩
    | some names => (walk disk.tree [] names).mapError fun problem => ⟨problem, p⟩

def stat (disk : Disk) (p : Path) : Except DiskError Node :=
  match disk.place p with
  | .error e => .error e
  | .ok spot =>
    match disk.tree.find? spot with
    | none => .error ⟨.missing, p⟩
    | some node => .ok node

def contents (disk : Disk) (p : Path) : Except DiskError Bytes :=
  match disk.stat p with
  | .error e => .error e
  | .ok (.file content) => .ok content
  | .ok (.folder _) => .error ⟨.isFolder, p⟩

-- Asks about a path. Only an overlong name is an error: what is missing, or below a file, is
-- simply not there.
def ask (disk : Disk) (p : Path) (question : Node → Bool) : Except DiskError Bool :=
  match disk.stat p with
  | .ok node => .ok (question node)
  | .error e => if e.problem = .nameTooLong then .error e else .ok false

def pathExists (disk : Disk) (p : Path) : Except DiskError Bool := disk.ask p fun _ => true

def isFolder (disk : Disk) (p : Path) : Except DiskError Bool := disk.ask p Node.isFolder

def isFile (disk : Disk) (p : Path) : Except DiskError Bool := disk.ask p Node.isFile

def writeFile (disk : Disk) (p : Path) (content : Bytes) : Except DiskError Disk :=
  match disk.place p with
  | .error e => .error e
  | .ok spot =>
    match disk.tree.find? spot with
    | some (.folder _) => .error ⟨.isFolder, p⟩
    | _ => .ok { disk with tree := Node.insert (.file content) disk.tree spot }

def makeFolder (disk : Disk) (p : Path) : Except DiskError Disk :=
  match disk.place p with
  | .error e => .error e
  | .ok spot =>
    match disk.tree.find? spot with
    | some _ => .error ⟨.alreadyThere, p⟩
    | none => .ok { disk with tree := Node.insert (.folder []) disk.tree spot }

-- A folder that is already there is no failure.
def toleratePresent (disk : Disk) (p : Path) (e : DiskError) : Option DiskError × Disk :=
  match disk.isFolder p with
  | .ok true => (none, disk)
  | _ => (some e, disk)

-- Makes a folder and those above it that are missing. Folders that were made before a failure
-- stay. The first argument bounds the number of folders above.
def makeFoldersUpTo : Nat → Disk → Path → Option DiskError × Disk
  | fuel, disk, p =>
    match disk.makeFolder p with
    | .ok disk => (none, disk)
    | .error e =>
      if e.problem ≠ .missing then disk.toleratePresent p e
      else if p.parent = p then (some e, disk)
      else
        match fuel with
        | 0 => (some e, disk)
        | fuel + 1 =>
          match makeFoldersUpTo fuel disk p.parent with
          | (some e, disk) => (some e, disk)
          | (none, disk) =>
            match disk.makeFolder p with
            | .ok disk => (none, disk)
            | .error e =>
              if e.problem = .missing then (some e, disk) else disk.toleratePresent p e

def makeFolders (disk : Disk) (p : Path) : Option DiskError × Disk :=
  makeFoldersUpTo p.parts.length disk p

-- Removes a file.
def unlink (disk : Disk) (p : Path) : Except DiskError Disk :=
  match disk.place p with
  | .error e => .error e
  | .ok spot =>
    match disk.tree.find? spot with
    | none => .error ⟨.missing, p⟩
    | some (.folder _) => .error ⟨.isFolder, p⟩
    | some (.file _) => .ok { disk with tree := disk.tree.erase spot }

-- Removes a file, or a folder with all that is in it. Whether there was one.
def removeAll (disk : Disk) (p : Path) : Bool × Disk :=
  match disk.place p with
  | .error _ => (false, disk)
  | .ok spot =>
    match disk.tree.find? spot with
    | none => (false, disk)
    | some _ => (true, { disk with tree := disk.tree.erase spot })

-- The names in a folder.
def names (disk : Disk) (p : Path) : Except DiskError (List Text) :=
  match disk.stat p with
  | .error e => .error e
  | .ok (.file _) => .error ⟨.notFolder, p⟩
  | .ok (.folder entries) => .ok (entries.map Prod.fst)

-- Follows names one by one, from a place read backwards. Each must exist. Going up only drops the
-- last name, so it also leads out of a file. `above` counts the folders over the working directory
-- that this leads up to; all that exists outside are these folders.
def follow (tree : Node) (above : Nat) :
    List Text → List Text → Except DiskProblem (Nat × List Text)
  | here, [] => .ok (above, here.reverse)
  | here, name :: rest =>
    if name = upward then
      match here with
      | [] => follow tree (above + 1) [] rest
      | _ :: outer => follow tree above outer rest
    else if 0 < above then .error .missing
    else
      match tree.find? here.reverse with
      | none => .error .missing
      | some (.file _) => .error .notFolder
      | some (.folder _) =>
        if maxName < (encode name).length then .error .nameTooLong
        else
          match tree.find? (name :: here).reverse with
          | none => .error .missing
          | some _ => follow tree above (name :: here) rest

-- The absolute name of an existing file or folder.
def resolve (disk : Disk) (p : Path) : Except DiskError Path :=
  let home := Path.ofText disk.home
  match disk.fromHome? p with
  | none =>
    if p.parts.isPrefixOf home.parts then .ok { home with parts := p.parts }
    else .error ⟨.missing, p⟩
  | some names =>
    match follow disk.tree 0 [] names with
    | .error problem => .error ⟨problem, p⟩
    | .ok (above, place) =>
      .ok { home with parts := home.parts.take (home.parts.length - above) ++ place }

end Disk

end Ghostwriter

import Ghostwriter.Proofs.Files.Folder

/-!
Files with other contents. Where paths lead, which folders can be made and which files can be
written or removed does not depend on what the files contain.
-/

namespace Ghostwriter

open Ghostwriter.Text

namespace Node

mutual

-- The same files and folders. What a file contains changes with its place.
def refill (change : List Text → Bytes → Bytes) : Node → Node
  | .file content => .file (change [] content)
  | .folder entries => .folder (refillAll change entries)

def refillAll (change : List Text → Bytes → Bytes) : List (Text × Node) → List (Text × Node)
  | [] => []
  | (name, node) :: rest =>
    (name, refill (fun below => change (name :: below)) node) :: refillAll change rest

end

variable (change : List Text → Bytes → Bytes)

@[simp] theorem refill_file (content : Bytes) :
    (file content).refill change = .file (change [] content) := by rw [refill]

@[simp] theorem refill_folder (entries : List (Text × Node)) :
    (folder entries).refill change = .folder (refillAll change entries) := by rw [refill]

@[simp] theorem refillAll_nil : refillAll change [] = [] := by rw [refillAll]

@[simp] theorem refillAll_cons (name : Text) (node : Node) (rest : List (Text × Node)) :
    refillAll change ((name, node) :: rest) =
      (name, node.refill fun below => change (name :: below)) :: refillAll change rest := by
  rw [refillAll]

@[simp] theorem isFolder_refill (node : Node) : (node.refill change).isFolder = node.isFolder := by
  cases node <;> simp [isFolder]

@[simp] theorem map_fst_refillAll (entries : List (Text × Node)) :
    (refillAll change entries).map Prod.fst = entries.map Prod.fst := by
  induction entries with
  | nil => simp
  | cons entry rest ih => exact congrArg (entry.1 :: ·) ih

theorem lookup_refillAll (entries : List (Text × Node)) (name : Text) :
    (refillAll change entries).lookup name =
      (entries.lookup name).map (refill fun below => change (name :: below)) := by
  induction entries with
  | nil => simp
  | cons entry rest ih =>
    obtain ⟨first, node⟩ := entry
    by_cases hname : name = first
    · subst hname
      simp
    · simp [List.lookup_cons, beq_eq_false_iff_ne.mpr hname, ih]

theorem put_refillAll (name : Text) (node : Node) (entries : List (Text × Node)) :
    put name (node.refill fun below => change (name :: below)) (refillAll change entries) =
      refillAll change (put name node entries) := by
  induction entries with
  | nil => simp [put]
  | cons entry rest ih =>
    obtain ⟨first, old⟩ := entry
    by_cases hname : first = name
    · subst hname
      simp [put]
    · simp [put, hname, ih]

theorem filter_refillAll (keeps : Text → Bool) (entries : List (Text × Node)) :
    (refillAll change entries).filter (fun entry => keeps entry.1) =
      refillAll change (entries.filter fun entry => keeps entry.1) := by
  induction entries with
  | nil => simp
  | cons entry rest ih =>
    obtain ⟨first, old⟩ := entry
    by_cases hkeeps : keeps first
    · simp [hkeeps, ih]
    · simp [hkeeps, ih]

theorem find?_refill (tree : Node) (spot : List Text) :
    (tree.refill change).find? spot =
      (tree.find? spot).map (refill fun below => change (spot ++ below)) := by
  induction spot generalizing tree change with
  | nil => simp [find?]
  | cons name rest ih =>
    cases tree with
    | file content => simp [find?]
    | folder entries =>
      simp only [refill_folder, find?, lookup_refillAll]
      cases entries.lookup name with
      | none => rfl
      | some node => simpa using ih (fun below => change (name :: below)) node

theorem insert_refill (new tree : Node) (spot : List Text) :
    insert (new.refill fun below => change (spot ++ below)) (tree.refill change) spot =
      (insert new tree spot).refill change := by
  induction spot generalizing tree change with
  | nil => simp [insert]
  | cons name rest ih =>
    cases tree with
    | file content => simp [insert]
    | folder entries =>
      have hinner : ((refillAll change entries).lookup name).getD (.folder []) =
          ((entries.lookup name).getD (.folder [])).refill fun below => change (name :: below) := by
        rw [lookup_refillAll]
        cases entries.lookup name <;> simp
      simp only [refill_folder, insert, hinner, ← put_refillAll]
      congr 2
      exact ih (fun below => change (name :: below)) _

theorem erase_refill (tree : Node) (spot : List Text) :
    (tree.refill change).erase spot = (tree.erase spot).refill change := by
  induction spot generalizing tree change with
  | nil => simp [erase]
  | cons name rest ih =>
    cases tree with
    | file content => simp [erase]
    | folder entries =>
      cases rest with
      | nil =>
        have hfilter := filter_refillAll change (fun other => other ≠ name) entries
        simpa [erase] using hfilter
      | cons next rest =>
        simp only [refill_folder, erase, lookup_refillAll]
        cases entries.lookup name with
        | none => simp
        | some node =>
          simp only [Option.map_some, refill_folder, ← put_refillAll]
          rw [ih]

end Node

namespace Disk

variable (change : List Text → Bytes → Bytes)

def refill (disk : Disk) : Disk := { disk with tree := disk.tree.refill change }

@[simp] theorem refill_home (disk : Disk) : (disk.refill change).home = disk.home := rfl

@[simp] theorem refill_tree (disk : Disk) :
    (disk.refill change).tree = disk.tree.refill change := rfl

theorem walk_refill (tree : Node) (here names : List Text) :
    walk (tree.refill change) here names = walk tree here names := by
  induction names generalizing here with
  | nil => simp [walk]
  | cons name rest ih =>
    unfold walk
    rw [Node.find?_refill]
    cases tree.find? here.reverse with
    | none => rfl
    | some node =>
      cases node with
      | file content => simp
      | folder entries =>
        simp only [Option.map_some, Node.refill_folder]
        split_ifs
        · cases here with
          | nil => rfl
          | cons _ above => exact ih above
        · rfl
        · exact ih (name :: here)

@[simp] theorem place_refill (disk : Disk) (p : Path) :
    (disk.refill change).place p = disk.place p := by
  unfold place
  rw [fromHome?_of_home (refill_home change disk), refill_tree]
  simp only [walk_refill]

theorem ask_refill (disk : Disk) (p : Path) {question : Node → Bool}
    (hquestion : ∀ change node, question (Node.refill change node) = question node) :
    (disk.refill change).ask p question = disk.ask p question := by
  unfold ask stat
  rw [place_refill, refill_tree]
  cases disk.place p with
  | error e => rfl
  | ok spot =>
    simp only [Node.find?_refill]
    cases disk.tree.find? spot with
    | none => rfl
    | some node => simp [hquestion]

@[simp] theorem pathExists_refill (disk : Disk) (p : Path) :
    (disk.refill change).pathExists p = disk.pathExists p :=
  ask_refill change disk p fun _ _ => rfl

@[simp] theorem isFolder_refill (disk : Disk) (p : Path) :
    (disk.refill change).isFolder p = disk.isFolder p :=
  ask_refill change disk p fun change node => Node.isFolder_refill change node

@[simp] theorem names_refill (disk : Disk) (p : Path) :
    (disk.refill change).names p = disk.names p := by
  unfold names stat
  rw [place_refill, refill_tree]
  cases disk.place p with
  | error e => rfl
  | ok spot =>
    simp only [Node.find?_refill]
    cases disk.tree.find? spot with
    | none => rfl
    | some node => cases node <;> simp

theorem makeFolder_refill (disk : Disk) (p : Path) :
    (disk.refill change).makeFolder p = (disk.makeFolder p).map (refill change) := by
  unfold makeFolder
  rw [place_refill, refill_tree]
  cases disk.place p with
  | error e => rfl
  | ok spot =>
    simp only [Node.find?_refill]
    cases disk.tree.find? spot with
    | some node => rfl
    | none =>
      have hinsert := Node.insert_refill change (.folder []) disk.tree spot
      simp only [Node.refill_folder, Node.refillAll_nil] at hinsert
      simp [Except.map, refill, hinsert]

theorem toleratePresent_refill (disk : Disk) (p : Path) (e : DiskError) :
    (disk.refill change).toleratePresent p e =
      ((disk.toleratePresent p e).1, disk.refill change) := by
  unfold toleratePresent
  rw [isFolder_refill]
  split <;> rfl

theorem makeFoldersUpTo_refill (fuel : Nat) (disk : Disk) (p : Path) :
    makeFoldersUpTo fuel (disk.refill change) p =
      ((makeFoldersUpTo fuel disk p).1, (makeFoldersUpTo fuel disk p).2.refill change) := by
  induction fuel generalizing disk p with
  | zero =>
    unfold makeFoldersUpTo
    rw [makeFolder_refill]
    cases disk.makeFolder p with
    | ok after => rfl
    | error e =>
      simp only [Except.map, toleratePresent_refill]
      split_ifs <;> simp
  | succ fuel ih =>
    unfold makeFoldersUpTo
    rw [makeFolder_refill]
    cases disk.makeFolder p with
    | ok after => rfl
    | error e =>
      simp only [Except.map, toleratePresent_refill, ih]
      split_ifs
      · simp
      · rfl
      · obtain ⟨problem, above⟩ := makeFoldersUpTo fuel disk p.parent
        cases problem with
        | some e => rfl
        | none =>
          simp only [makeFolder_refill]
          cases above.makeFolder p with
          | ok after => rfl
          | error e =>
            simp only [Except.map, toleratePresent_refill]
            split_ifs <;> simp

theorem makeFolders_refill (disk : Disk) (p : Path) :
    (disk.refill change).makeFolders p =
      ((disk.makeFolders p).1, (disk.makeFolders p).2.refill change) :=
  makeFoldersUpTo_refill change _ disk p

theorem unlink_refill (disk : Disk) (p : Path) :
    (disk.refill change).unlink p = (disk.unlink p).map (refill change) := by
  unfold unlink
  rw [place_refill, refill_tree]
  cases disk.place p with
  | error e => rfl
  | ok spot =>
    simp only [Node.find?_refill]
    cases disk.tree.find? spot with
    | none => rfl
    | some node => cases node <;> simp [Except.map, refill, Node.erase_refill]

-- At the place of a path nothing changes.
def Spares (disk : Disk) (p : Path) : Prop := ∀ spot, disk.place p = .ok spot → change spot = id

variable {change} {disk : Disk} {p : Path}

theorem contents_refill (h : disk.Spares change p) :
    (disk.refill change).contents p = disk.contents p := by
  unfold contents stat
  rw [place_refill, refill_tree]
  cases hplace : disk.place p with
  | error e => rfl
  | ok spot =>
    simp only [Node.find?_refill]
    cases disk.tree.find? spot with
    | none => rfl
    | some node => cases node <;> simp [h spot hplace]

theorem writeFile_refill (h : disk.Spares change p) (content : Bytes) :
    (disk.refill change).writeFile p content = (disk.writeFile p content).map (refill change) := by
  unfold writeFile
  rw [place_refill, refill_tree]
  cases hplace : disk.place p with
  | error e => rfl
  | ok spot =>
    have hinsert := Node.insert_refill change (.file content) disk.tree spot
    simp only [Node.refill_file, List.append_nil, h spot hplace, id] at hinsert
    simp only [Node.find?_refill]
    cases disk.tree.find? spot with
    | none => simp [Except.map, refill, hinsert]
    | some node => cases node <;> simp [Except.map, refill, hinsert]

end Disk

end Ghostwriter

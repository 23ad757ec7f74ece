import Ghostwriter.Proofs.Files.Folder

/-!
Writing by way of a temporary file. A content goes into a new file, which then takes the place of
the file that is meant. The disk is the same after this as after writing that file at once, and
where that fails, as before.
-/

namespace Ghostwriter

open Ghostwriter.Text

namespace Node

theorem put_put (name : Text) (old new : Node) (entries : List (Text × Node)) :
    put name new (put name old entries) = put name new entries := by
  induction entries with
  | nil => simp [put]
  | cons entry rest ih =>
    obtain ⟨first, node⟩ := entry
    by_cases hname : first = name
    · simp [put, hname]
    · simp [put, hname, ih]

-- What stands under a name already is put there.
theorem put_lookup {name : Text} {node : Node} {entries : List (Text × Node)}
    (h : entries.lookup name = some node) : put name node entries = entries := by
  induction entries with
  | nil => cases h
  | cons entry rest ih =>
    obtain ⟨first, old⟩ := entry
    by_cases hname : first = name
    · subst hname
      rw [List.lookup_cons_self, Option.some.injEq] at h
      simp [put, h]
    · rw [List.lookup_cons, beq_eq_false_iff_ne.mpr (Ne.symm hname)] at h
      rw [put, if_neg hname, ih h]

theorem insert_insert (old new tree : Node) (spot : List Text) :
    insert new (insert old tree spot) spot = insert new tree spot := by
  induction spot generalizing tree with
  | nil => simp [insert]
  | cons name rest ih =>
    cases tree with
    | file content => simp [insert]
    | folder entries => simp [insert, ih, put_put]

-- A new name that is taken out again.
theorem erase_insert {tree new : Node} {here : List Text} {entries : List (Text × Node)}
    {name : Text} (h : tree.find? here = some (.folder entries))
    (hfree : entries.lookup name = none) :
    erase (insert new tree (here ++ [name])) (here ++ [name]) = tree := by
  induction here generalizing tree with
  | nil =>
    simp only [find?, Option.some.injEq] at h
    subst h
    have hnames := (lookup_eq_none_iff_not_mem _ _).mp hfree
    have hkept : entries.filter (fun entry => entry.1 ≠ name) = entries := by
      refine List.filter_eq_self.mpr fun entry hentry => ?_
      rw [decide_eq_true_eq]
      rintro rfl
      exact hnames (List.mem_map_of_mem hentry)
    simp only [insert, List.nil_append, put_of_lookup _ hfree, erase, List.filter_append, hkept]
    simp
  | cons outer here ih =>
    cases tree with
    | file content => simp [find?] at h
    | folder around =>
      simp only [find?] at h
      cases hlookup : around.lookup outer with
      | none => simp [hlookup] at h
      | some inner =>
        simp only [hlookup] at h
        have herase (node : Node) (rest : List (Text × Node))
            (hnode : rest.lookup outer = some node) :
            erase (folder rest) (outer :: (here ++ [name])) =
              folder (put outer (node.erase (here ++ [name])) rest) := by
          cases here <;> simp [erase, hnode]
        simp only [List.cons_append, insert, hlookup, Option.getD_some]
        rw [herase _ _ (lookup_put_self _ _ _), ih h, put_put, put_lookup hlookup]

end Node

namespace Disk

-- Makes an empty file where nothing is.
def createFile (disk : Disk) (p : Path) : Except DiskError Disk :=
  match disk.place p with
  | .error e => .error e
  | .ok spot =>
    match disk.tree.find? spot with
    | some _ => .error ⟨.alreadyThere, p⟩
    | none => .ok { disk with tree := Node.insert (.file []) disk.tree spot }

-- Makes an empty file with the first of some names that is not taken.
def createOneOf (disk : Disk) (folder : Path) : List Text → Except DiskError (Path × Disk)
  | [] => .error ⟨.alreadyThere, folder⟩
  | name :: rest =>
    match disk.createFile (folder.child name) with
    | .ok created => .ok (folder.child name, created)
    | .error e =>
      if e.problem = .alreadyThere then disk.createOneOf folder rest else .error e

-- Moves a file, also in the place of another one.
def move (disk : Disk) (source target : Path) : Except DiskError Disk :=
  match disk.contents source with
  | .error e => .error e
  | .ok content =>
    match disk.unlink source with
    | .error e => .error e
    | .ok without => without.writeFile target content

-- Writes a file that is there, and moves it.
def fill (disk : Disk) (temp target : Path) (content : Bytes) : Option DiskError × Disk :=
  match disk.writeFile temp content with
  | .error e => (some e, disk)
  | .ok filled =>
    match filled.move temp target with
    | .error e => (some e, filled)
    | .ok after => (none, after)

-- Removes a file if there is one.
def removeLeftover (disk : Disk) (temp : Path) : Except DiskError Disk :=
  match disk.pathExists temp with
  | .ok true => disk.unlink temp
  | _ => .ok disk

variable {disk created after : Disk} {p temp target folder : Path} {content : Bytes}

theorem writeFile_writeFile {old : Bytes} (h : disk.writeFile p old = .ok created) :
    created.writeFile p content = disk.writeFile p content := by
  obtain ⟨spot, hplace, hfree, hhome, hseen⟩ := seen_of_writeFile h
  have hafter := place_of_folders hhome (fun _ => folders_of_writeFile h) hplace
  have hfile : created.tree.find? spot = some (.file old) := by
    rw [Node.find?_isFile_iff, hseen, if_pos rfl]
  have hnot (entries : List (Text × Node)) : disk.tree.find? spot ≠ some (.folder entries) :=
    fun hfolder => hfree ((Node.find?_isFolder_iff _ _).mp ⟨entries, hfolder⟩)
  have hcreated : created = { disk with tree := Node.insert (.file old) disk.tree spot } := by
    simp only [writeFile, hplace] at h
    exact (Except.ok.inj h).symm
  simp only [writeFile, hplace, hafter, hfile]
  cases hfind : disk.tree.find? spot with
  | none => simp [hcreated, Node.insert_insert]
  | some node =>
    cases node with
    | folder entries => exact absurd hfind (hnot entries)
    | file before => simp [hcreated, Node.insert_insert]

-- Removing a new file leaves the disk as it was before.
theorem unlink_of_writeFile {spot : List Text} (hplace : disk.place p = .ok spot)
    (hnone : disk.tree.find? spot = none) (h : disk.writeFile p content = .ok after) :
    after.unlink p = .ok disk := by
  obtain ⟨written, hwritten, -, hhome, hseen⟩ := seen_of_writeFile h
  have hafter := place_of_folders hhome (fun _ => folders_of_writeFile h) hwritten
  obtain rfl : spot = written := Except.ok.inj (hplace.symm.trans hwritten)
  have hfile : after.tree.find? spot = some (.file content) := by
    rw [Node.find?_isFile_iff, hseen, if_pos rfl]
  simp only [writeFile, hplace, hnone, Except.ok.injEq] at h
  subst h
  simp only at hafter hfile
  simp only [unlink, hafter, hfile]
  rcases reachable_of_place hplace with rfl | ⟨here, name, rfl, hhere⟩
  · simp [Node.find?] at hnone
  · obtain ⟨entries, hentries⟩ := (Node.find?_isFolder_iff _ _).mpr hhere
    rw [Node.find?_child hentries] at hnone
    rw [Node.erase_insert hentries hnone]

theorem removeLeftover_of_writeFile {spot : List Text} (hplace : disk.place p = .ok spot)
    (hnone : disk.tree.find? spot = none) (h : disk.writeFile p content = .ok after) :
    after.removeLeftover p = .ok disk := by
  obtain ⟨there, hthere, hseen⟩ := (contents_eq_ok_iff _ _ _).mp (contents_of_writeFile h)
  have hexists : after.pathExists p = .ok true := by
    rw [pathExists_eq, hthere]
    simp [hseen]
  rw [removeLeftover, hexists]
  exact unlink_of_writeFile hplace hnone h

-- The file that was made is new, and it is as if nothing had been written to it.
theorem writeFile_of_createOneOf {names : List Text}
    (h : disk.createOneOf folder names = .ok (temp, created)) :
    ∃ spot, disk.place temp = .ok spot ∧ disk.tree.find? spot = none ∧
      disk.writeFile temp [] = .ok created := by
  induction names with
  | nil => cases h
  | cons name rest ih =>
    unfold createOneOf at h
    cases hcreate : disk.createFile (folder.child name) with
    | error e =>
      simp only [hcreate] at h
      split_ifs at h
      exact ih h
    | ok made =>
      simp only [hcreate, Except.ok.injEq, Prod.mk.injEq] at h
      obtain ⟨rfl, rfl⟩ := h
      unfold createFile at hcreate
      cases hplace : disk.place (folder.child name) with
      | error e => simp [hplace] at hcreate
      | ok spot =>
        cases hfind : disk.tree.find? spot with
        | some node => simp [hplace, hfind] at hcreate
        | none =>
          refine ⟨spot, rfl, hfind, ?_⟩
          simpa [writeFile, hplace, hfind] using hcreate

-- Either the file that is meant is written, or what is left can be removed, and then the disk is as
-- it was before.
theorem fill_of_createOneOf {names : List Text}
    (h : disk.createOneOf folder names = .ok (temp, created)) (target : Path) (content : Bytes) :
    match disk.writeFile target content with
    | .ok after => created.fill temp target content = (none, after)
    | .error e => ∃ left, created.fill temp target content = (some e, left) ∧
        left.removeLeftover temp = .ok disk := by
  obtain ⟨spot, hplace, hnone, hcreated⟩ := writeFile_of_createOneOf h
  obtain ⟨filled, hfilled⟩ : ∃ filled, disk.writeFile temp content = .ok filled := by
    simp [writeFile, hplace, hnone]
  have hfill : created.writeFile temp content = .ok filled := by
    rw [writeFile_writeFile hcreated, hfilled]
  have hmove : filled.move temp target = disk.writeFile target content := by
    simp only [move, contents_of_writeFile hfilled, unlink_of_writeFile hplace hnone hfilled]
  simp only [fill, hfill, hmove]
  cases disk.writeFile target content with
  | ok after => rfl
  | error e => exact ⟨filled, rfl, removeLeftover_of_writeFile hplace hnone hfilled⟩

end Disk

end Ghostwriter

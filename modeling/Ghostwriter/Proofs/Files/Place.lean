import Ghostwriter.Proofs.Files.Tree
import Mathlib.Logic.Function.Iterate

/-!
Where paths lead, and what operations on a disk change. A disk extends another one if all that was
seen before is still seen. Making folders along a path only extends a disk, and only at places that
the path or one above it leads to.
-/

namespace Ghostwriter.Disk

open Ghostwriter.Text

-- A place that a walk reaches is the root, or stands under a name in a folder.
def Reachable (tree : Node) (spot : List Text) : Prop :=
  spot = [] ∨ ∃ here name, spot = here ++ [name] ∧ tree.seen here = some none

-- The step of a walk, in terms of what is seen.
theorem walk_cons (tree : Node) (here : List Text) (name : Text) (rest : List Text) :
    walk tree here (name :: rest) =
      match tree.seen here.reverse with
      | none => .error .missing
      | some (some _) => .error .notFolder
      | some none =>
        if name = upward then
          match here with
          | [] => .error .missing
          | _ :: above => walk tree above rest
        else if maxName < (encode name).length then .error .nameTooLong
        else walk tree (name :: here) rest := by
  conv_lhs => unfold walk
  unfold Node.seen
  cases tree.find? here.reverse with
  | none => rfl
  | some node => cases node <;> rfl

theorem walk_append (tree : Node) (here first rest : List Text) :
    walk tree here (first ++ rest) =
      match walk tree here first with
      | .error e => .error e
      | .ok there => walk tree there.reverse rest := by
  induction first generalizing here with
  | nil => simp [walk]
  | cons name first ih =>
    rw [List.cons_append, walk_cons, walk_cons]
    cases tree.seen here.reverse with
    | none => rfl
    | some what =>
      cases what with
      | some content => rfl
      | none =>
        simp only
        split_ifs
        · cases here with
          | nil => rfl
          | cons _ above => exact ih above
        · rfl
        · exact ih (name :: here)

-- A walk only asks where folders are.
theorem walk_of_folders {old new : Node}
    (hfolders : ∀ spot, old.seen spot = some none → new.seen spot = some none)
    {here names spot : List Text} (h : walk old here names = .ok spot) :
    walk new here names = .ok spot := by
  induction names generalizing here with
  | nil => simpa [walk] using h
  | cons name rest ih =>
    rw [walk_cons] at h ⊢
    cases hseen : old.seen here.reverse with
    | none => simp [hseen] at h
    | some what =>
      cases what with
      | some content => simp [hseen] at h
      | none =>
        rw [hfolders _ hseen]
        simp only [hseen] at h ⊢
        split_ifs at h ⊢
        · cases here with
          | nil => simp at h
          | cons _ above => exact ih h
        · exact ih h

-- Without going up, a walk leads where its names say.
theorem eq_of_walk {tree : Node} {here names spot : List Text} (hnames : upward ∉ names)
    (h : walk tree here names = .ok spot) : spot = here.reverse ++ names := by
  induction names generalizing here with
  | nil => simpa [walk] using h.symm
  | cons name rest ih =>
    rw [List.mem_cons, not_or] at hnames
    rw [walk_cons] at h
    cases hseen : tree.seen here.reverse with
    | none => simp [hseen] at h
    | some what =>
      cases what with
      | some content => simp [hseen] at h
      | none =>
        simp only [hseen, Ne.symm hnames.1, if_false] at h
        split_ifs at h
        simpa using ih hnames.2 h

-- Without going up, a walk to something that was there before was possible before.
theorem walk_of_seen {old new : Node} {here names spot : List Text} (hnames : upward ∉ names)
    (hseen : old.seen (here.reverse ++ names) ≠ none) (h : walk new here names = .ok spot) :
    walk old here names = .ok spot := by
  induction names generalizing here with
  | nil => simpa [walk] using h
  | cons name rest ih =>
    rw [List.mem_cons, not_or] at hnames
    rw [walk_cons] at h ⊢
    rw [Node.seen_above old here.reverse name rest hseen]
    cases hnew : new.seen here.reverse with
    | none => simp [hnew] at h
    | some what =>
      cases what with
      | some content => simp [hnew] at h
      | none =>
        simp only [hnew, Ne.symm hnames.1, if_false] at h ⊢
        split_ifs at h ⊢
        exact ih hnames.2 (by simpa using hseen) h

theorem reachable_of_walk {tree : Node} {here names spot : List Text}
    (hhere : Reachable tree here.reverse) (h : walk tree here names = .ok spot) :
    Reachable tree spot := by
  induction names generalizing here with
  | nil =>
    simp only [walk, Except.ok.injEq] at h
    exact h ▸ hhere
  | cons name rest ih =>
    rw [walk_cons] at h
    cases hseen : tree.seen here.reverse with
    | none => simp [hseen] at h
    | some what =>
      cases what with
      | some content => simp [hseen] at h
      | none =>
        simp only [hseen] at h
        split_ifs at h
        · cases here with
          | nil => simp at h
          | cons inner above =>
            refine ih ?_ h
            -- going up from a folder leads to the folder around it
            cases above with
            | nil => exact .inl rfl
            | cons outer above =>
              refine .inr ⟨above.reverse, outer, by simp, ?_⟩
              refine Node.seen_above tree _ outer [inner] ?_
              simp only [List.reverse_cons, List.append_assoc, List.singleton_append] at hseen
              simp [hseen]
        · exact ih (.inr ⟨here.reverse, name, by simp, hseen⟩) h

theorem fromHome?_of_home {old new : Disk} (h : new.home = old.home) (p : Path) :
    new.fromHome? p = old.fromHome? p := by
  unfold fromHome?
  rw [h]

theorem place_eq_ok_iff (disk : Disk) (p : Path) (spot : List Text) :
    disk.place p = .ok spot ↔
      (encode p.toText).length ≤ maxPath ∧
        ∃ names, disk.fromHome? p = some names ∧ walk disk.tree [] names = .ok spot := by
  unfold place
  split_ifs with hlong
  · simp only [false_iff, not_and]
    omega
  · have hshort : (encode p.toText).length ≤ maxPath := by omega
    cases disk.fromHome? p with
    | none => simp
    | some names =>
      cases hwalk : walk disk.tree [] names <;> simp [Except.mapError, hwalk, hshort]

-- What goes wrong on the way to a place is told of the path.
theorem path_of_place {disk : Disk} {p : Path} {e : DiskError} (h : disk.place p = .error e) :
    e.path = p := by
  unfold place at h
  split_ifs at h
  · rw [← Except.error.inj h]
  · cases hnames : disk.fromHome? p with
    | none =>
      simp only [hnames] at h
      rw [← Except.error.inj h]
    | some names =>
      cases hwalk : walk disk.tree [] names with
      | ok spot => simp [hnames, hwalk, Except.mapError] at h
      | error problem =>
        simp only [hnames, hwalk, Except.mapError, Except.error.injEq] at h
        rw [← h]

theorem place_of_folders {old new : Disk} (hhome : new.home = old.home)
    (hfolders : ∀ spot, old.tree.seen spot = some none → new.tree.seen spot = some none)
    {p : Path} {spot : List Text} (h : old.place p = .ok spot) : new.place p = .ok spot := by
  rw [place_eq_ok_iff] at h ⊢
  obtain ⟨hshort, names, hnames, hwalk⟩ := h
  exact ⟨hshort, names, by rw [fromHome?_of_home hhome, hnames], walk_of_folders hfolders hwalk⟩

theorem reachable_of_place {disk : Disk} {p : Path} {spot : List Text}
    (h : disk.place p = .ok spot) : Reachable disk.tree spot := by
  obtain ⟨-, names, -, hwalk⟩ := (place_eq_ok_iff disk p spot).mp h
  exact reachable_of_walk (.inl rfl) hwalk

theorem contents_eq (disk : Disk) (p : Path) :
    disk.contents p =
      match disk.place p with
      | .error e => .error e
      | .ok spot =>
        match disk.tree.seen spot with
        | none => .error ⟨.missing, p⟩
        | some none => .error ⟨.isFolder, p⟩
        | some (some content) => .ok content := by
  unfold contents stat Node.seen
  cases disk.place p with
  | error e => rfl
  | ok spot =>
    cases hfind : disk.tree.find? spot with
    | none => simp [hfind]
    | some node => cases node <;> simp [hfind]

-- What cannot be read because it is missing cannot be removed either.
theorem unlink_of_missing {disk : Disk} {p : Path}
    (h : disk.contents p = .error ⟨.missing, p⟩) : disk.unlink p = .error ⟨.missing, p⟩ := by
  unfold contents stat at h
  unfold unlink
  cases hplace : disk.place p with
  | error e => simpa [hplace] using h
  | ok spot =>
    simp only [hplace] at h ⊢
    cases hfind : disk.tree.find? spot with
    | none => rfl
    | some node => cases node <;> simp [hfind] at h

theorem contents_eq_ok_iff (disk : Disk) (p : Path) (content : Bytes) :
    disk.contents p = .ok content ↔
      ∃ spot, disk.place p = .ok spot ∧ disk.tree.seen spot = some (some content) := by
  rw [contents_eq]
  cases disk.place p with
  | error e => simp
  | ok spot =>
    simp only [Except.ok.injEq, exists_eq_left']
    cases disk.tree.seen spot with
    | none => simp
    | some what => cases what <;> simp

theorem pathExists_eq (disk : Disk) (p : Path) :
    disk.pathExists p =
      match disk.place p with
      | .error e => if e.problem = .nameTooLong then .error e else .ok false
      | .ok spot => .ok (disk.tree.seen spot).isSome := by
  unfold pathExists ask stat Node.seen
  cases disk.place p with
  | error e => rfl
  | ok spot => cases hfind : disk.tree.find? spot <;> simp [hfind]

-- All that was seen is still seen, and all that is new is folders.
structure Extends (old new : Disk) : Prop where
  home : new.home = old.home
  seen : ∀ spot what, old.tree.seen spot = some what → new.tree.seen spot = some what
  files : ∀ spot content, new.tree.seen spot = some (some content) →
    old.tree.seen spot = some (some content)

namespace Extends

theorem refl (disk : Disk) : Extends disk disk := ⟨rfl, fun _ _ h => h, fun _ _ h => h⟩

theorem trans {first second third : Disk} (h : Extends first second) (h' : Extends second third) :
    Extends first third :=
  ⟨h'.home.trans h.home, fun spot what hs => h'.seen spot what (h.seen spot what hs),
    fun spot content hs => h.files spot content (h'.files spot content hs)⟩

theorem place {old new : Disk} (h : Extends old new) {p : Path} {spot : List Text}
    (hplace : old.place p = .ok spot) : new.place p = .ok spot :=
  place_of_folders h.home (fun spot hs => h.seen spot none hs) hplace

theorem contents {old new : Disk} (h : Extends old new) {p : Path} {content : Bytes}
    (hcontents : old.contents p = .ok content) : new.contents p = .ok content := by
  rw [contents_eq_ok_iff] at hcontents ⊢
  obtain ⟨spot, hplace, hseen⟩ := hcontents
  exact ⟨spot, h.place hplace, h.seen spot _ hseen⟩

-- Where a path never goes up, and leads to something that was there before, it led there before.
theorem place_before {old new : Disk} (h : Extends old new) {p : Path} {spot : List Text}
    (hp : upward ∉ p.parts) (hseen : old.tree.seen spot ≠ none) (hplace : new.place p = .ok spot) :
    old.place p = .ok spot := by
  rw [place_eq_ok_iff] at hplace ⊢
  obtain ⟨hshort, names, hnames, hwalk⟩ := hplace
  rw [fromHome?_of_home h.home] at hnames
  have hup : upward ∉ names := by
    unfold fromHome? at hnames
    simp only at hnames
    split_ifs at hnames
    · rwa [← Option.some.inj hnames]
    · rw [← Option.some.inj hnames]
      exact fun hmem => hp (List.mem_of_mem_drop hmem)
  have hspot := eq_of_walk hup hwalk
  exact ⟨hshort, names, hnames, walk_of_seen hup (hspot ▸ hseen) hwalk⟩

theorem contents_before {old new : Disk} (h : Extends old new) {p : Path} {content : Bytes}
    (hp : upward ∉ p.parts) (hcontents : new.contents p = .ok content) :
    old.contents p = .ok content := by
  rw [contents_eq_ok_iff] at hcontents ⊢
  obtain ⟨spot, hplace, hseen⟩ := hcontents
  have hfile := h.files spot content hseen
  exact ⟨spot, h.place_before hp (by simp [hfile]) hplace, hfile⟩

end Extends

-- Writing a file changes what is seen at its place, where no folder was.
theorem seen_of_writeFile {disk after : Disk} {p : Path} {content : Bytes}
    (h : disk.writeFile p content = .ok after) :
    ∃ spot, disk.place p = .ok spot ∧ disk.tree.seen spot ≠ some none ∧
      after.home = disk.home ∧
      ∀ other, after.tree.seen other =
        if other = spot then some (some content) else disk.tree.seen other := by
  unfold writeFile at h
  cases hplace : disk.place p with
  | error e => simp [hplace] at h
  | ok spot =>
    simp only [hplace] at h
    have hfree : disk.tree.seen spot ≠ some none := by
      intro hfolder
      obtain ⟨entries, hfind⟩ := (Node.find?_isFolder_iff _ _).mpr hfolder
      simp [hfind] at h
    have hafter : after = { disk with tree := Node.insert (.file content) disk.tree spot } := by
      split at h
      · simp at h
      · simpa using h.symm
    subst hafter
    refine ⟨spot, rfl, hfree, rfl, fun other => ?_⟩
    cases reachable_of_place hplace with
    | inl hroot =>
      subst hroot
      cases htree : disk.tree with
      | folder entries => simp [htree] at hfree
      | file old => cases other <;> simp [Node.insert]
    | inr hinner =>
      obtain ⟨here, name, rfl, hhere⟩ := hinner
      exact Node.seen_insert_file content disk.tree here name other hhere hfree

theorem folders_of_writeFile {disk after : Disk} {p : Path} {content : Bytes}
    (h : disk.writeFile p content = .ok after) {spot : List Text}
    (hfolder : disk.tree.seen spot = some none) : after.tree.seen spot = some none := by
  obtain ⟨written, -, hfree, -, hseen⟩ := seen_of_writeFile h
  have hne : spot ≠ written := by
    rintro rfl
    exact hfree hfolder
  rw [hseen, if_neg hne, hfolder]

-- After writing, reading gives what was written.
theorem contents_of_writeFile {disk after : Disk} {p : Path} {content : Bytes}
    (h : disk.writeFile p content = .ok after) : after.contents p = .ok content := by
  obtain ⟨spot, hplace, -, hhome, hseen⟩ := seen_of_writeFile h
  have hafter := place_of_folders hhome (fun _ => folders_of_writeFile h) hplace
  exact (contents_eq_ok_iff _ _ _).mpr ⟨spot, hafter, by rw [hseen, if_pos rfl]⟩

theorem seen_of_makeFolder {disk after : Disk} {p : Path} (h : disk.makeFolder p = .ok after) :
    ∃ spot, disk.place p = .ok spot ∧ disk.tree.seen spot = none ∧ after.home = disk.home ∧
      ∀ other, after.tree.seen other =
        if other = spot then some none else disk.tree.seen other := by
  unfold makeFolder at h
  cases hplace : disk.place p with
  | error e => simp [hplace] at h
  | ok spot =>
    simp only [hplace] at h
    cases hfind : disk.tree.find? spot with
    | some node => simp [hfind] at h
    | none =>
      simp only [hfind, Except.ok.injEq] at h
      subst h
      have hnone := (Node.find?_eq_none_iff _ _).mp hfind
      refine ⟨spot, rfl, hnone, rfl, fun other => ?_⟩
      cases reachable_of_place hplace with
      | inl hroot =>
        subst hroot
        cases htree : disk.tree <;> simp [htree] at hnone
      | inr hinner =>
        obtain ⟨here, name, rfl, hhere⟩ := hinner
        exact Node.seen_insert_folder disk.tree here name other hhere hnone

-- All that is new is folders at places that a path, or one above it, leads to.
structure Paves (p : Path) (old new : Disk) : Prop where
  home : new.home = old.home
  seen : ∀ spot, new.tree.seen spot = old.tree.seen spot ∨
    (old.tree.seen spot = none ∧ new.tree.seen spot = some none ∧
      ∃ n, new.place (Path.parent^[n] p) = .ok spot)

namespace Paves

variable {p : Path} {first second third old new : Disk}

theorem refl (p : Path) (disk : Disk) : Paves p disk disk := ⟨rfl, fun _ => .inl rfl⟩

theorem toExtends (h : Paves p old new) : Extends old new := by
  refine ⟨h.home, fun spot what hold => ?_, fun spot content hnew => ?_⟩
  · rcases h.seen spot with hsame | ⟨hnone, -, -⟩
    · rw [hsame, hold]
    · rw [hnone] at hold
      cases hold
  · rcases h.seen spot with hsame | ⟨-, hfolder, -⟩
    · rw [← hsame, hnew]
    · rw [hfolder] at hnew
      cases hnew

theorem of_parent (h : Paves p.parent old new) : Paves p old new := by
  refine ⟨h.home, fun spot => ?_⟩
  rcases h.seen spot with hsame | ⟨hnone, hfolder, n, hplace⟩
  · exact .inl hsame
  · exact .inr ⟨hnone, hfolder, n + 1, hplace⟩

theorem trans (h : Paves p first second) (h' : Paves p second third) : Paves p first third := by
  refine ⟨h'.home.trans h.home, fun spot => ?_⟩
  rcases h.seen spot with hsame | ⟨hnone, hfolder, n, hplace⟩
  · rw [← hsame]
    exact h'.seen spot
  · exact .inr ⟨hnone, h'.toExtends.seen spot none hfolder, n, h'.toExtends.place hplace⟩

end Paves

theorem paves_of_makeFolder {disk after : Disk} {p : Path} (h : disk.makeFolder p = .ok after) :
    Paves p disk after := by
  obtain ⟨spot, hplace, hnone, hhome, hseen⟩ := seen_of_makeFolder h
  refine ⟨hhome, fun other => ?_⟩
  by_cases hother : other = spot
  · subst hother
    refine .inr ⟨hnone, by rw [hseen, if_pos rfl], 0, place_of_folders hhome ?_ hplace⟩
    intro folder hfolder
    have hne : folder ≠ other := by
      rintro rfl
      simp [hnone] at hfolder
    rw [hseen, if_neg hne, hfolder]
  · exact .inl (by rw [hseen, if_neg hother])

@[simp] theorem toleratePresent_snd (disk : Disk) (p : Path) (e : DiskError) :
    (disk.toleratePresent p e).2 = disk := by
  unfold toleratePresent
  split <;> rfl

-- Whether it succeeds or not, making folders takes nothing away.
theorem paves_makeFoldersUpTo (fuel : Nat) (disk : Disk) (p : Path) :
    Paves p disk (makeFoldersUpTo fuel disk p).2 := by
  induction fuel generalizing disk p with
  | zero =>
    unfold makeFoldersUpTo
    split
    · next after h => exact paves_of_makeFolder h
    · split_ifs
      · rw [toleratePresent_snd]
        exact .refl p disk
      · exact .refl p disk
      · exact .refl p disk
  | succ fuel ih =>
    unfold makeFoldersUpTo
    split
    · next after h => exact paves_of_makeFolder h
    · split_ifs
      · rw [toleratePresent_snd]
        exact .refl p disk
      · exact .refl p disk
      · have hparent := (ih disk p.parent).of_parent
        simp only
        split
        · next e above h =>
          rw [h] at hparent
          exact hparent
        · next above h =>
          rw [h] at hparent
          split
          · next after hmake => exact hparent.trans (paves_of_makeFolder hmake)
          · split_ifs
            · exact hparent
            · rw [toleratePresent_snd]
              exact hparent

theorem paves_makeFolders (disk : Disk) (p : Path) : Paves p disk (disk.makeFolders p).2 :=
  paves_makeFoldersUpTo _ disk p

theorem extends_makeFolders (disk : Disk) (p : Path) : Extends disk (disk.makeFolders p).2 :=
  (paves_makeFolders disk p).toExtends

-- Removing a file changes nothing elsewhere.
theorem seen_of_unlink {disk after : Disk} {p : Path} (h : disk.unlink p = .ok after) :
    ∃ spot, disk.place p = .ok spot ∧ disk.tree.seen spot ≠ some none ∧
      after.home = disk.home ∧
      ∀ other, other ≠ spot → after.tree.seen other = disk.tree.seen other := by
  unfold unlink at h
  cases hplace : disk.place p with
  | error e => simp [hplace] at h
  | ok spot =>
    simp only [hplace] at h
    cases hfind : disk.tree.find? spot with
    | none => simp [hfind] at h
    | some node =>
      cases node with
      | folder entries => simp [hfind] at h
      | file content =>
        simp only [hfind, Except.ok.injEq] at h
        subst h
        have hfile := (Node.find?_isFile_iff _ _ _).mp hfind
        refine ⟨spot, rfl, by simp [hfile], rfl, fun other hne => ?_⟩
        cases reachable_of_place hplace with
        | inl hroot =>
          subst hroot
          cases disk.tree <;> rfl
        | inr hinner =>
          obtain ⟨here, name, rfl, -⟩ := hinner
          rw [Node.seen_erase_file _ _ _ _ _ hfile, if_neg hne]

-- No folder stands where a file was removed.
theorem bare_of_unlink {disk after : Disk} {p : Path} {spot : List Text}
    (h : disk.unlink p = .ok after) (hplace : disk.place p = .ok spot) :
    after.tree.seen spot ≠ some none := by
  simp only [unlink, hplace] at h
  cases hfind : disk.tree.find? spot with
  | none => simp [hfind] at h
  | some node =>
    cases node with
    | folder entries => simp [hfind] at h
    | file content =>
      simp only [hfind, Except.ok.injEq] at h
      subst h
      have hfile := (Node.find?_isFile_iff _ _ _).mp hfind
      cases reachable_of_place hplace with
      | inl hroot =>
        subst hroot
        cases htree : disk.tree with
        | file old => simp [Node.erase]
        | folder entries => simp [htree] at hfile
      | inr hinner =>
        obtain ⟨here, name, rfl, -⟩ := hinner
        rw [Node.seen_erase_file _ _ _ _ _ hfile, if_pos rfl]
        simp

end Ghostwriter.Disk

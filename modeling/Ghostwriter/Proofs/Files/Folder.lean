import Ghostwriter.Proofs.Files.Place

/-!
Names in a folder. Different names have different places, and writing under one of them changes
nothing under another one.
-/

namespace Ghostwriter.Disk

open Ghostwriter.Text

-- A path to a name in a folder, from the working directory on. The working directory itself may
-- stand under that name in a folder above it.
theorem fromHome?_child (disk : Disk) (folder : Path) (name : Text) :
    disk.fromHome? (folder.child name) =
      match disk.fromHome? folder with
      | some names => some (names ++ [name])
      | none =>
        if (Path.ofText disk.home).root = folder.root ∧
            (Path.ofText disk.home).parts = folder.parts ++ [name] then some []
        else none := by
  by_cases hroot : folder.root = .relative
  · simp [fromHome?, Path.child, hroot]
  by_cases hsame : (Path.ofText disk.home).root = folder.root
  · by_cases hinside : (Path.ofText disk.home).parts <+: folder.parts
    · have hinside' : (Path.ofText disk.home).parts <+: folder.parts ++ [name] :=
        hinside.trans (List.prefix_append _ _)
      simp [fromHome?, Path.child, hroot, hsame, hinside, hinside',
        List.drop_append_of_le_length hinside.length_le]
    · by_cases hhome : (Path.ofText disk.home).parts = folder.parts ++ [name]
      · have hnot : ¬ folder.parts ++ [name] <+: folder.parts := by
          intro h
          have hlength := h.length_le
          simp only [List.length_append, List.length_singleton] at hlength
          omega
        simp [fromHome?, Path.child, hroot, hsame, hhome, hnot]
      · have hinside' : ¬ (Path.ofText disk.home).parts <+: folder.parts ++ [name] := by
          rw [List.prefix_concat_iff]
          simp [hhome, hinside]
        simp [fromHome?, Path.child, hroot, hsame, hinside, hinside', hhome]
  · simp [fromHome?, Path.child, hroot, hsame]

-- A path that leads to a folder.
def LeadsTo (disk : Disk) (folder : Path) (there : List Text) : Prop :=
  ∃ names, disk.fromHome? folder = some names ∧ walk disk.tree [] names = .ok there ∧
    disk.tree.seen there = some none

theorem LeadsTo.of_folders {old new : Disk} {folder : Path} {there : List Text}
    (hhome : new.home = old.home)
    (hfolders : ∀ spot, old.tree.seen spot = some none → new.tree.seen spot = some none)
    (h : LeadsTo old folder there) : LeadsTo new folder there := by
  obtain ⟨names, hnames, hwalk, hthere⟩ := h
  exact ⟨names, by rw [fromHome?_of_home hhome, hnames], walk_of_folders hfolders hwalk,
    hfolders there hthere⟩

-- In a folder only the length of a name decides whether it has a place.
theorem LeadsTo.place_child {disk : Disk} {folder : Path} {there : List Text} {name : Text}
    (h : LeadsTo disk folder there) (hname : name ≠ upward) :
    disk.place (folder.child name) =
      if maxPath < (encode (folder.child name).toText).length ∨ maxName < (encode name).length then
        .error ⟨.nameTooLong, folder.child name⟩
      else .ok (there ++ [name]) := by
  obtain ⟨names, hnames, hwalk, hthere⟩ := h
  have hstep : walk disk.tree [] (names ++ [name]) =
      if maxName < (encode name).length then .error .nameTooLong else .ok (there ++ [name]) := by
    rw [walk_append, hwalk]
    simp only
    rw [walk_cons, List.reverse_reverse, hthere]
    simp [hname, walk]
  unfold place
  rw [fromHome?_child, hnames]
  simp only [hstep]
  by_cases hpath : maxPath < (encode (folder.child name).toText).length
  · rw [if_pos hpath, if_pos (.inl hpath)]
  rw [if_neg hpath]
  by_cases hlong : maxName < (encode name).length
  · rw [if_pos hlong, if_pos (.inr hlong)]
    rfl
  · rw [if_neg hlong, if_neg (by simp [hpath, hlong])]
    rfl

-- What stands under a name in a folder stands in a folder, unless it is the working directory.
theorem leadsTo_of_place_child {disk : Disk} {folder : Path} {name : Text} {spot : List Text}
    (hname : name ≠ upward) (h : disk.place (folder.child name) = .ok spot) :
    (∃ there, LeadsTo disk folder there ∧ spot = there ++ [name]) ∨
      (disk.fromHome? folder = none ∧ (Path.ofText disk.home).parts = folder.parts ++ [name] ∧
        spot = []) := by
  obtain ⟨-, path, hpath, hwalk⟩ := (place_eq_ok_iff _ _ _).mp h
  rw [fromHome?_child] at hpath
  cases hfolder : disk.fromHome? folder with
  | none =>
    simp only [hfolder] at hpath
    split_ifs at hpath with hself
    simp only [Option.some.injEq] at hpath
    subst hpath
    exact .inr ⟨rfl, hself.2, by simpa [walk] using hwalk.symm⟩
  | some names =>
    simp only [hfolder, Option.some.injEq] at hpath
    subst hpath
    rw [walk_append] at hwalk
    cases hthere : walk disk.tree [] names with
    | error e => simp [hthere] at hwalk
    | ok there =>
      simp only [hthere] at hwalk
      rw [walk_cons, List.reverse_reverse] at hwalk
      cases hwhat : disk.tree.seen there with
      | none => simp [hwhat] at hwalk
      | some what =>
        cases what with
        | some old => simp [hwhat] at hwalk
        | none =>
          simp only [hwhat, hname, if_false] at hwalk
          split_ifs at hwalk
          exact .inl ⟨there, ⟨names, hfolder, hthere, hwhat⟩, by simpa [walk] using hwalk.symm⟩

-- Different names in a folder have different places.
theorem place_child_ne {disk : Disk} {folder : Path} {name other : Text} {spot : List Text}
    (hname : name ≠ upward) (hother : other ≠ upward) (hne : other ≠ name)
    (h : disk.place (folder.child name) = .ok spot) :
    disk.place (folder.child other) ≠ .ok spot := by
  intro h'
  cases leadsTo_of_place_child hname h with
  | inl hinside =>
    obtain ⟨there, hthere, rfl⟩ := hinside
    rw [hthere.place_child hother] at h'
    split_ifs at h'
    simp [hne] at h'
  | inr hself =>
    obtain ⟨hfolder, hparts, rfl⟩ := hself
    obtain ⟨-, path, hpath, -⟩ := (place_eq_ok_iff _ _ _).mp h'
    rw [fromHome?_child, hfolder] at hpath
    simp [hparts, Ne.symm hne] at hpath

-- A file that stays where it was, while something changes at another place.
theorem contents_of_seen {old new : Disk} {p : Path} {content : Bytes} {spot : List Text}
    (hhome : new.home = old.home) (hfree : old.tree.seen spot ≠ some none)
    (hseen : ∀ other, other ≠ spot → new.tree.seen other = old.tree.seen other)
    (helsewhere : old.place p ≠ .ok spot) (h : old.contents p = .ok content) :
    new.contents p = .ok content := by
  rw [contents_eq_ok_iff] at h ⊢
  obtain ⟨place, hplace, hfile⟩ := h
  have hne : place ≠ spot := by
    rintro rfl
    exact helsewhere hplace
  refine ⟨place, place_of_folders hhome (fun q hq => ?_) hplace, by rw [hseen _ hne, hfile]⟩
  have hq' : q ≠ spot := by
    rintro rfl
    exact hfree hq
  rw [hseen _ hq', hq]

-- Writing a file changes nothing under another name in its folder.
theorem contents_of_writeFile_child {disk after : Disk} {folder : Path} {name other : Text}
    {content : Bytes} (hname : name ≠ upward) (hother : other ≠ upward) (hne : other ≠ name)
    (h : disk.writeFile (folder.child name) content = .ok after) :
    after.contents (folder.child other) = disk.contents (folder.child other) := by
  obtain ⟨spot, hplace, -, hhome, hseen⟩ := seen_of_writeFile h
  rw [contents_eq, contents_eq]
  cases leadsTo_of_place_child hname hplace with
  | inl hinside =>
    obtain ⟨there, hthere, rfl⟩ := hinside
    have hlater := hthere.of_folders hhome fun _ => folders_of_writeFile h
    rw [hthere.place_child hother, hlater.place_child hother]
    split_ifs
    · rfl
    · simp only
      rw [hseen, if_neg (by simpa using hne)]
  | inr hself =>
    obtain ⟨hfolder, hparts, rfl⟩ := hself
    have hnone (d : Disk) (hd : d.home = disk.home) : d.fromHome? (folder.child other) = none := by
      rw [fromHome?_of_home hd, fromHome?_child, hfolder]
      simp [hparts, Ne.symm hne]
    unfold place
    rw [hnone disk rfl, hnone after hhome]
    split_ifs <;> rfl

-- Outside of the working directory no folder is made.
theorem makeFoldersUpTo_of_outside {disk : Disk} {p : Path} (h : disk.fromHome? p = none)
    (fuel : Nat) : (makeFoldersUpTo fuel disk p).2 = disk := by
  have hmake (q : Path) (hq : disk.fromHome? q = none) : ∃ e, disk.makeFolder q = .error e := by
    unfold makeFolder place
    rw [hq]
    split_ifs <;> exact ⟨_, rfl⟩
  have hparent (q : Path) (hq : disk.fromHome? q = none) : disk.fromHome? q.parent = none := by
    unfold fromHome? at hq
    simp only at hq
    split_ifs at hq with hroot houtside
    show disk.fromHome? ⟨q.root, q.parts.dropLast⟩ = none
    unfold fromHome?
    rw [if_neg hroot]
    refine if_neg ?_
    intro hinside
    simp only [Bool.and_eq_true, List.isPrefixOf_iff_prefix] at houtside hinside
    exact houtside ⟨hinside.1, hinside.2.trans (List.dropLast_prefix _)⟩
  induction fuel generalizing p with
  | zero =>
    obtain ⟨e, he⟩ := hmake p h
    unfold makeFoldersUpTo
    simp only [he]
    split_ifs <;> simp
  | succ fuel ih =>
    obtain ⟨e, he⟩ := hmake p h
    have habove := ih (hparent p h)
    unfold makeFoldersUpTo
    simp only [he]
    split_ifs
    · simp
    · rfl
    · cases hmade : makeFoldersUpTo fuel disk p.parent with
      | mk problem after =>
        rw [hmade] at habove
        simp only at habove
        subst habove
        cases problem with
        | some e' => rfl
        | none =>
          simp only [he]
          split_ifs <;> simp

theorem makeFolders_of_leadsTo {disk : Disk} {folder : Path} {there : List Text}
    (h : LeadsTo disk folder there) : (disk.makeFolders folder).2 = disk := by
  obtain ⟨names, hnames, hwalk, hthere⟩ := h
  have hmake : ∃ e, disk.makeFolder folder = .error e ∧ e.problem ≠ .missing := by
    obtain ⟨entries, hfind⟩ := (Node.find?_isFolder_iff _ _).mpr hthere
    unfold makeFolder place
    rw [hnames]
    split_ifs
    · exact ⟨_, rfl, by simp⟩
    · simp [hwalk, Except.mapError, hfind]
  obtain ⟨e, he, hproblem⟩ := hmake
  unfold makeFolders
  cases folder.parts.length <;>
  · unfold makeFoldersUpTo
    simp [he, hproblem]

theorem LeadsTo.isFolder {disk : Disk} {folder : Path} {there : List Text}
    (h : LeadsTo disk folder there) (hplace : disk.place folder = .ok there) :
    disk.isFolder folder = .ok true := by
  obtain ⟨-, -, -, hthere⟩ := h
  obtain ⟨entries, hfind⟩ := (Node.find?_isFolder_iff _ _).mpr hthere
  simp [Disk.isFolder, ask, stat, hplace, hfind, Node.isFolder]

-- Making a folder that is there is no failure.
theorem LeadsTo.makeFoldersUpTo {disk : Disk} {folder : Path} {there : List Text}
    (h : LeadsTo disk folder there) (hplace : disk.place folder = .ok there) (fuel : Nat) :
    Disk.makeFoldersUpTo fuel disk folder = (none, disk) := by
  have hfolder := h.isFolder hplace
  obtain ⟨-, -, -, hthere⟩ := h
  obtain ⟨entries, hfind⟩ := (Node.find?_isFolder_iff _ _).mpr hthere
  have hmake : disk.makeFolder folder = .error ⟨.alreadyThere, folder⟩ := by
    simp [makeFolder, hplace, hfind]
  cases fuel <;>
  · unfold Disk.makeFoldersUpTo
    simp [hmake, toleratePresent, hfolder]

theorem LeadsTo.makeFolders {disk : Disk} {folder : Path} {there : List Text}
    (h : LeadsTo disk folder there) (hplace : disk.place folder = .ok there) :
    disk.makeFolders folder = (none, disk) :=
  h.makeFoldersUpTo hplace _

-- Where a name has a place in a folder, making the folder changes nothing.
theorem makeFolders_of_place_child {disk : Disk} {folder : Path} {name : Text}
    {spot : List Text} (hname : name ≠ upward) (h : disk.place (folder.child name) = .ok spot) :
    (disk.makeFolders folder).2 = disk := by
  cases leadsTo_of_place_child hname h with
  | inl hinside =>
    obtain ⟨there, hthere, -⟩ := hinside
    exact makeFolders_of_leadsTo hthere
  | inr hself => exact makeFoldersUpTo_of_outside hself.1 _

theorem leadsTo_of_isFolder {disk : Disk} {p : Path} (h : disk.isFolder p = .ok true) :
    ∃ there, LeadsTo disk p there := by
  unfold isFolder ask stat at h
  cases hplace : disk.place p with
  | error e =>
    simp only [hplace] at h
    split_ifs at h
    cases h
  | ok there =>
    obtain ⟨-, names, hnames, hwalk⟩ := (place_eq_ok_iff _ _ _).mp hplace
    cases hfind : disk.tree.find? there with
    | none => simp [hplace, hfind] at h
    | some node =>
      cases node with
      | file content => simp [hplace, hfind, Node.isFolder] at h
      | folder entries =>
        exact ⟨there, names, hnames, hwalk, (Node.find?_isFolder_iff _ _).mp ⟨entries, hfind⟩⟩

-- A folder that can be made is there already, or nothing is there.
theorem leadsTo_or_missing {disk : Disk} {p : Path} (h : (disk.makeFolders p).1 = none) :
    (∃ there, LeadsTo disk p there) ∨ disk.stat p = .error ⟨.missing, p⟩ := by
  have hmake : (∃ after, disk.makeFolder p = .ok after) ∨
      (∃ e, disk.makeFolder p = .error e ∧ e.problem = .missing) ∨ disk.isFolder p = .ok true := by
    unfold makeFolders at h
    cases hmake : disk.makeFolder p with
    | ok after => exact .inl ⟨after, rfl⟩
    | error e =>
      by_cases hmissing : e.problem = .missing
      · exact .inr (.inl ⟨e, rfl, hmissing⟩)
      · refine .inr (.inr ?_)
        cases p.parts.length <;>
        · unfold makeFoldersUpTo at h
          simp only [hmake, ne_eq, hmissing, not_false_eq_true, if_true, toleratePresent] at h
          split at h
          · assumption
          · cases h
  unfold makeFolder at hmake
  unfold stat
  rcases hmake with ⟨after, hmake⟩ | ⟨e, hmake, hmissing⟩ | hfolder
  · refine .inr ?_
    cases hplace : disk.place p with
    | error e => simp [hplace] at hmake
    | ok spot =>
      cases hfind : disk.tree.find? spot with
      | some node => simp [hplace, hfind] at hmake
      | none => simp [hfind]
  · refine .inr ?_
    cases hplace : disk.place p with
    | error e' =>
      simp only [hplace, Except.error.injEq] at hmake
      subst hmake
      rw [← hmissing, ← path_of_place hplace]
    | ok spot =>
      cases hfind : disk.tree.find? spot with
      | some node =>
        simp only [hplace, hfind, Except.error.injEq] at hmake
        subst hmake
        cases hmissing
      | none => simp [hplace, hfind] at hmake
  · exact .inl (leadsTo_of_isFolder hfolder)

-- Nothing stands below a folder that is not there.
theorem place_child_of_missing {disk : Disk} {folder : Path} {name : Text} {names : List Text}
    (hnames : disk.fromHome? folder = some names)
    (hfits : (encode (folder.child name).toText).length ≤ maxPath)
    (h : disk.stat folder = .error ⟨.missing, folder⟩) :
    disk.place (folder.child name) = .error ⟨.missing, folder.child name⟩ := by
  have hwalk : walk disk.tree [] (names ++ [name]) = .error .missing := by
    rw [walk_append]
    unfold stat place at h
    rw [hnames] at h
    split_ifs at h
    · cases h
    · cases hwalk : walk disk.tree [] names with
      | error problem => simpa [hwalk, Except.mapError] using h
      | ok spot =>
        simp only [hwalk, Except.mapError] at h
        cases hfind : disk.tree.find? spot with
        | some node => simp [hfind] at h
        | none =>
          simp only
          rw [walk_cons, List.reverse_reverse, (Node.find?_eq_none_iff _ _).mp hfind]
  unfold place
  rw [if_neg (by omega), fromHome?_child, hnames]
  simp [hwalk, Except.mapError]

-- Where there are no files, a path of short names leads to a place or to where something is missing.
theorem walk_of_no_file {tree : Node} {here names : List Text}
    (hfree : ∀ spot content, tree.seen spot ≠ some (some content))
    (hnames : ∀ name ∈ names, name ≠ upward ∧ (encode name).length ≤ maxName) :
    walk tree here names = .ok (here.reverse ++ names) ∨ walk tree here names = .error .missing := by
  induction names generalizing here with
  | nil => simp [walk]
  | cons name names ih =>
    obtain ⟨⟨hname, hshort⟩, hnames⟩ := List.forall_mem_cons.mp hnames
    rw [walk_cons]
    cases hseen : tree.seen here.reverse with
    | none => exact .inr rfl
    | some what =>
      cases what with
      | some content => exact absurd hseen (hfree _ _)
      | none =>
        simp only [hname, if_false, if_neg (Nat.not_lt.mpr hshort)]
        simpa using @ih (name :: here) hnames

-- In a folder without a file of that name a folder can be made, or there is one.
theorem LeadsTo.makeFolder_child {disk : Disk} {folder : Path} {there : List Text} {name : Text}
    (h : LeadsTo disk folder there) (hname : name ≠ upward)
    (hfits : (encode (folder.child name).toText).length ≤ maxPath)
    (hshort : (encode name).length ≤ maxName)
    (hfree : ∀ content, disk.tree.seen (there ++ [name]) ≠ some (some content)) :
    ∃ after, LeadsTo after (folder.child name) (there ++ [name]) ∧
      (disk.makeFolder (folder.child name) = .ok after ∨ disk.makeFolder (folder.child name) =
        .error ⟨.alreadyThere, folder.child name⟩ ∧ disk.isFolder (folder.child name) = .ok true ∧
          after = disk) := by
  have hplace : disk.place (folder.child name) = .ok (there ++ [name]) := by
    rw [h.place_child hname, if_neg (by omega)]
  obtain ⟨-, names, hnames, hwalk⟩ := (place_eq_ok_iff _ _ _).mp hplace
  cases hseen : disk.tree.seen (there ++ [name]) with
  | none =>
    obtain ⟨after, hmake⟩ : ∃ after, disk.makeFolder (folder.child name) = .ok after := by
      simp [makeFolder, hplace, (Node.find?_eq_none_iff _ _).mpr hseen]
    obtain ⟨spot, hspot, hnone, hhome, hafter⟩ := seen_of_makeFolder hmake
    obtain rfl := Except.ok.inj (hplace.symm.trans hspot)
    refine ⟨after, ⟨names, by rw [fromHome?_of_home hhome, hnames],
      walk_of_folders (fun other hother => ?_) hwalk, by rw [hafter, if_pos rfl]⟩, .inl hmake⟩
    rw [hafter, hother, ite_self]
  | some what =>
    cases what with
    | some content => exact absurd hseen (hfree content)
    | none =>
      have hleads : LeadsTo disk (folder.child name) (there ++ [name]) :=
        ⟨names, hnames, hwalk, hseen⟩
      obtain ⟨entries, hfind⟩ := (Node.find?_isFolder_iff _ _).mpr hseen
      exact ⟨disk, hleads, .inr ⟨by simp [makeFolder, hplace, hfind], hleads.isFolder hplace, rfl⟩⟩

-- Where there are no files, any folder can be made whose path and names are short enough.
theorem makeFoldersUpTo_of_no_file {disk : Disk} {names : List Text} {fuel : Nat}
    (hroot : disk.tree.seen [] = some none)
    (hfree : ∀ spot content, disk.tree.seen spot ≠ some (some content))
    (hnames : ∀ name ∈ names, name ≠ upward ∧ (encode name).length ≤ maxName)
    (hfits : ∀ before, before <+: names →
      (encode (Path.toText ⟨.relative, before⟩)).length ≤ maxPath) (hfuel : names.length ≤ fuel) :
    ∃ after, makeFoldersUpTo fuel disk ⟨.relative, names⟩ = (none, after) ∧
      LeadsTo after ⟨.relative, names⟩ names := by
  induction names using List.reverseRecOn generalizing fuel with
  | nil =>
    have hleads : LeadsTo disk ⟨.relative, []⟩ [] := ⟨[], rfl, rfl, hroot⟩
    have hplace : disk.place ⟨.relative, []⟩ = .ok [] :=
      (place_eq_ok_iff _ _ _).mpr ⟨hfits [] List.nil_prefix, [], rfl, rfl⟩
    exact ⟨disk, hleads.makeFoldersUpTo hplace fuel, hleads⟩
  | append_singleton names name ih =>
    rw [List.forall_mem_append, List.forall_mem_singleton] at hnames
    obtain ⟨hnames, hname, hshort⟩ := hnames
    have hpath := hfits _ List.prefix_rfl
    have hchild : (⟨.relative, names ++ [name]⟩ : Path) = Path.child ⟨.relative, names⟩ name := rfl
    rw [hchild] at hpath ⊢
    by_cases hthere : LeadsTo disk ⟨.relative, names⟩ names
    · obtain ⟨after, hafter, hmake⟩ := hthere.makeFolder_child hname hpath hshort (hfree _)
      refine ⟨after, ?_, hafter⟩
      rcases hmake with hmake | ⟨hmake, hfolder, rfl⟩
      · cases fuel <;> simp [makeFoldersUpTo, hmake]
      · cases fuel <;> simp [makeFoldersUpTo, hmake, toleratePresent, hfolder]
    -- the folders above are made first
    have hmissing : disk.makeFolder (Path.child ⟨.relative, names⟩ name) =
        .error ⟨.missing, Path.child ⟨.relative, names⟩ name⟩ := by
      have hwalk : walk disk.tree [] (names ++ [name]) = .error .missing := by
        rw [walk_append]
        rcases @walk_of_no_file disk.tree [] names hfree hnames with hwalk | hwalk
        · rw [hwalk]
          simp only [List.reverse_nil, List.nil_append]
          rw [walk_cons, List.reverse_reverse]
          cases hseen : disk.tree.seen names with
          | none => rfl
          | some what =>
            cases what with
            | some content => exact absurd hseen (hfree names content)
            | none => exact absurd ⟨names, rfl, hwalk, hseen⟩ hthere
        · rw [hwalk]
      have hnames : disk.fromHome? (Path.child ⟨.relative, names⟩ name) = some (names ++ [name]) :=
        rfl
      unfold makeFolder place
      rw [if_neg (Nat.not_lt.mpr hpath), hnames]
      simp [hwalk, Except.mapError]
    obtain ⟨fuel, rfl⟩ : ∃ n, fuel = n + 1 := by
      rw [List.length_append, List.length_singleton] at hfuel
      exact ⟨fuel - 1, by omega⟩
    obtain ⟨next, hnext, hleads⟩ := @ih fuel hnames
      (fun before hbefore => hfits before (hbefore.trans (List.prefix_append _ _)))
      (by simpa using hfuel)
    have hextends := (paves_makeFoldersUpTo fuel disk ⟨.relative, names⟩).toExtends
    rw [hnext] at hextends
    obtain ⟨after, hafter, hmake⟩ := hleads.makeFolder_child hname hpath hshort
      fun content hfile => hfree _ content (hextends.files _ _ hfile)
    have hparent : (Path.child ⟨.relative, names⟩ name).parent = ⟨.relative, names⟩ := by
      simp [Path.child, Path.parent]
    have hne : (⟨.relative, names⟩ : Path) ≠ Path.child ⟨.relative, names⟩ name := by
      simp [Path.child]
    refine ⟨after, ?_, hafter⟩
    rw [makeFoldersUpTo, hmissing]
    simp only [hparent, hne, hnext, if_false, ne_eq, not_true_eq_false]
    rcases hmake with hmake | ⟨hmake, hfolder, rfl⟩
    · simp [hmake]
    · simp [hmake, toleratePresent, hfolder]

end Ghostwriter.Disk

import Ghostwriter.Proofs.Cache.Record

/-!
Twins: disks that differ at most in what is kept under one key. No other record tells them apart,
and storing the same text under another key leaves them twins.
-/

namespace Ghostwriter

open Ghostwriter.Text

namespace Disk

-- Disks that differ at most in the content of one file.
structure SameBut (spot : List Text) (disk twin : Disk) : Prop where
  home : twin.home = disk.home
  elsewhere : ∀ other, other ≠ spot → twin.tree.seen other = disk.tree.seen other
  file : ∃ content, disk.tree.seen spot = some (some content)
  fileOfTwin : ∃ content, twin.tree.seen spot = some (some content)

variable {spot : List Text} {disk twin : Disk}

-- A walk does not look into files.
theorem walk_eq_of_kinds {old new : Node}
    (hkinds : ∀ q, (new.seen q).map Option.isSome = (old.seen q).map Option.isSome)
    (here names : List Text) : walk new here names = walk old here names := by
  induction names generalizing here with
  | nil => simp [walk]
  | cons name rest ih =>
    have hkind := hkinds here.reverse
    rw [walk_cons, walk_cons]
    cases hnew : new.seen here.reverse with
    | none =>
      rw [hnew] at hkind
      rw [Option.map_eq_none_iff.mp hkind.symm]
    | some what =>
      cases hold : old.seen here.reverse with
      | none => simp [hnew, hold] at hkind
      | some what' =>
        simp only [hnew, hold, Option.map_some, Option.some.injEq] at hkind
        cases what with
        | some content =>
          obtain ⟨content', rfl⟩ := Option.isSome_iff_exists.mp hkind.symm
          rfl
        | none =>
          obtain rfl : what' = none := by simpa using hkind.symm
          simp only
          split_ifs
          · cases here with
            | nil => rfl
            | cons _ above => exact ih above
          · rfl
          · exact ih (name :: here)

theorem SameBut.kinds (h : SameBut spot disk twin) (q : List Text) :
    (twin.tree.seen q).map Option.isSome = (disk.tree.seen q).map Option.isSome := by
  by_cases hq : q = spot
  · obtain ⟨content, hfile⟩ := h.file
    obtain ⟨content', hfile'⟩ := h.fileOfTwin
    rw [hq, hfile, hfile']
    rfl
  · rw [h.elsewhere q hq]

theorem SameBut.place (h : SameBut spot disk twin) (p : Path) : twin.place p = disk.place p := by
  unfold Disk.place
  rw [fromHome?_of_home h.home]
  simp only [walk_eq_of_kinds h.kinds]

theorem SameBut.contents (h : SameBut spot disk twin) {p : Path}
    (hp : disk.place p ≠ .ok spot) : twin.contents p = disk.contents p := by
  rw [contents_eq, contents_eq, h.place]
  cases hplace : disk.place p with
  | error e => rfl
  | ok place =>
    have hne : place ≠ spot := by
      rintro rfl
      exact hp hplace
    simp only [h.elsewhere place hne]

-- Writing a file moves no path.
theorem place_of_writeFile {p q : Path} {content : Bytes} {after : Disk}
    (hwrite : disk.writeFile p content = .ok after) (hplace : disk.place q = .ok spot) :
    after.place q = .ok spot := by
  obtain ⟨place, -, hfree, hhome, hseen⟩ := seen_of_writeFile hwrite
  refine place_of_folders hhome (fun other hfolder => ?_) hplace
  have hne : other ≠ place := by
    rintro rfl
    exact hfree hfolder
  rw [hseen, if_neg hne, hfolder]

theorem SameBut.writeFile (h : SameBut spot disk twin) {p : Path} {content : Bytes}
    {after after' : Disk} (hp : disk.place p ≠ .ok spot)
    (hwrite : disk.writeFile p content = .ok after)
    (hwrite' : twin.writeFile p content = .ok after') : SameBut spot after after' := by
  obtain ⟨place, hplace, -, hhome, hseen⟩ := seen_of_writeFile hwrite
  obtain ⟨place', hplace', -, hhome', hseen'⟩ := seen_of_writeFile hwrite'
  rw [h.place, hplace] at hplace'
  obtain rfl := Except.ok.inj hplace'
  have hne : spot ≠ place := by
    rintro rfl
    exact hp hplace
  refine ⟨by rw [hhome', h.home, hhome], fun other hother => ?_, ?_, ?_⟩
  · rw [hseen, hseen', h.elsewhere other hother]
  · simpa only [hseen, if_neg hne] using h.file
  · simpa only [hseen', if_neg hne] using h.fileOfTwin

-- Two contents for one file.
theorem sameBut_of_writeFile {p : Path} {content content' : Bytes} {after after' : Disk}
    (hwrite : disk.writeFile p content = .ok after)
    (hwrite' : disk.writeFile p content' = .ok after') :
    ∃ spot, disk.place p = .ok spot ∧ SameBut spot after after' := by
  obtain ⟨spot, hplace, -, hhome, hseen⟩ := seen_of_writeFile hwrite
  obtain ⟨_, hagain, -, hhome', hseen'⟩ := seen_of_writeFile hwrite'
  obtain rfl := Except.ok.inj (hplace.symm.trans hagain)
  refine ⟨spot, hplace, by rw [hhome, hhome'], fun other hother => ?_, ⟨content, ?_⟩,
    ⟨content', ?_⟩⟩
  · rw [hseen, hseen', if_neg hother, if_neg hother]
  · rw [hseen, if_pos rfl]
  · rw [hseen', if_pos rfl]

end Disk

namespace Cache

-- Disks that differ at most in the text on record for a key.
def Twins (folder : Path) (key : Text) (disk twin : Disk) : Prop :=
  twin = disk ∨ isKey key ∧ ∃ spot t t', Disk.SameBut spot disk twin ∧
    disk.place (folder.child key) = .ok spot ∧
    record folder disk key = some t ∧ record folder twin key = some t'

variable {folder : Path} {key other t t' : Text} {disk twin : Disk} {p p' : Path}

theorem Twins.eq_of_missing (h : Twins folder key disk twin) (hmissing : Missing folder disk key) :
    twin = disk := by
  obtain rfl | ⟨-, spot, t, t', -, -, hrecord, -⟩ := h
  · rfl
  · rw [record_of_missing hmissing] at hrecord
    cases hrecord

theorem Twins.contents (h : Twins folder key disk twin) (hother : isKey other)
    (hne : other ≠ key) :
    twin.contents (folder.child other) = disk.contents (folder.child other) := by
  obtain rfl | ⟨hkey, spot, t, t', hsame, hplace, -, -⟩ := h
  · rfl
  · exact hsame.contents
      (Disk.place_child_ne (ne_upward_of_isKey hkey) (ne_upward_of_isKey hother) hne hplace)

theorem Twins.record (h : Twins folder key disk twin) (hother : isKey other)
    (hne : other ≠ key) : record folder twin other = record folder disk other := by
  unfold Cache.record
  rw [h.contents hother hne]

-- What is on record for one is on record for the other.
theorem Twins.isSome_record (h : Twins folder key disk twin) (hother : isKey other) :
    (Cache.record folder twin other).isSome = (Cache.record folder disk other).isSome := by
  by_cases hne : other = key
  · subst hne
    obtain rfl | ⟨-, spot, t, t', -, -, hrecord, hrecord'⟩ := h
    · rfl
    · rw [hrecord, hrecord']
      rfl
  · rw [h.record hother hne]

-- Storing succeeds where nothing is kept by making the folder and writing the file.
theorem writeFile_of_store (hkey : isKey key) (hmissing : Missing folder disk key)
    (h : ((ofFolder folder).store disk key t).1 = .ok p) :
    (disk.makeFolders folder).2.writeFile (folder.child key) (encode t) =
      .ok ((ofFolder folder).store disk key t).2.1 := by
  rw [store_of_missing hkey hmissing] at h ⊢
  unfold write at h ⊢
  simp only [ofFolder] at h ⊢
  generalize disk.makeFolders folder = made at h ⊢
  obtain ⟨problem, made⟩ := made
  cases problem with
  | some e => simp at h
  | none =>
    simp only at h ⊢
    cases hwrite : made.writeFile (folder.child key) (encode t) with
    | error e => simp [hwrite] at h
    | ok after => rfl

-- The same text, stored under another key.
theorem Twins.store (h : Twins folder key disk twin) (hother : isKey other)
    (hne : other ≠ key) (hmissing : Missing folder disk other)
    (hstored : ((ofFolder folder).store disk other t).1 = .ok p)
    (hstored' : ((ofFolder folder).store twin other t).1 = .ok p') :
    Twins folder key ((ofFolder folder).store disk other t).2.1
      ((ofFolder folder).store twin other t).2.1 := by
  have hmissing' : Missing folder twin other := by
    obtain ⟨e, he, hproblem⟩ := hmissing
    exact ⟨e, by rw [h.contents hother hne, he], hproblem⟩
  obtain rfl | ⟨hkey, spot, s, s', hsame, hplace, hrecord, hrecord'⟩ := h
  · exact .inl rfl
  · have hup := ne_upward_of_isKey hkey
    have hwrite := writeFile_of_store hother hmissing hstored
    have hwrite' := writeFile_of_store hother hmissing' hstored'
    rw [Disk.makeFolders_of_place_child hup hplace] at hwrite
    rw [Disk.makeFolders_of_place_child hup (by rw [hsame.place, hplace])] at hwrite'
    have hplace' := Disk.place_child_ne hup (ne_upward_of_isKey hother) hne hplace
    exact .inr ⟨hkey, spot, s, s', hsame.writeFile hplace' hwrite hwrite',
      Disk.place_of_writeFile hwrite hplace, record_store_of_record hkey hrecord,
      record_store_of_record hkey hrecord'⟩

-- Different texts, stored under the key itself.
theorem twins_of_store (hkey : isKey key) (hmissing : Missing folder disk key)
    (hstored : ((ofFolder folder).store disk key t).1 = .ok p)
    (hstored' : ((ofFolder folder).store disk key t').1 = .ok p') :
    Twins folder key ((ofFolder folder).store disk key t).2.1
      ((ofFolder folder).store disk key t').2.1 := by
  have hwrite := writeFile_of_store hkey hmissing hstored
  obtain ⟨spot, hplace, hsame⟩ :=
    Disk.sameBut_of_writeFile hwrite (writeFile_of_store hkey hmissing hstored')
  exact .inr ⟨hkey, spot, t, t', hsame, Disk.place_of_writeFile hwrite hplace,
    record_of_store hkey hmissing hstored, record_of_store hkey hmissing hstored'⟩

end Cache

end Ghostwriter

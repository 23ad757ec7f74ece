import Ghostwriter.Cache.Basic
import Ghostwriter.Proofs.Files.Folder
import Ghostwriter.Proofs.Text.Utf8

/-!
Records. The record for a key is the text that its file holds. Storing a text makes a record where
none was and changes no other one; discarding takes away a single one.
-/

namespace Ghostwriter.Cache

open Ghostwriter.Text

-- The text that is kept under a key in a folder.
def record (folder : Path) (disk : Disk) (key : Text) : Option Text :=
  match disk.contents (folder.child key) with
  | .ok content => (decode content).toOption
  | .error _ => none

-- No file stands where the record for a key would be.
def Missing (folder : Path) (disk : Disk) (key : Text) : Prop :=
  ∃ e, disk.contents (folder.child key) = .error e ∧ e.problem = .missing

theorem record_eq_some_iff (folder : Path) (disk : Disk) (key t : Text) :
    record folder disk key = some t ↔
      ∃ content, disk.contents (folder.child key) = .ok content ∧ decode content = .ok t := by
  unfold record
  cases disk.contents (folder.child key) with
  | error e => simp
  | ok content =>
    cases hdecode : decode content <;> simp [Except.toOption, hdecode]

theorem record_of_missing {folder : Path} {disk : Disk} {key : Text}
    (h : Missing folder disk key) : record folder disk key = none := by
  obtain ⟨e, he, -⟩ := h
  simp [record, he]

theorem ne_upward_of_isKey {key : Text} (h : isKey key) : key ≠ Disk.upward := by
  rintro rfl
  simp [isKey, Disk.upward] at h

theorem pathFor_of_isKey (cache : Cache) {key : Text} (h : isKey key) :
    cache.pathFor key = .ok (cache.folder.child key) := by
  simp [pathFor, h]

theorem isKey_of_lookup {cache : Cache} {disk : Disk} {key : Text} {found : Option Text}
    (h : (cache.lookup disk key).1 = .ok found) : isKey key := by
  by_contra hkey
  simp [lookup, pathFor, hkey] at h

@[simp] theorem lookup_folder (cache : Cache) (disk : Disk) (key : Text) :
    (cache.lookup disk key).2.1.folder = cache.folder := by
  unfold lookup
  cases cache.pathFor key with
  | error e => rfl
  | ok p =>
    simp only
    split
    · split_ifs <;> rfl
    · split <;> rfl

theorem lookup_of_record {cache : Cache} {disk : Disk} {key t : Text} (hkey : isKey key)
    (h : record cache.folder disk key = some t) :
    cache.lookup disk key =
      (.ok (some t), { cache with hits := cache.hits + 1 }, [.cacheHit key]) := by
  obtain ⟨content, hcontents, hdecode⟩ := (record_eq_some_iff _ _ _ _).mp h
  simp [lookup, pathFor_of_isKey cache hkey, hcontents, hdecode]

theorem record_of_lookup {cache : Cache} {disk : Disk} {key t : Text}
    (h : (cache.lookup disk key).1 = .ok (some t)) : record cache.folder disk key = some t := by
  have hkey := isKey_of_lookup h
  rw [record_eq_some_iff]
  simp only [lookup, pathFor_of_isKey cache hkey] at h
  cases hcontents : disk.contents (cache.folder.child key) with
  | error e =>
    simp only [hcontents] at h
    split_ifs at h
    simp at h
  | ok content =>
    simp only [hcontents] at h
    cases hdecode : decode content with
    | error e => simp [hdecode] at h
    | ok text =>
      simp only [hdecode, Except.ok.injEq, Option.some.injEq] at h
      exact ⟨content, rfl, by rw [hdecode, h]⟩

theorem missing_of_lookup {cache : Cache} {disk : Disk} {key : Text}
    (h : (cache.lookup disk key).1 = .ok none) : Missing cache.folder disk key := by
  have hkey := isKey_of_lookup h
  simp only [lookup, pathFor_of_isKey cache hkey] at h
  cases hcontents : disk.contents (cache.folder.child key) with
  | error e =>
    simp only [hcontents] at h
    split_ifs at h with hmissing
    exact ⟨e, hcontents, hmissing⟩
  | ok content =>
    simp only [hcontents] at h
    cases hdecode : decode content <;> simp [hdecode] at h

-- Where nothing is kept yet, storing is writing.
theorem store_of_missing {cache : Cache} {disk : Disk} {key : Text} (hkey : isKey key)
    (hmissing : Missing cache.folder disk key) (t : Text) :
    cache.store disk key t = cache.write disk (cache.folder.child key) key t := by
  obtain ⟨e, he, hproblem⟩ := hmissing
  have hexists : disk.pathExists (cache.folder.child key) = .ok false := by
    rw [Disk.contents_eq] at he
    rw [Disk.pathExists_eq]
    cases hplace : disk.place (cache.folder.child key) with
    | error e' =>
      simp only [hplace, Except.error.injEq] at he
      subst he
      simp [hproblem]
    | ok spot =>
      simp only [hplace] at he ⊢
      cases hseen : disk.tree.seen spot with
      | none => rfl
      | some what =>
        cases what with
        | none =>
          simp only [hseen, Except.error.injEq] at he
          subst he
          cases hproblem
        | some content => simp [hseen] at he
  unfold store
  rw [pathFor_of_isKey cache hkey]
  simp only [hexists]

-- What a lookup fails with tells the path of the record.
theorem failure_of_lookup {cache : Cache} {disk : Disk} {key : Text} {failure : Failure}
    (hkey : isKey key) (h : (cache.lookup disk key).1 = .error failure) :
    ∃ reason, failure = Cache.failure (cache.folder.child key) reason := by
  simp only [lookup, pathFor_of_isKey cache hkey] at h
  split at h
  · split_ifs at h
    cases h
    exact ⟨_, rfl⟩
  · split at h
    · cases h
      exact ⟨_, rfl⟩
    · cases h

-- Where nothing is kept, so does what a store fails with.
theorem failure_of_store {cache : Cache} {disk : Disk} {key t : Text} {failure : Failure}
    (hkey : isKey key) (hmissing : Missing cache.folder disk key)
    (h : (cache.store disk key t).1 = .error failure) :
    ∃ reason, failure = Cache.failure (cache.folder.child key) reason := by
  rw [store_of_missing hkey hmissing] at h
  unfold write at h
  split at h
  · cases h
    exact ⟨_, rfl⟩
  · split at h
    · cases h
      exact ⟨_, rfl⟩
    · cases h

theorem pathExists_of_record {folder : Path} {disk : Disk} {key t : Text}
    (h : record folder disk key = some t) : disk.pathExists (folder.child key) = .ok true := by
  obtain ⟨content, hcontents, -⟩ := (record_eq_some_iff _ _ _ _).mp h
  obtain ⟨spot, hplace, hseen⟩ := (Disk.contents_eq_ok_iff _ _ _).mp hcontents
  rw [Disk.pathExists_eq, hplace]
  simp [hseen]

-- What stands at the place of a record is left there.
theorem store_of_pathExists {cache : Cache} {disk : Disk} {key : Text} (hkey : isKey key)
    (h : disk.pathExists (cache.folder.child key) = .ok true) (new : Text) :
    cache.store disk key new = (.ok (cache.folder.child key), disk, [.recordKept key]) := by
  simp only [store, pathFor_of_isKey cache hkey, h]

theorem store_of_exists {cache : Cache} {disk : Disk} {key t : Text} (hkey : isKey key)
    (h : record cache.folder disk key = some t) (new : Text) :
    cache.store disk key new = (.ok (cache.folder.child key), disk, [.recordKept key]) :=
  store_of_pathExists hkey (pathExists_of_record h) new

-- The disk that a store leaves: as it was, with the folder made, or with the text written too.
theorem store_disk_cases (cache : Cache) (disk : Disk) (key t : Text) :
    (cache.store disk key t).2.1 = disk ∨
      (cache.store disk key t).2.1 = (disk.makeFolders cache.folder).2 ∨
      (isKey key ∧ disk.pathExists (cache.folder.child key) = .ok false ∧
        (disk.makeFolders cache.folder).2.writeFile (cache.folder.child key) (encode t) =
          .ok (cache.store disk key t).2.1) := by
  by_cases hkey : isKey key
  · simp only [store, pathFor_of_isKey cache hkey]
    cases hexists : disk.pathExists (cache.folder.child key) with
    | error e => exact .inl rfl
    | ok found =>
      cases found with
      | true => exact .inl rfl
      | false =>
        unfold write
        obtain ⟨problem, made⟩ := disk.makeFolders cache.folder
        cases problem with
        | some e => exact .inr (.inl rfl)
        | none =>
          simp only
          cases hwrite : made.writeFile (cache.folder.child key) (encode t) with
          | error e => exact .inr (.inl rfl)
          | ok after => exact .inr (.inr ⟨hkey, trivial, rfl⟩)
  · exact .inl (by simp [store, pathFor, hkey])

theorem record_of_write {cache : Cache} {disk : Disk} {key t : Text} {p : Path}
    (h : (cache.write disk (cache.folder.child key) key t).1 = .ok p) :
    record cache.folder (cache.write disk (cache.folder.child key) key t).2.1 key = some t := by
  unfold write at h ⊢
  generalize disk.makeFolders cache.folder = made at h ⊢
  obtain ⟨problem, made⟩ := made
  cases problem with
  | some e => simp at h
  | none =>
    simp only at h ⊢
    cases hwrite : made.writeFile (cache.folder.child key) (encode t) with
    | error e => simp [hwrite] at h
    | ok after =>
      rw [record_eq_some_iff]
      exact ⟨encode t, by simpa [hwrite] using Disk.contents_of_writeFile hwrite, decode_encode t⟩

-- A store that succeeds where nothing was kept keeps the text.
theorem record_of_store {cache : Cache} {disk : Disk} {key t : Text} {p : Path}
    (hkey : isKey key) (hmissing : Missing cache.folder disk key)
    (h : (cache.store disk key t).1 = .ok p) :
    record cache.folder (cache.store disk key t).2.1 key = some t := by
  rw [store_of_missing hkey hmissing] at h ⊢
  exact record_of_write h

-- The same where nothing stands at the place of the record.
theorem record_of_store_free {cache : Cache} {disk : Disk} {key t : Text} {p : Path}
    (hkey : isKey key) (hfree : disk.pathExists (cache.folder.child key) ≠ .ok true)
    (h : (cache.store disk key t).1 = .ok p) :
    record cache.folder (cache.store disk key t).2.1 key = some t := by
  unfold store at h ⊢
  rw [pathFor_of_isKey cache hkey] at h ⊢
  cases hexists : disk.pathExists (cache.folder.child key) with
  | error e => simp [hexists] at h
  | ok found =>
    cases found with
    | true => exact absurd hexists hfree
    | false =>
      simp only [hexists] at h ⊢
      exact record_of_write h

-- A store that succeeds where nothing was kept also shows what was waiting for its folder.
theorem record_of_store_ne {cache : Cache} {disk : Disk} {key other t : Text} {p : Path}
    (hkey : isKey key) (hother : isKey other) (hne : other ≠ key)
    (hmissing : Missing cache.folder disk key) (h : (cache.store disk key t).1 = .ok p) :
    record cache.folder (cache.store disk key t).2.1 other =
      record cache.folder (disk.makeFolders cache.folder).2 other := by
  rw [store_of_missing hkey hmissing] at h ⊢
  unfold write at h ⊢
  generalize disk.makeFolders cache.folder = made at h ⊢
  obtain ⟨problem, made⟩ := made
  cases problem with
  | some e => simp at h
  | none =>
    simp only at h ⊢
    cases hwrite : made.writeFile (cache.folder.child key) (encode t) with
    | error e => simp [hwrite] at h
    | ok after =>
      unfold record
      simp only
      rw [Disk.contents_of_writeFile_child (ne_upward_of_isKey hkey) (ne_upward_of_isKey hother)
        hne hwrite]

-- Where there is a record, the folder is there too.
theorem makeFolders_of_record {folder : Path} {disk : Disk} {key t : Text} (hkey : isKey key)
    (h : record folder disk key = some t) : (disk.makeFolders folder).2 = disk := by
  obtain ⟨content, hcontents, -⟩ := (record_eq_some_iff _ _ _ _).mp h
  obtain ⟨spot, hplace, -⟩ := (Disk.contents_eq_ok_iff _ _ _).mp hcontents
  exact Disk.makeFolders_of_place_child (ne_upward_of_isKey hkey) hplace

-- Making the folder of a cache takes no record away.
theorem record_makeFolders {folder : Path} {disk : Disk} {key t : Text}
    (h : record folder disk key = some t) :
    record folder (disk.makeFolders folder).2 key = some t := by
  obtain ⟨content, hcontents, hdecode⟩ := (record_eq_some_iff _ _ _ _).mp h
  have hmade := (Disk.extends_makeFolders disk folder).contents hcontents
  exact (record_eq_some_iff _ _ _ _).mpr ⟨content, hmade, hdecode⟩

-- No store, failing or not, changes a record.
theorem record_store_of_record {cache : Cache} {disk : Disk} {key other t kept : Text}
    (hother : isKey other) (h : record cache.folder disk other = some kept) :
    record cache.folder (cache.store disk key t).2.1 other = some kept := by
  by_cases hsame : other = key
  · subst hsame
    rw [store_of_exists hother h]
    exact h
  · obtain ⟨content, hcontents, hdecode⟩ := (record_eq_some_iff _ _ _ _).mp h
    have hmade := (Disk.extends_makeFolders disk cache.folder).contents hcontents
    rw [record_eq_some_iff]
    refine ⟨content, ?_, hdecode⟩
    rcases store_disk_cases cache disk key t with hdisk | hdisk | ⟨hkey, -, hwrite⟩
    · rw [hdisk]
      exact hcontents
    · rw [hdisk]
      exact hmade
    · rw [Disk.contents_of_writeFile_child (ne_upward_of_isKey hkey) (ne_upward_of_isKey hother)
        hsame hwrite]
      exact hmade

theorem record_discard_of_ne {cache : Cache} {disk : Disk} {key other kept : Text}
    (hother : isKey other) (hne : other ≠ key)
    (h : record cache.folder disk other = some kept) :
    record cache.folder (cache.discard disk key).2.1 other = some kept := by
  by_cases hkey : isKey key
  · simp only [discard, pathFor_of_isKey cache hkey]
    cases hunlink : disk.unlink (cache.folder.child key) with
    | error e =>
      simp only
      split_ifs <;> exact h
    | ok after =>
      obtain ⟨content, hcontents, hdecode⟩ := (record_eq_some_iff _ _ _ _).mp h
      obtain ⟨spot, hplace, hfree, hhome, hseen⟩ := Disk.seen_of_unlink hunlink
      refine (record_eq_some_iff _ _ _ _).mpr ⟨content, ?_, hdecode⟩
      exact Disk.contents_of_seen hhome hfree hseen
        (Disk.place_child_ne (ne_upward_of_isKey hkey) (ne_upward_of_isKey hother) hne hplace)
        hcontents
  · simpa [discard, pathFor, hkey] using h

-- What is found under one key does not depend on the text that is stored under another one.
theorem lookup_store_of_ne (cache : Cache) (disk : Disk) {key other : Text} (hne : other ≠ key)
    (t t' : Text) :
    cache.lookup (cache.store disk key t).2.1 other =
      cache.lookup (cache.store disk key t').2.1 other := by
  by_cases hother : isKey other
  · have hcontents (s : Text) :
        (cache.store disk key s).2.1.contents (cache.folder.child other) =
          if isKey key ∧ disk.pathExists (cache.folder.child key) = .ok false then
            (disk.makeFolders cache.folder).2.contents (cache.folder.child other)
          else disk.contents (cache.folder.child other) := by
      by_cases hkey : isKey key
      · simp only [store, pathFor_of_isKey cache hkey, hkey, true_and]
        cases disk.pathExists (cache.folder.child key) with
        | error e => simp
        | ok found =>
          cases found with
          | true => simp
          | false =>
            unfold write
            obtain ⟨problem, made⟩ := disk.makeFolders cache.folder
            cases problem with
            | some e => simp
            | none =>
              simp only [if_true]
              cases hwrite : made.writeFile (cache.folder.child key) (encode s) with
              | error e => rfl
              | ok after =>
                exact Disk.contents_of_writeFile_child (ne_upward_of_isKey hkey)
                  (ne_upward_of_isKey hother) hne hwrite
      · simp [store, pathFor, hkey]
    simp only [lookup, pathFor_of_isKey cache hother, hcontents]
  · simp [lookup, pathFor, hother]

end Ghostwriter.Cache

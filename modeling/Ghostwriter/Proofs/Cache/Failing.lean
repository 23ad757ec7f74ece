import Ghostwriter.Proofs.Cache.Standing
import Ghostwriter.Proofs.Files.Staging

/-!
Failing operations of a cache. Nothing is lost by them. They tell the path, unless the operating
system cannot even be asked about it because it, or a name in it, is too long.
-/

namespace Ghostwriter

open Ghostwriter.Text

namespace Disk

-- A path that is not too long, and none of whose names is.
structure Fits (p : Path) : Prop where
  path : (encode p.toText).length ≤ maxPath
  names : ∀ name ∈ p.parts, (encode name).length ≤ maxName

variable {disk : Disk} {p : Path} {question : Node → Bool} {e : DiskError}

theorem walk_fits {tree : Node} {here names : List Text}
    (hnames : ∀ name ∈ names, (encode name).length ≤ maxName) :
    walk tree here names ≠ .error .nameTooLong := by
  induction names generalizing here with
  | nil => simp [walk]
  | cons name rest ih =>
    rw [List.forall_mem_cons] at hnames
    rw [walk_cons]
    cases tree.seen here.reverse with
    | none => simp
    | some what =>
      cases what with
      | some content => simp
      | none =>
        simp only
        split_ifs with hup hlong
        · cases here with
          | nil => simp
          | cons _ above => exact ih hnames.2
        · omega
        · exact ih hnames.2

theorem names_fits {names : List Text} (hfits : Fits p) (h : disk.fromHome? p = some names) :
    ∀ name ∈ names, (encode name).length ≤ maxName := by
  unfold fromHome? at h
  simp only at h
  split_ifs at h
  · exact Option.some.inj h ▸ hfits.names
  · rw [← Option.some.inj h]
    exact fun name hmem => hfits.names name (List.mem_of_mem_drop hmem)

theorem place_fits (hfits : Fits p) (h : disk.place p = .error e) : e.problem ≠ .nameTooLong := by
  unfold place at h
  rw [if_neg (by have := hfits.path; omega)] at h
  cases hnames : disk.fromHome? p with
  | none =>
    simp only [hnames, Except.error.injEq] at h
    simp [← h]
  | some names =>
    have hwalk := @walk_fits disk.tree [] names (names_fits hfits hnames)
    cases hcase : walk disk.tree [] names with
    | ok spot => simp [hnames, hcase, Except.mapError] at h
    | error problem =>
      simp only [hnames, hcase, Except.mapError, Except.error.injEq] at h
      rw [← h]
      rintro rfl
      exact hwalk hcase

-- The operating system answers about every path that fits.
theorem ask_fits (disk : Disk) (question : Node → Bool) (hfits : Fits p) :
    ∃ answer, disk.ask p question = .ok answer := by
  unfold ask stat
  cases hplace : disk.place p with
  | error e => exact ⟨false, by simp [place_fits hfits hplace]⟩
  | ok spot =>
    cases hfind : disk.tree.find? spot with
    | none => exact ⟨false, by simp [hfind]⟩
    | some node => exact ⟨question node, by simp [hfind]⟩

end Disk

namespace Cache

-- What an operation on a path fails with tells the path.
def Reports {α : Type} (p : Path) (result : Result α) : Prop :=
  ∀ e, result = .error e → ∃ reason, e = failure p reason

-- A text that is stored by way of a temporary file, with one of some names.
def writeStaged (cache : Cache) (disk : Disk) (names : List Text) (p : Path) (t : Text) :
    Result Path × Disk :=
  match disk.makeFolders cache.folder with
  | (some e, disk) => (.error (failure p e.message), disk)
  | (none, disk) =>
    match disk.createOneOf cache.folder names with
    | .error e => (.error (failure p e.message), disk)
    | .ok (temp, disk) =>
      match disk.fill temp p (encode t) with
      | (none, disk) => (.ok p, disk)
      | (some e, disk) =>
        match disk.removeLeftover temp with
        | .ok disk => (.error (failure p e.message), disk)
        | .error e => (.error (.crash (.disk e)), disk)

def storeStaged (cache : Cache) (disk : Disk) (names : List Text) (key t : Text) :
    Result Path × Disk :=
  match cache.pathFor key with
  | .error e => (.error e, disk)
  | .ok p =>
    match disk.pathExists p with
    | .error e => (.error (.crash (.disk e)), disk)
    | .ok true => (.ok p, disk)
    | .ok false => cache.writeStaged disk names p t

-- A store that fails tells the path of the record, unless the operating system cannot be asked
-- about it. Then only folders are new.
structure Spoils (cache : Cache) (disk : Disk) (key : Text) (failed : Failure) (after : Disk) :
    Prop where
  told : (∃ reason, failed = failure (cache.folder.child key) reason) ∨
    ∃ e, disk.pathExists (cache.folder.child key) = .error e ∧ failed = .crash (.disk e)
  kept : Disk.Extends disk after

section

variable (cache : Cache) (disk : Disk) {key : Text} (t : Text)

theorem reports_lookup (hkey : isKey key) :
    Reports (cache.folder.child key) (cache.lookup disk key).1 :=
  fun _ => failure_of_lookup hkey

theorem reports_discard (hkey : isKey key) :
    Reports (cache.folder.child key) (cache.discard disk key).1 := by
  intro e h
  simp only [discard, pathFor_of_isKey cache hkey] at h
  split at h
  · cases h
  · split_ifs at h
    cases h
    exact ⟨_, rfl⟩

theorem disk_of_discard {failed : Failure} (h : (cache.discard disk key).1 = .error failed) :
    (cache.discard disk key).2.1 = disk := by
  unfold discard at h ⊢
  cases hpath : cache.pathFor key with
  | error e => rfl
  | ok p =>
    simp only [hpath] at h ⊢
    cases hunlink : disk.unlink p with
    | ok after => simp [hunlink] at h
    | error e =>
      simp only
      split_ifs <;> rfl

theorem store_of_unasked (hkey : isKey key) {e : DiskError}
    (h : disk.pathExists (cache.folder.child key) = .error e) :
    cache.store disk key t = (.error (.crash (.disk e)), disk, []) := by
  simp only [store, pathFor_of_isKey cache hkey, h]

theorem spoils_write {p : Path} {failed : Failure} (hp : p = cache.folder.child key)
    (h : (cache.write disk p key t).1 = .error failed) :
    Spoils cache disk key failed (cache.write disk p key t).2.1 := by
  have hextends := Disk.extends_makeFolders disk cache.folder
  subst hp
  unfold write at h ⊢
  generalize disk.makeFolders cache.folder = made at h hextends ⊢
  obtain ⟨problem, made⟩ := made
  cases problem with
  | some e =>
    cases h
    exact ⟨.inl ⟨_, rfl⟩, hextends⟩
  | none =>
    simp only at h hextends ⊢
    cases hwrite : made.writeFile (cache.folder.child key) (encode t) with
    | ok after => simp [hwrite] at h
    | error e =>
      simp only [hwrite] at h ⊢
      cases h
      exact ⟨.inl ⟨_, rfl⟩, hextends⟩

theorem spoils_store (hkey : isKey key) {failed : Failure}
    (h : (cache.store disk key t).1 = .error failed) :
    Spoils cache disk key failed (cache.store disk key t).2.1 := by
  simp only [store, pathFor_of_isKey cache hkey] at h ⊢
  cases hexists : disk.pathExists (cache.folder.child key) with
  | error e =>
    simp only [hexists] at h ⊢
    cases h
    exact ⟨.inr ⟨e, hexists, rfl⟩, .refl disk⟩
  | ok found =>
    simp only [hexists] at h ⊢
    cases found with
    | true => cases h
    | false => exact spoils_write cache disk t rfl h

-- With a temporary file the text is stored just so, or none of the names is free and only the
-- folder is made.
theorem writeStaged_cases (names : List Text) (p : Path) :
    cache.writeStaged disk names p t =
        ((cache.write disk p key t).1, (cache.write disk p key t).2.1) ∨
      ∃ e, cache.writeStaged disk names p t =
        (.error (failure p (DiskError.message e)), (disk.makeFolders cache.folder).2) := by
  unfold writeStaged write
  obtain ⟨problem, made⟩ := disk.makeFolders cache.folder
  cases problem with
  | some e => exact .inl rfl
  | none =>
    simp only
    cases hcreate : made.createOneOf cache.folder names with
    | error e => exact .inr ⟨e, rfl⟩
    | ok found =>
      obtain ⟨temp, created⟩ := found
      have hfill := Disk.fill_of_createOneOf hcreate p (encode t)
      cases hwrite : made.writeFile p (encode t) with
      | ok after =>
        rw [hwrite] at hfill
        exact .inl (by simp [hfill])
      | error e =>
        rw [hwrite] at hfill
        obtain ⟨left, hfailed, hremoved⟩ := hfill
        exact .inl (by simp [hfailed, hremoved])

theorem storeStaged_cases (hkey : isKey key) (names : List Text) :
    cache.storeStaged disk names key t =
        ((cache.store disk key t).1, (cache.store disk key t).2.1) ∨
      ∃ e, cache.storeStaged disk names key t =
        (.error (failure (cache.folder.child key) (DiskError.message e)),
          (disk.makeFolders cache.folder).2) := by
  simp only [storeStaged, store, pathFor_of_isKey cache hkey]
  cases disk.pathExists (cache.folder.child key) with
  | error e => exact .inl rfl
  | ok found =>
    cases found with
    | true => exact .inl rfl
    | false => exact writeStaged_cases cache disk t names _

theorem spoils_storeStaged (hkey : isKey key) (names : List Text) {failed : Failure}
    (h : (cache.storeStaged disk names key t).1 = .error failed) :
    Spoils cache disk key failed (cache.storeStaged disk names key t).2 := by
  rcases storeStaged_cases cache disk t hkey names with hsame | ⟨e, hfailed⟩
  · rw [hsame] at h ⊢
    exact spoils_store cache disk t hkey h
  · rw [hfailed] at h ⊢
    cases h
    exact ⟨.inl ⟨_, rfl⟩, Disk.extends_makeFolders disk cache.folder⟩

theorem Spoils.reports {failed : Failure} {after : Disk}
    (h : Spoils cache disk key failed after) (hfits : Disk.Fits (cache.folder.child key)) :
    ∃ reason, failed = failure (cache.folder.child key) reason := by
  rcases h.told with htold | ⟨e, hexists, -⟩
  · exact htold
  · obtain ⟨answer, hanswer⟩ := Disk.ask_fits disk (fun _ => true) hfits
    rw [Disk.pathExists, hanswer] at hexists
    cases hexists

-- The records can be listed if the operating system can be asked about their folder.
theorem entries_eq_error_iff {failed : Failure} :
    cache.entries disk = .error failed ↔
      ∃ e, disk.isFolder cache.folder = .error e ∧ failed = .crash (.disk e) := by
  unfold entries
  cases hfolder : disk.isFolder cache.folder with
  | error e => simp [eq_comm]
  | ok found =>
    cases found with
    | false => simp
    | true =>
      obtain ⟨names, hnames⟩ : ∃ names, disk.names cache.folder = .ok names := by
        unfold Disk.isFolder Disk.ask at hfolder
        unfold Disk.names
        cases hstat : disk.stat cache.folder with
        | error e =>
          simp only [hstat] at hfolder
          split_ifs at hfolder
          cases hfolder
        | ok node =>
          cases node with
          | file content => simp [hstat, Node.isFolder] at hfolder
          | folder entries => simp
      simp [hnames]

theorem stats_eq_error_iff {failed : Failure} :
    cache.stats disk = .error failed ↔ cache.entries disk = .error failed := by
  unfold stats
  cases cache.entries disk <;> simp [bind, Except.bind]

end

-- Operations with a key that fail lose nothing, and tell the path of the record. Only where a path
-- is too long to be asked about a store fails otherwise, and so do lists and counts of the records.
theorem failures_report (cache : Cache) (disk : Disk) (key t : Text) (names : List Text)
    (hkey : isKey key) :
    Reports (cache.folder.child key) (cache.lookup disk key).1 ∧
      (Reports (cache.folder.child key) (cache.discard disk key).1 ∧
        ∀ failed, (cache.discard disk key).1 = .error failed →
          (cache.discard disk key).2.1 = disk) ∧
      ((∀ failed, (cache.store disk key t).1 = .error failed →
          Spoils cache disk key failed (cache.store disk key t).2.1) ∧
        ∀ failed, (cache.storeStaged disk names key t).1 = .error failed →
          Spoils cache disk key failed (cache.storeStaged disk names key t).2) ∧
      (Disk.Fits (cache.folder.child key) →
        Reports (cache.folder.child key) (cache.store disk key t).1 ∧
          Reports (cache.folder.child key) (cache.storeStaged disk names key t).1) ∧
      (∀ failed, (cache.entries disk = .error failed ∨ cache.stats disk = .error failed) ↔
        ∃ e, disk.isFolder cache.folder = .error e ∧ failed = .crash (.disk e)) ∧
      (Disk.Fits cache.folder →
        ∃ keys counts, cache.entries disk = .ok keys ∧ cache.stats disk = .ok counts) := by
  refine ⟨reports_lookup cache disk hkey,
    ⟨reports_discard cache disk hkey, fun failed => disk_of_discard cache disk⟩,
    ⟨fun failed => spoils_store cache disk t hkey,
      fun failed => spoils_storeStaged cache disk t hkey names⟩,
    fun hfits => ⟨fun failed h => (spoils_store cache disk t hkey h).reports cache disk hfits,
      fun failed h => (spoils_storeStaged cache disk t hkey names h).reports cache disk hfits⟩,
    fun failed => ?_, fun hfits => ?_⟩
  · rw [stats_eq_error_iff, or_self, entries_eq_error_iff]
  · obtain ⟨answer, hanswer⟩ := Disk.ask_fits disk Node.isFolder hfits
    cases hentries : cache.entries disk with
    | error failed =>
      obtain ⟨e, hfolder, -⟩ := (entries_eq_error_iff cache disk).mp hentries
      rw [Disk.isFolder, hanswer] at hfolder
      cases hfolder
    | ok keys =>
      refine ⟨keys, ⟨cache.hits, cache.misses, keys.length⟩, rfl, ?_⟩
      simp [stats, hentries, bind, Except.bind]

-- A file where the folder of the records should be.
def barredDisk : Disk := ⟨"/work".toList, .folder [("c".toList, .file [])]⟩

theorem failures_report_barred :
    isKey someKey ∧ Disk.Fits ((ofFolder (namings 0)).folder.child someKey) ∧
      ((ofFolder (namings 0)).store barredDisk someKey []).1.toOption = none ∧
      Reports ((ofFolder (namings 0)).folder.child someKey)
        ((ofFolder (namings 0)).store barredDisk someKey []).1 := by
  have hkey : isKey someKey := by decide
  have hfits : Disk.Fits ((ofFolder (namings 0)).folder.child someKey) :=
    ⟨by decide +kernel, by decide +kernel⟩
  refine ⟨hkey, hfits, by decide +kernel, ?_⟩
  exact ((failures_report (ofFolder (namings 0)) barredDisk someKey [] [] hkey).2.2.2.1 hfits).1

-- A folder whose name is too long.
def longNamed : Cache := ofFolder ⟨.relative, [List.replicate 256 'x']⟩

-- Below an overlong name no path is told.
theorem longNamed_unreported :
    isKey someKey ∧
      (longNamed.store unusedDisk someKey "x = 1\n".toList).1 =
        .error (.crash (.disk ⟨.nameTooLong, longNamed.folder.child someKey⟩)) ∧
      longNamed.entries unusedDisk =
        .error (.crash (.disk ⟨.nameTooLong, longNamed.folder⟩)) ∧
      longNamed.stats unusedDisk =
        .error (.crash (.disk ⟨.nameTooLong, longNamed.folder⟩)) := by
  have hkey : isKey someKey := by decide
  have hexists : unusedDisk.pathExists (longNamed.folder.child someKey) =
      .error ⟨.nameTooLong, longNamed.folder.child someKey⟩ := by decide +kernel
  have hfolder : unusedDisk.isFolder longNamed.folder =
      .error ⟨.nameTooLong, longNamed.folder⟩ := by decide +kernel
  have hentries := (entries_eq_error_iff longNamed unusedDisk).mpr ⟨_, hfolder, rfl⟩
  refine ⟨hkey, ?_, hentries, (stats_eq_error_iff longNamed unusedDisk).mpr hentries⟩
  rw [store_of_unasked longNamed unusedDisk _ hkey hexists]

end Cache

end Ghostwriter

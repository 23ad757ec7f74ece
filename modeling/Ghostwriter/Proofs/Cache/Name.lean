import Ghostwriter.Proofs.Cache.Standing
import Ghostwriter.Proofs.Files.Refill

/-!
The names of records. A cache refuses every key that is no name for a record and changes nothing
then. Whatever caches are asked for, they look only into files that have keys as names, and only
such files come and go.
-/

namespace Ghostwriter.Cache

open Ghostwriter.Text

-- The name that a record should have.
def IsRecordName (name : Text) : Prop :=
  name.length = 64 ∧ ∀ c ∈ name, c ∈ "0123456789abcdef".toList

instance (name : Text) : Decidable (IsRecordName name) :=
  inferInstanceAs (Decidable (_ ∧ _))

theorem isKeyChar_iff_mem (c : Char) : isKeyChar c ↔ c ∈ "0123456789abcdef".toList := by
  have hascii : ∀ n < 128, isKeyChar (Char.ofNat n) ↔ Char.ofNat n ∈ "0123456789abcdef".toList := by
    decide +kernel
  by_cases hc : c.toNat < 128
  · simpa using hascii c.toNat hc
  · have hmem : ∀ d ∈ "0123456789abcdef".toList, d.toNat < 128 := by decide
    constructor
    · intro h
      have hrange := (isKeyChar_iff c).mp h
      omega
    · exact fun h => absurd (hmem c h) hc

-- A key is the name of a record, and a line feed may follow it.
theorem isKey_iff (key : Text) :
    isKey key ↔ IsRecordName key ∨ ∃ name, IsRecordName name ∧ key = name ++ ['\n'] := by
  have hchars (t : Text) : t.all isKeyChar ↔ ∀ c ∈ t, c ∈ "0123456789abcdef".toList := by
    simp only [List.all_eq_true, isKeyChar_iff_mem]
  simp only [isKey, Bool.and_eq_true, Bool.or_eq_true, decide_eq_true_eq, hchars]
  constructor
  · rintro ⟨⟨hlength, hall⟩, hrest | hrest⟩
    · have hkey := List.take_append_drop 64 key
      rw [hrest, List.append_nil] at hkey
      rw [hkey] at hlength hall
      exact .inl ⟨hlength, hall⟩
    · refine .inr ⟨key.take 64, ⟨hlength, hall⟩, ?_⟩
      rw [← hrest, List.take_append_drop]
  · rintro (⟨hlength, hall⟩ | ⟨name, ⟨hlength, hall⟩, rfl⟩)
    · rw [List.take_of_length_le hlength.le, List.drop_eq_nil_of_le hlength.le]
      exact ⟨⟨hlength, hall⟩, .inl rfl⟩
    · rw [← hlength, List.take_left, List.drop_left]
      exact ⟨⟨rfl, hall⟩, .inr rfl⟩

-- What an operation fails with whose key is none.
def refusal (key : Text) : Failure := .crash (.malformedKey key)

-- Every operation with this key fails with that, and neither the disk nor the counts change.
structure Refuses (cache : Cache) (disk : Disk) (key : Text) : Prop where
  path : cache.pathFor key = .error (refusal key)
  lookup : cache.lookup disk key = (.error (refusal key), cache, [])
  store : ∀ t, cache.store disk key t = (.error (refusal key), disk, [])
  discard : cache.discard disk key = (.error (refusal key), disk, [])

-- No operation with this key fails with that.
structure Admits (cache : Cache) (disk : Disk) (key : Text) : Prop where
  path : cache.pathFor key = .ok (cache.folder.child key)
  lookup : (cache.lookup disk key).1 ≠ .error (refusal key)
  store : ∀ t, (cache.store disk key t).1 ≠ .error (refusal key)
  discard : (cache.discard disk key).1 ≠ .error (refusal key)

theorem refuses (cache : Cache) (disk : Disk) {key : Text} (hkey : ¬ isKey key) :
    Refuses cache disk key := by
  have hpath : cache.pathFor key = .error (refusal key) := by simp [pathFor, hkey, refusal]
  exact ⟨hpath, by simp [lookup, hpath], fun t => by simp [store, hpath], by simp [discard, hpath]⟩

theorem admits (cache : Cache) (disk : Disk) {key : Text} (hkey : isKey key) :
    Admits cache disk key := by
  have hpath := pathFor_of_isKey cache hkey
  refine ⟨hpath, fun h => ?_, fun t h => ?_, fun h => ?_⟩
  · obtain ⟨reason, hreason⟩ := failure_of_lookup hkey h
    cases hreason
  · simp only [store, hpath, write] at h
    split at h
    · cases h
    · cases h
    · split at h
      · cases h
      · split at h <;> cases h
  · simp only [discard, hpath] at h
    split at h
    · cases h
    · split_ifs at h
      cases h

-- Whether a cache accepts the key of a task can be decided.
instance : (task : Task) → Decidable task.Allowed
  | .store key _ | .lookup key | .discard key => inferInstanceAs (Decidable (isKey key = true))
  | .entries | .stats => inferInstanceAs (Decidable True)

theorem run_of_refused {shop : Shop} {turn : Turn} (h : ¬ turn.task.Allowed) :
    (turn.run shop).2 = shop := by
  obtain ⟨owner, task⟩ := turn
  cases task with
  | store key t =>
    have hrefuses := (refuses (shop.caches owner) shop.disk h).store t
    simp [Turn.run, hrefuses]
  | lookup key =>
    have hrefuses := (refuses (shop.caches owner) shop.disk h).lookup
    simp [Turn.run, hrefuses]
  | discard key =>
    have hrefuses := (refuses (shop.caches owner) shop.disk h).discard
    simp [Turn.run, hrefuses]
  | entries | stats => exact absurd trivial h

-- Tasks that are refused could as well be left out.
theorem Shop.after_filter (shop : Shop) (turns : List Turn) :
    shop.after (turns.filter fun turn => turn.task.Allowed) = shop.after turns := by
  induction turns generalizing shop with
  | nil => rfl
  | cons turn rest ih =>
    by_cases hturn : turn.task.Allowed
    · rw [List.filter_cons_of_pos (by simpa using hturn)]
      exact ih (turn.run shop).2
    · rw [List.filter_cons_of_neg (by simpa using hturn), ih, Shop.after, run_of_refused hturn]

-- What can become of the places of a disk. Folders stay, and new ones are made for the records.
-- Files come, go and change only where the path for a key leads to.
structure Confined (folders : Nat → Path) (old new : Disk) : Prop where
  home : new.home = old.home
  stays : ∀ spot, old.tree.seen spot = some none → new.tree.seen spot = some none
  made : ∀ spot, new.tree.seen spot = some none → old.tree.seen spot = some none ∨
    ∃ owner n, new.place (Path.parent^[n] (folders owner)) = .ok spot
  files : ∀ spot,
    (∀ content, new.tree.seen spot = some (some content) ↔
      old.tree.seen spot = some (some content)) ∨
    ∃ owner key, isKey key ∧ new.place ((folders owner).child key) = .ok spot

namespace Confined

variable {folders : Nat → Path} {first second third old new : Disk}

theorem refl (folders : Nat → Path) (disk : Disk) : Confined folders disk disk :=
  ⟨rfl, fun _ h => h, fun _ h => .inl h, fun _ => .inl fun _ => Iff.rfl⟩

theorem place (h : Confined folders old new) {p : Path} {spot : List Text}
    (hplace : old.place p = .ok spot) : new.place p = .ok spot :=
  Disk.place_of_folders h.home h.stays hplace

theorem trans (h : Confined folders first second) (h' : Confined folders second third) :
    Confined folders first third := by
  refine ⟨h'.home.trans h.home, fun spot hfirst => h'.stays spot (h.stays spot hfirst),
    fun spot hthird => ?_, fun spot => ?_⟩
  · rcases h'.made spot hthird with hsecond | hplace
    · rcases h.made spot hsecond with hfirst | ⟨owner, n, hplace⟩
      · exact .inl hfirst
      · exact .inr ⟨owner, n, h'.place hplace⟩
    · exact .inr hplace
  · rcases h'.files spot with hsame' | hplace
    · rcases h.files spot with hsame | ⟨owner, key, hkey, hplace⟩
      · exact .inl fun content => (hsame' content).trans (hsame content)
      · exact .inr ⟨owner, key, hkey, h'.place hplace⟩
    · exact .inr hplace

end Confined

section

variable {folders : Nat → Path} {disk after : Disk} {owner : Nat} {key : Text}

theorem confined_of_paves (h : Disk.Paves (folders owner) disk after) :
    Confined folders disk after := by
  refine ⟨h.home, fun spot => h.toExtends.seen spot none, fun spot hfolder => ?_,
    fun spot => .inl fun content => ?_⟩
  · rcases h.seen spot with hsame | ⟨-, -, n, hplace⟩
    · exact .inl (hsame ▸ hfolder)
    · exact .inr ⟨owner, n, hplace⟩
  · exact ⟨h.toExtends.files spot content, h.toExtends.seen spot _⟩

-- A change of one place, where no folder stood or stands, that the path for a key leads to.
theorem confined_of_place {spot : List Text} (hkey : isKey key) (hhome : after.home = disk.home)
    (hplace : disk.place ((folders owner).child key) = .ok spot)
    (hfree : disk.tree.seen spot ≠ some none) (hbare : after.tree.seen spot ≠ some none)
    (hseen : ∀ other, other ≠ spot → after.tree.seen other = disk.tree.seen other) :
    Confined folders disk after := by
  have hstays (other : List Text) (hfolder : disk.tree.seen other = some none) :
      after.tree.seen other = some none := by
    have hne : other ≠ spot := by
      rintro rfl
      exact hfree hfolder
    rw [hseen other hne, hfolder]
  refine ⟨hhome, hstays, fun other hfolder => .inl ?_, fun other => ?_⟩
  · have hne : other ≠ spot := by
      rintro rfl
      exact hbare hfolder
    rw [← hseen other hne, hfolder]
  · by_cases hother : other = spot
    · subst hother
      exact .inr ⟨owner, key, hkey, Disk.place_of_folders hhome hstays hplace⟩
    · exact .inl fun content => by rw [hseen other hother]

theorem confined_writeFile {content : Bytes} (hkey : isKey key)
    (h : disk.writeFile ((folders owner).child key) content = .ok after) :
    Confined folders disk after := by
  obtain ⟨spot, hplace, hfree, hhome, hseen⟩ := Disk.seen_of_writeFile h
  refine confined_of_place hkey hhome hplace hfree (by simp [hseen]) fun other hne => ?_
  rw [hseen, if_neg hne]

theorem confined_unlink (hkey : isKey key)
    (h : disk.unlink ((folders owner).child key) = .ok after) : Confined folders disk after := by
  obtain ⟨spot, hplace, hfree, hhome, hseen⟩ := Disk.seen_of_unlink h
  exact confined_of_place hkey hhome hplace hfree (Disk.bare_of_unlink h hplace) hseen

end

theorem confined_store (folders : Nat → Path) (owner : Nat) {cache : Cache}
    (hfolder : cache.folder = folders owner) (disk : Disk) (key t : Text) :
    Confined folders disk (cache.store disk key t).2.1 := by
  have hpaves := Disk.paves_makeFolders disk (folders owner)
  rcases store_disk_cases cache disk key t with hdisk | hdisk | ⟨hkey, -, hwrite⟩
  · rw [hdisk]
    exact .refl folders disk
  · rw [hdisk, hfolder]
    exact confined_of_paves hpaves
  · rw [hfolder] at hwrite
    exact (confined_of_paves hpaves).trans (confined_writeFile hkey hwrite)

theorem confined_discard (folders : Nat → Path) (owner : Nat) {cache : Cache}
    (hfolder : cache.folder = folders owner) (disk : Disk) (key : Text) :
    Confined folders disk (cache.discard disk key).2.1 := by
  by_cases hkey : isKey key
  · simp only [discard, pathFor_of_isKey cache hkey, hfolder]
    cases hunlink : disk.unlink ((folders owner).child key) with
    | ok after => exact confined_unlink hkey hunlink
    | error e =>
      simp only
      split_ifs
      · exact .refl folders disk
      · exact .refl folders disk
  · rw [(refuses cache disk hkey).discard]
    exact .refl folders disk

namespace Shop

-- The folders of the caches, which no turn changes.
def folders (shop : Shop) (owner : Nat) : Path := (shop.caches owner).folder

theorem folders_run (shop : Shop) (turn : Turn) : (turn.run shop).2.folders = shop.folders := by
  funext other
  obtain ⟨owner, task⟩ := turn
  cases task with
  | lookup key =>
    by_cases hother : other = owner
    · subst hother
      simp [Turn.run, folders]
    · simp [Turn.run, folders, Function.update_of_ne hother]
  | store key t | discard key | entries | stats => rfl

theorem confined_run (shop : Shop) (turn : Turn) :
    Confined shop.folders shop.disk (turn.run shop).2.disk := by
  obtain ⟨owner, task⟩ := turn
  cases task with
  | store key t => exact confined_store shop.folders owner rfl shop.disk key t
  | discard key => exact confined_discard shop.folders owner rfl shop.disk key
  | lookup key | entries | stats => exact .refl shop.folders shop.disk

theorem confined_after (shop : Shop) (turns : List Turn) :
    Confined shop.folders shop.disk (shop.after turns).disk := by
  induction turns generalizing shop with
  | nil => exact .refl shop.folders shop.disk
  | cons turn rest ih =>
    have hrest := ih (turn.run shop).2
    rw [folders_run] at hrest
    exact (shop.confined_run turn).trans hrest

end Shop

theorem isKey_of_mem_entries {cache : Cache} {disk : Disk} {keys : List Text} {key : Text}
    (h : cache.entries disk = .ok keys) (hmem : key ∈ keys) : isKey key := by
  unfold entries at h
  split at h
  · cases h
  · cases h
    cases hmem
  · split at h
    · cases h
    · cases h
      rw [List.mem_mergeSort, List.mem_filter] at hmem
      exact hmem.2

-- Files that have keys as names keep their contents, as does the working directory itself.
structure KeepsRecords (change : List Text → Bytes → Bytes) : Prop where
  home : change [] = id
  record : ∀ here key, isKey key → change (here ++ [key]) = id

section

variable {change : List Text → Bytes → Bytes}

theorem KeepsRecords.spares (h : KeepsRecords change) (disk : Disk) (folder : Path) {key : Text}
    (hkey : isKey key) : disk.Spares change (folder.child key) := by
  intro spot hplace
  rcases Disk.leadsTo_of_place_child (ne_upward_of_isKey hkey) hplace with
    ⟨there, -, rfl⟩ | ⟨-, -, rfl⟩
  · exact h.record there key hkey
  · exact h.home

variable (cache : Cache) (disk : Disk) (key : Text)

theorem lookup_refill (h : KeepsRecords change) :
    cache.lookup (disk.refill change) key = cache.lookup disk key := by
  by_cases hkey : isKey key
  · simp only [lookup, pathFor_of_isKey cache hkey,
      Disk.contents_refill (h.spares disk cache.folder hkey)]
  · rw [(refuses cache _ hkey).lookup, (refuses cache _ hkey).lookup]

theorem store_refill (h : KeepsRecords change) (t : Text) :
    cache.store (disk.refill change) key t =
      ((cache.store disk key t).1, (cache.store disk key t).2.1.refill change,
        (cache.store disk key t).2.2) := by
  by_cases hkey : isKey key
  · simp only [store, pathFor_of_isKey cache hkey, Disk.pathExists_refill]
    cases disk.pathExists (cache.folder.child key) with
    | error e => rfl
    | ok found =>
      cases found with
      | true => rfl
      | false =>
        simp only [write, Disk.makeFolders_refill]
        obtain ⟨problem, made⟩ := disk.makeFolders cache.folder
        cases problem with
        | some e => rfl
        | none =>
          simp only [Disk.writeFile_refill (h.spares made cache.folder hkey)]
          cases made.writeFile (cache.folder.child key) (encode t) <;> rfl
  · rw [(refuses cache _ hkey).store, (refuses cache _ hkey).store]

theorem discard_refill :
    cache.discard (disk.refill change) key =
      ((cache.discard disk key).1, (cache.discard disk key).2.1.refill change,
        (cache.discard disk key).2.2) := by
  unfold discard
  cases cache.pathFor key with
  | error e => rfl
  | ok p =>
    simp only [Disk.unlink_refill]
    cases disk.unlink p with
    | ok after => rfl
    | error e =>
      simp only [Except.map]
      split_ifs <;> rfl

theorem entries_refill : cache.entries (disk.refill change) = cache.entries disk := by
  simp only [entries, Disk.isFolder_refill, Disk.names_refill]

end

namespace Shop

variable {change : List Text → Bytes → Bytes}

def refill (change : List Text → Bytes → Bytes) (shop : Shop) : Shop :=
  { shop with disk := shop.disk.refill change }

theorem run_refill (h : KeepsRecords change) (shop : Shop) (turn : Turn) :
    turn.run (shop.refill change) = ((turn.run shop).1, (turn.run shop).2.refill change) := by
  obtain ⟨owner, task⟩ := turn
  cases task with
  | store key t => simp [Turn.run, refill, store_refill _ _ _ h]
  | lookup key => simp [Turn.run, refill, lookup_refill _ _ _ h]
  | discard key => simp [Turn.run, refill, discard_refill]
  | entries => simp [Turn.run, refill, entries_refill]
  | stats => simp [Turn.run, refill, stats, entries_refill]

theorem after_refill (h : KeepsRecords change) (shop : Shop) (turns : List Turn) :
    (shop.refill change).outcomes turns = shop.outcomes turns ∧
      (shop.refill change).after turns = (shop.after turns).refill change := by
  induction turns generalizing shop with
  | nil => exact ⟨rfl, rfl⟩
  | cons turn rest ih =>
    obtain ⟨houtcomes, hafter⟩ := ih (turn.run shop).2
    simp only [outcomes, after, run_refill h, houtcomes, hafter, and_self]

end Shop

-- Keys are the names that records should have, and those with a line feed behind. All others are
-- refused. Whatever caches do, files come and go only where the path for a key leads to, what
-- other files contain neither matters nor changes, and only keys are listed.
theorem only_keys (shop : Shop) (turns : List Turn) :
    (∀ key, isKey key ↔ IsRecordName key ∨ ∃ name, IsRecordName name ∧ key = name ++ ['\n']) ∧
      (∀ cache disk key, if isKey key then Admits cache disk key else Refuses cache disk key) ∧
      Confined shop.folders shop.disk (shop.after turns).disk ∧
      (∀ change, KeepsRecords change →
        (shop.refill change).outcomes turns = shop.outcomes turns ∧
          (shop.refill change).after turns = (shop.after turns).refill change) ∧
      ∀ cache : Cache, ∀ keys, cache.entries (shop.after turns).disk = .ok keys →
        ∀ key ∈ keys, isKey key := by
  refine ⟨isKey_iff, fun cache disk key => ?_, shop.confined_after turns,
    fun change h => Shop.after_refill h shop turns, fun cache keys h key => isKey_of_mem_entries h⟩
  split_ifs with hkey
  · exact admits cache disk hkey
  · exact refuses cache disk hkey

-- The name of a record, and a line feed.
def lineFeedKey : Text := someKey ++ ['\n']

-- A key with a line feed behind its digits is accepted: a file gets this name, and it is listed.
theorem lineFeedKey_listed :
    ¬ IsRecordName lineFeedKey ∧
      let shop := (Shop.opened namings unusedDisk).after
        [⟨0, .store lineFeedKey "x = 1\n".toList⟩]
      shop.disk.contents ((namings 0).child lineFeedKey) = .ok (encode "x = 1\n".toList) ∧
        ((shop.caches 0).entries shop.disk).toOption = some [lineFeedKey] := by
  decide +kernel

end Ghostwriter.Cache

import Ghostwriter.CommandLine.Run
import Ghostwriter.Proofs.Cache.Name

/-!
Removing records by the command line. The keys are taken one after the other, and what is said of
each depends on whether it has a record when its turn comes, so not if it came before.
-/

namespace Ghostwriter

open Ghostwriter.Text

namespace Cache

theorem events_of_discard {cache : Cache} {disk : Disk} {key : Text}
    (h : (cache.discard disk key).1 = .ok true) :
    (cache.discard disk key).2.2 = [.recordDiscarded key] := by
  unfold discard at h ⊢
  cases hpath : cache.pathFor key with
  | error e => simp [hpath] at h
  | ok p =>
    simp only [hpath] at h ⊢
    cases hunlink : disk.unlink p with
    | ok after => rfl
    | error e =>
      simp only [hunlink] at h
      split_ifs at h
      cases h

-- Texts of which some are gone.
def without (texts : Text → Option Text) (gone : List Text) (key : Text) : Option Text :=
  if key ∈ gone then none else texts key

theorem update_without (texts : Text → Option Text) (gone : List Text) (key : Text) :
    Function.update (without texts gone) key none = without texts (key :: gone) := by
  funext other
  by_cases hother : other = key
  · subst hother
    simp [without]
  · simp [without, hother]

section

variable {folders : Nat → Path} {first made disk : Disk} {there : List Text}
  {texts : Text → Option Text} {key : Text}

-- Only the texts of keys count.
theorem Stands.congr {others : Text → Option Text}
    (hsame : ∀ key, isKey key → others key = texts key)
    (h : Stands folders first there texts disk) : Stands folders first there others disk := by
  cases h with
  | made disk hleads hholds =>
    obtain ⟨entries, hentries, hnodup, hlookup⟩ := hholds.entries
    refine .made disk hleads ⟨entries, hentries, hnodup, fun key hkey => ?_⟩
    rw [hsame key hkey, hlookup key hkey]
  | missing habsent hempty =>
    exact .missing habsent fun key hkey => by rw [hsame key hkey, hempty key hkey]

theorem record_eq_of_stands (hopens : ∀ owner, Opens first made there (folders owner))
    (h : Stands folders first there texts disk) (owner : Nat) (hkey : isKey key) :
    record (folders owner) disk key = texts key := by
  cases htext : texts key with
  | some t => exact record_of_stands hopens h owner hkey htext
  | none => exact record_of_missing (missing_of_stands hopens h owner hkey htext)

-- The folder of caches that have worked on it, whatever they have been asked for.
theorem stands_after (hopens : ∀ owner, Opens first made there (folders owner))
    (turns : List Turn) :
    ∃ texts, Stands folders first there texts ((Shop.opened folders first).after turns).disk := by
  have hallowed : ∀ turn ∈ turns.filter fun turn => turn.task.Allowed, turn.task.Allowed :=
    fun turn hturn => by simpa using (List.mem_filter.mp hturn).2
  have hreflects := reflects_after hopens hallowed
  rw [Shop.after_filter] at hreflects
  exact ⟨_, hreflects.stands⟩

end

end Cache

namespace CommandLine

open Ghostwriter.Cache

-- What is written for a key, which has a record or not.
def note (reporting : Bool) (key : Text) (present : Bool) : Text :=
  if isKey key then
    if present then (if reporting then (Event.recordDiscarded key).line else [])
    else errorLine ("no cache record ".toList ++ key)
  else errorLine (Crash.malformedKey key).message

-- What is written for some keys in their order. One that came before has no record any more.
def notes (reporting : Bool) (kept : Text → Bool) (before : List Text) : List Text → Text
  | [] => []
  | key :: rest =>
    note reporting key (kept key && !before.contains key) ++
      notes reporting kept (key :: before) rest

theorem note_congr {reporting : Bool} {key : Text} {present present' : Bool}
    (h : isKey key → present = present') :
    note reporting key present = note reporting key present' := by
  unfold note
  by_cases hkey : isKey key
  · rw [h hkey]
  · rw [if_neg hkey, if_neg hkey]

theorem notes_congr {reporting : Bool} {kept kept' : Text → Bool}
    (hsame : ∀ key, isKey key → kept key = kept' key) (before keys : List Text) :
    notes reporting kept before keys = notes reporting kept' before keys := by
  induction keys generalizing before with
  | nil => rfl
  | cons key rest ih =>
    rw [notes, notes, ih, note_congr fun hkey => by rw [hsame key hkey]]

-- All keys are keys indeed, each has a record when its turn comes, and no two are the same.
def Clean (kept : Text → Bool) (before keys : List Text) : Prop :=
  (∀ key ∈ keys, isKey key ∧ kept key ∧ key ∉ before) ∧ keys.Nodup

instance (kept : Text → Bool) (before keys : List Text) : Decidable (Clean kept before keys) :=
  inferInstanceAs (Decidable (_ ∧ _))

theorem clean_cons {kept : Text → Bool} {before rest : List Text} {key : Text} :
    Clean kept before (key :: rest) ↔
      (isKey key ∧ kept key ∧ key ∉ before) ∧ Clean kept (key :: before) rest := by
  unfold Clean
  rw [List.forall_mem_cons, List.nodup_cons]
  simp only [List.mem_cons, not_or]
  constructor
  · rintro ⟨⟨hkey, hrest⟩, hnew, hnodup⟩
    refine ⟨hkey, fun other hother => ?_, hnodup⟩
    obtain ⟨hother', hkept, hbefore⟩ := hrest other hother
    refine ⟨hother', hkept, ?_, hbefore⟩
    rintro rfl
    exact hnew hother
  · rintro ⟨hkey, hrest, hnodup⟩
    refine ⟨⟨hkey, fun other hother => ?_⟩, fun hmem => (hrest key hmem).2.2.1 rfl, hnodup⟩
    obtain ⟨hother', hkept, -, hbefore⟩ := hrest other hother
    exact ⟨hother', hkept, hbefore⟩

-- Something is changed only where the path for one of the keys leads to.
structure Sheds (folder : Path) (keys : List Text) (old new : Disk) : Prop where
  home : new.home = old.home
  stays : ∀ spot, old.tree.seen spot = some none → new.tree.seen spot = some none
  seen : ∀ spot, new.tree.seen spot = old.tree.seen spot ∨
    ∃ key ∈ keys, isKey key ∧ new.place (folder.child key) = .ok spot

theorem Sheds.refl (folder : Path) (keys : List Text) (disk : Disk) : Sheds folder keys disk disk :=
  ⟨rfl, fun _ h => h, fun _ => .inl rfl⟩

theorem Sheds.cons {folder : Path} {key : Text} {rest : List Text} {first second third : Disk}
    (h : Sheds folder [key] first second) (h' : Sheds folder rest second third) :
    Sheds folder (key :: rest) first third := by
  refine ⟨h'.home.trans h.home, fun spot hfirst => h'.stays spot (h.stays spot hfirst),
    fun spot => ?_⟩
  rcases h'.seen spot with hsame' | ⟨other, hother, hkey, hplace⟩
  · rcases h.seen spot with hsame | ⟨other, hother, hkey, hplace⟩
    · exact .inl (hsame'.trans hsame)
    · rw [List.mem_singleton] at hother
      subst hother
      exact .inr ⟨other, by simp, hkey, Disk.place_of_folders h'.home h'.stays hplace⟩
  · exact .inr ⟨other, List.mem_cons_of_mem key hother, hkey, hplace⟩

theorem sheds_discard (cache : Cache) (disk : Disk) (key : Text) :
    Sheds cache.folder [key] disk (cache.discard disk key).2.1 := by
  by_cases hkey : isKey key
  · simp only [Cache.discard, pathFor_of_isKey cache hkey]
    cases hunlink : disk.unlink (cache.folder.child key) with
    | error e =>
      simp only
      split_ifs
      · exact .refl cache.folder [key] disk
      · exact .refl cache.folder [key] disk
    | ok after =>
      obtain ⟨spot, hplace, hfree, hhome, hseen⟩ := Disk.seen_of_unlink hunlink
      have hstays (other : List Text) (hfolder : disk.tree.seen other = some none) :
          after.tree.seen other = some none := by
        have hne : other ≠ spot := by
          rintro rfl
          exact hfree hfolder
        rw [hseen other hne, hfolder]
      refine ⟨hhome, hstays, fun other => ?_⟩
      by_cases hother : other = spot
      · subst hother
        exact .inr ⟨key, by simp, hkey, Disk.place_of_folders hhome hstays hplace⟩
      · exact .inl (hseen other hother)
  · rw [(refuses cache disk hkey).discard]
    exact .refl cache.folder [key] disk

section

variable {folders : Nat → Path} {first made : Disk} {there : List Text}
  {texts : Text → Option Text} {owner : Nat} {cache : Cache} {world : World}

-- What discarding does with one key.
theorem discard_eq (hopens : ∀ owner, Opens first made there (folders owner))
    (hfolder : cache.folder = folders owner) (h : Stands folders first there texts world.disk)
    (key : Text) :
    ∃ after, discard cache world key =
        (.ok (if isKey key ∧ (texts key).isSome then 0 else 1,
            note world.reporting key (texts key).isSome),
          { world with disk := after }) ∧
      Stands folders first there (Function.update texts key none) after ∧
      Sheds cache.folder [key] world.disk after := by
  have hsheds := sheds_discard cache world.disk key
  by_cases hkey : isKey key
  · obtain ⟨after, events, hdiscard, hstands⟩ := discard_of_stands hopens h hfolder hkey
    rw [hdiscard] at hsheds
    refine ⟨after, ?_, hstands, hsheds⟩
    cases hkept : (texts key).isSome with
    | false => simp [discard, hdiscard, hkept, note, hkey]
    | true =>
      have hevents := @events_of_discard cache world.disk key (by rw [hdiscard, hkept])
      rw [hdiscard] at hevents
      simp only at hevents
      simp [discard, hdiscard, hkept, note, hkey, hevents, World.report]
  · have hrefuses := (refuses cache world.disk hkey).discard
    refine ⟨world.disk, ?_, ?_, .refl _ _ _⟩
    · simp [discard, hrefuses, refusal, note, hkey]
    · refine h.congr fun other hother => Function.update_of_ne ?_ _ _
      rintro rfl
      exact hkey hother

-- What removing does with keys, of which some others have come before.
theorem removeKeys_eq (hopens : ∀ owner, Opens first made there (folders owner))
    (hfolder : cache.folder = folders owner) (before keys : List Text)
    (h : Stands folders first there (without texts before) world.disk) (status : Nat)
    (stderr : Text) :
    ∃ after, removeKeys cache status stderr world keys =
        ⟨.ok (if Clean (fun key => (texts key).isSome) before keys then status else 1), [],
          stderr ++ notes world.reporting (fun key => (texts key).isSome) before keys,
          { world with disk := after }⟩ ∧
      Stands folders first there (without texts (keys.reverse ++ before)) after ∧
      Sheds cache.folder keys world.disk after := by
  induction keys generalizing before world status stderr with
  | nil => exact ⟨world.disk, by simp [removeKeys, notes, Clean], h, .refl _ _ _⟩
  | cons key rest ih =>
    obtain ⟨next, hdiscard, hstands, hsheds⟩ := discard_eq hopens hfolder h key
    rw [update_without] at hstands
    have hpresent : (without texts before key).isSome =
        ((texts key).isSome && !before.contains key) := by
      by_cases hmem : key ∈ before <;> simp [without, hmem]
    rw [hpresent] at hdiscard
    -- the status for the rest, once this key is done
    obtain ⟨after, hrest, hafter, hsheds'⟩ :=
      @ih { world with disk := next } (key :: before) hstands
      (if isKey key ∧ ((texts key).isSome && !before.contains key) then status else 1)
      (stderr ++ note world.reporting key ((texts key).isSome && !before.contains key))
    refine ⟨after, ?_, by simpa using hafter, hsheds.cons hsheds'⟩
    have hclean : isKey key ∧ ((texts key).isSome && !before.contains key) ↔
        isKey key ∧ (texts key).isSome ∧ key ∉ before := by simp
    by_cases hfine : isKey key ∧ ((texts key).isSome && !before.contains key)
    · rw [if_pos hfine] at hdiscard hrest
      rw [removeKeys, hdiscard]
      have hsame : Clean (fun key => (texts key).isSome) before (key :: rest) ↔
          Clean (fun key => (texts key).isSome) (key :: before) rest :=
        clean_cons.trans (and_iff_right (hclean.mp hfine))
      simp only
      rw [hrest, notes, List.append_assoc]
      simp only [hsame]
    · rw [if_neg hfine] at hdiscard hrest
      rw [removeKeys, hdiscard]
      have hnot : ¬ Clean (fun key => (texts key).isSome) before (key :: rest) :=
        fun h => hfine (hclean.mpr (clean_cons.mp h).1)
      simp only
      rw [hrest, notes, List.append_assoc, if_neg hnot, ite_self]

end

theorem settings_eq_ok {world ready : World} {file : Option Path} {overrides : Overrides}
    {settings : Settings} {warnings : Text}
    (h : world.settings file overrides = (.ok settings, ready, warnings)) :
    ready.disk = world.disk ∧ ready.reporting = world.reporting := by
  unfold World.settings at h
  cases hload : Settings.loadFile world.disk world.environment file with
  | error e => simp [hload] at h
  | ok loaded =>
    simp only [hload, Prod.mk.injEq] at h
    obtain ⟨-, rfl, -⟩ := h
    exact ⟨rfl, rfl⟩

-- What a command has done that removes some records: each key has had its turn, and something has
-- been said of those that were none and of those that had no record when their turn came.
structure Removes (folder : Path) (world : World) (warnings : Text) (keys : List Text)
    (outcome : Outcome) : Prop where
  status : outcome.status =
    .ok (if Clean (fun key => (record folder world.disk key).isSome) [] keys then 0 else 1)
  stdout : outcome.stdout = []
  stderr : outcome.stderr = warnings ++
    notes world.reporting (fun key => (record folder world.disk key).isSome) [] keys
  records : ∀ key, isKey key → record folder outcome.world.disk key =
    if key ∈ keys then none else record folder world.disk key
  others : Sheds folder keys world.disk outcome.world.disk

-- Whatever caches have done before on a folder that had no records, exactly the given records are
-- removed. No path of a record is too long, and all paths lead to the folder once it is made.
theorem run_removes {folders : Nat → Path} {first made : Disk} {there : List Text}
    {turns : List Turn} {owner : Nat} {world ready : World} {words keys : List Text}
    {folder : Option Path} {settings : Settings} {warnings : Text}
    (hopens : ∀ owner, Opens first made there (folders owner))
    (hdisk : world.disk = ((Shop.opened folders first).after turns).disk)
    (hwords : Command.ofWords words = .ok (.remove folder keys))
    (hsettings : world.settings none { Overrides.none with cacheFolder := folder } =
      (.ok settings, ready, warnings))
    (hfolder : settings.cacheFolder = folders owner) :
    Removes settings.cacheFolder world warnings keys (run world words) := by
  obtain ⟨hready, hreporting⟩ := settings_eq_ok hsettings
  obtain ⟨texts, hstands⟩ := stands_after hopens turns
  rw [← hdisk] at hstands
  have hrecord (key : Text) (hkey : isKey key) :
      record settings.cacheFolder world.disk key = texts key := by
    rw [hfolder]
    exact record_eq_of_stands hopens hstands owner hkey
  -- what counts of the texts are those of keys
  have hkept (key : Text) (hkey : isKey key) :
      (record settings.cacheFolder world.disk key).isSome = (texts key).isSome := by
    rw [hrecord key hkey]
  have hclean : Clean (fun key => (record settings.cacheFolder world.disk key).isSome) [] keys ↔
      Clean (fun key => (texts key).isSome) [] keys := by
    refine and_congr_left fun _ => forall₂_congr fun key _ => and_congr_right fun hkey => ?_
    simp only [hkept key hkey]
  have hwithout : Stands folders first there (without texts []) ready.disk := by
    rw [hready]
    exact hstands.congr fun key _ => by simp [without]
  have hcache : (Cache.ofFolder settings.cacheFolder).folder = folders owner := hfolder
  obtain ⟨after, hremove, hafter, hsheds⟩ :=
    removeKeys_eq hopens hcache [] keys hwithout 0 []
  have hrun : run world words =
      ⟨.ok (if Clean (fun key => (texts key).isSome) [] keys then 0 else 1), [],
        warnings ++ notes ready.reporting (fun key => (texts key).isSome) [] keys,
        { ready with disk := after }⟩ := by
    simp [run, hwords, Command.run, withCache, hsettings, hremove]
  rw [hrun]
  refine ⟨by simp only [hclean], rfl, ?_, fun key hkey => ?_, ?_⟩
  · rw [hreporting]
    simp only
    rw [notes_congr hkept]
  · simp only
    rw [hfolder, record_eq_of_stands hopens hafter owner hkey, ← hfolder, hrecord key hkey]
    simp [without]
  · rw [hready] at hsheds
    exact hsheds

-- One cache has stored a text, and another one never anything.
def usedTurns : List Turn := [⟨0, .store someKey "x = 1\n".toList⟩, ⟨1, .discard lineFeedKey⟩]

def usedWorld : World := ⟨((Shop.opened namings unusedDisk).after usedTurns).disk, [], false⟩

-- A key with a record, a word that is no key, and the same key again.
def repeatedKeys : List Text := [someKey, "abc".toList, someKey]

def removalOf (folder : Text) (keys : List Text) : List Text :=
  ["cache".toList, "rm".toList, "--cache-dir".toList, folder] ++ keys

theorem run_removes_repeated :
    (∀ owner, Opens unusedDisk ⟨"/work".toList, .folder [("c".toList, .folder [])]⟩ ["c".toList]
        (namings owner)) ∧
      Command.ofWords (removalOf "c".toList repeatedKeys) =
        .ok (.remove (some (namings 0)) repeatedKeys) ∧
      Removes (namings 0) usedWorld [] repeatedKeys
        (run usedWorld (removalOf "c".toList repeatedKeys)) := by
  have hwords : Command.ofWords (removalOf "c".toList repeatedKeys) =
      .ok (.remove (some (namings 0)) repeatedKeys) := by decide +kernel
  have hsettings : usedWorld.settings none { Overrides.none with cacheFolder := some (namings 0) } =
      (.ok { Settings.initial with cacheFolder := namings 0 }, usedWorld, []) := by rfl
  have hfolder : { Settings.initial with cacheFolder := namings 0 }.cacheFolder = namings 0 := rfl
  exact ⟨opens_namings, hwords, run_removes opens_namings rfl hwords hsettings hfolder⟩

-- A folder that can be made, but whose records would have paths that are too long.
def deepFolder : Path := ⟨.relative, deepNames⟩

def otherKey : Text := List.replicate 64 'b'

theorem deepFolder_made : (unusedDisk.makeFolders deepFolder).1 = none := by
  have hfree (spot : List Text) (content : Bytes) :
      unusedDisk.tree.seen spot ≠ some (some content) := by
    cases spot <;> simp [unusedDisk, Node.seen_folder_cons]
  have hnames : ∀ name ∈ deepNames, name ≠ Disk.upward ∧ (encode name).length ≤ Disk.maxName := by
    intro name hname
    rw [List.eq_of_mem_replicate hname]
    decide +kernel
  have hfits : ∀ before, before <+: deepNames →
      (encode (Path.toText ⟨.relative, before⟩)).length ≤ Disk.maxPath := by
    intro before hbefore
    have hall : ∀ before ∈ deepNames.inits,
        (encode (Path.toText ⟨.relative, before⟩)).length ≤ Disk.maxPath := by decide +kernel
    exact hall before ((List.mem_inits _ _).mpr hbefore)
  obtain ⟨after, hafter, -⟩ :=
    Disk.makeFoldersUpTo_of_no_file rfl hfree hnames hfits (le_refl deepNames.length)
  rw [Disk.makeFolders, deepFolder, hafter]

-- A file of variables that cannot be read.
def unreadableWorld : World :=
  ⟨⟨"/work".toList, .folder [(".env".toList, .file [0xff])]⟩, [], false⟩

-- Below an overlong path the first key ends the command with a failure, and nothing is said of the
-- second one. A path that goes up again does not lead to what is stored by another name of the
-- folder. Without settings nothing is done.
theorem not_removes :
    ((unusedDisk.makeFolders deepFolder).1 = none ∧
      ¬ Removes deepFolder ⟨unusedDisk, [], false⟩ [] [someKey, otherKey]
        (run ⟨unusedDisk, [], false⟩ (removalOf deepFolder.toText [someKey, otherKey]))) ∧
      ¬ Removes (detours 0) usedWorld [] [someKey]
        (run usedWorld (removalOf (detours 1).toText [someKey])) ∧
      ¬ Removes (namings 0) unreadableWorld [] [someKey]
        (run unreadableWorld (removalOf "c".toList [someKey])) := by
  have hdeep : (run ⟨unusedDisk, [], false⟩
      (removalOf deepFolder.toText [someKey, otherKey])).stderr ≠
        [] ++ notes false (fun key => (record deepFolder unusedDisk key).isSome) []
          [someKey, otherKey] := by
    decide +kernel
  have hdetour : record (detours 0) (run usedWorld
      (removalOf (detours 1).toText [someKey])).world.disk someKey ≠ none := by
    decide +kernel
  have hunreadable : (run unreadableWorld (removalOf "c".toList [someKey])).stderr ≠
      [] ++ notes false (fun key => (record (namings 0) unreadableWorld.disk key).isSome) []
        [someKey] := by
    decide +kernel
  refine ⟨⟨deepFolder_made, fun hremoves => hdeep hremoves.stderr⟩, fun hremoves => ?_,
    fun hremoves => hunreadable hremoves.stderr⟩
  exact hdetour (hremoves.records someKey (by decide))

end CommandLine

end Ghostwriter

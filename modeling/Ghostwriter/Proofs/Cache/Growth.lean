import Ghostwriter.Proofs.Cache.Record

/-!
What stores leave behind, at each place of a disk: folders for the records, and the texts that were
stored. A text takes the place of a file only where making the folder has led the path to it, which
needs a step up in the path.
-/

namespace Ghostwriter.Cache

open Ghostwriter.Text

-- What can become of a place while some texts are stored under their keys.
inductive Becomes (folder : Path) (stores : Text → Text → Prop) (old new : Disk)
    (spot : List Text) : Prop
  | same (seen : new.tree.seen spot = old.tree.seen spot)
  -- the folder of the records, or one above it
  | folder (n : Nat) (free : old.tree.seen spot = none) (made : new.tree.seen spot = some none)
    (place : new.place (Path.parent^[n] folder) = .ok spot)
  | record (key t : Text) (stored : stores key t) (place : new.place (folder.child key) = .ok spot)
    (written : new.tree.seen spot = some (some (encode t)))
    (bare : old.tree.seen spot ≠ some none)
    (fresh : old.tree.seen spot = none ∨
      (Disk.upward ∈ folder.parts ∧ ∀ there, ¬ Disk.LeadsTo old folder there))

-- A place that is neither the folder for the records, nor one above it, nor right below it.
structure Outside (folder : Path) (disk : Disk) (spot : List Text) : Prop where
  above : ∀ n, disk.place (Path.parent^[n] folder) ≠ .ok spot
  inside : ∀ name, disk.place (folder.child name) ≠ .ok spot

structure Grows (folder : Path) (stores : Text → Text → Prop) (old new : Disk) : Prop where
  home : new.home = old.home
  becomes : ∀ spot, Becomes folder stores old new spot

namespace Grows

variable {folder : Path} {stores more : Text → Text → Prop} {old new first second third : Disk}
  {spot : List Text}

theorem refl (folder : Path) (stores : Text → Text → Prop) (disk : Disk) :
    Grows folder stores disk disk := ⟨rfl, fun _ => .same rfl⟩

theorem mono (h : Grows folder stores old new) (hmore : ∀ key t, stores key t → more key t) :
    Grows folder more old new := by
  refine ⟨h.home, fun spot => ?_⟩
  cases h.becomes spot with
  | same hseen => exact .same hseen
  | folder n hfree hmade hplace => exact .folder n hfree hmade hplace
  | record key t hstored hplace hwritten hbare hfresh =>
    exact .record key t (hmore key t hstored) hplace hwritten hbare hfresh

theorem folders (h : Grows folder stores old new) (hseen : old.tree.seen spot = some none) :
    new.tree.seen spot = some none := by
  cases h.becomes spot with
  | same hsame => rw [hsame, hseen]
  | folder n hfree => simp [hfree] at hseen
  | record key t _ _ _ hbare => exact absurd hseen hbare

theorem place (h : Grows folder stores old new) {p : Path} (hplace : old.place p = .ok spot) :
    new.place p = .ok spot :=
  Disk.place_of_folders h.home (fun _ => h.folders) hplace

theorem leadsTo (h : Grows folder stores old new) {there : List Text}
    (hthere : Disk.LeadsTo old folder there) : Disk.LeadsTo new folder there :=
  hthere.of_folders h.home fun _ => h.folders

-- What holds of a place that was free, or is found where the path did not lead before, held of it
-- at first.
theorem fresh_before (h : Grows folder stores first second)
    (hfresh : second.tree.seen spot = none ∨
      (Disk.upward ∈ folder.parts ∧ ∀ there, ¬ Disk.LeadsTo second folder there)) :
    first.tree.seen spot = none ∨
      (Disk.upward ∈ folder.parts ∧ ∀ there, ¬ Disk.LeadsTo first folder there) := by
  rcases hfresh with hnone | ⟨hup, haway⟩
  · refine .inl ?_
    cases h.becomes spot with
    | same hsame => rw [← hsame, hnone]
    | folder n hfree => exact hfree
    | record key t _ _ hwritten => simp [hwritten] at hnone
  · exact .inr ⟨hup, fun there hthere => haway there (h.leadsTo hthere)⟩

theorem trans (h : Grows folder stores first second) (h' : Grows folder stores second third) :
    Grows folder stores first third := by
  refine ⟨h'.home.trans h.home, fun spot => ?_⟩
  cases h'.becomes spot with
  | same hsame =>
    cases h.becomes spot with
    | same hseen => exact .same (hsame.trans hseen)
    | folder n hfree hmade hplace => exact .folder n hfree (hsame.trans hmade) (h'.place hplace)
    | record key t hstored hplace hwritten hbare hfresh =>
      exact .record key t hstored (h'.place hplace) (hsame.trans hwritten) hbare hfresh
  | folder n hfree hmade hplace =>
    refine .folder n ?_ hmade hplace
    cases h.becomes spot with
    | same hseen => rw [← hseen, hfree]
    | folder n hnone => exact hnone
    | record key t _ _ hwritten => simp [hwritten] at hfree
  | record key t hstored hplace hwritten hbare hfresh =>
    exact .record key t hstored hplace hwritten (fun hfolder => hbare (h.folders hfolder))
      (h.fresh_before hfresh)

theorem seen_outside (h : Grows folder stores old new) (houtside : Outside folder new spot) :
    new.tree.seen spot = old.tree.seen spot := by
  cases h.becomes spot with
  | same hseen => exact hseen
  | folder n _ _ hplace => exact absurd hplace (houtside.above n)
  | record key t _ hplace => exact absurd hplace (houtside.inside key)

-- Nothing at all is overwritten if the path to the folder has no step up, or led to it before.
theorem seen (h : Grows folder stores old new)
    (hfolder : Disk.upward ∉ folder.parts ∨ ∃ there, Disk.LeadsTo old folder there)
    {what : Option Bytes} (hseen : old.tree.seen spot = some what) :
    new.tree.seen spot = some what := by
  cases h.becomes spot with
  | same hsame => rw [hsame, hseen]
  | folder n hfree => simp [hfree] at hseen
  | record key t _ _ _ _ hfresh =>
    rcases hfresh with hnone | ⟨hup, haway⟩
    · simp [hnone] at hseen
    · rcases hfolder with hnot | ⟨there, hthere⟩
      · exact absurd hup hnot
      · exact absurd hthere (haway there)

end Grows

variable {folder : Path} {stores : Text → Text → Prop} {old made disk after : Disk} {key t : Text}

theorem grows_of_paves (h : Disk.Paves folder old made) : Grows folder stores old made := by
  refine ⟨h.home, fun spot => ?_⟩
  rcases h.seen spot with hsame | ⟨hfree, hmade, n, hplace⟩
  · exact .same hsame
  · exact .folder n hfree hmade hplace

-- A record is written where nothing was, unless the path did not lead to its folder before.
theorem fresh_of_place {spot : List Text} (hkey : isKey key)
    (hexists : disk.pathExists (folder.child key) = .ok false)
    (hplace : (disk.makeFolders folder).2.place (folder.child key) = .ok spot) :
    disk.tree.seen spot = none ∨
      (Disk.upward ∈ folder.parts ∧ ∀ there, ¬ Disk.LeadsTo disk folder there) := by
  -- what stands at the place cannot have been found there before
  have haway (hseen : disk.tree.seen spot ≠ none) : disk.place (folder.child key) ≠ .ok spot := by
    intro hbefore
    rw [Disk.pathExists_eq, hbefore] at hexists
    simp only [Except.ok.injEq, Option.isSome_eq_false_iff, Option.isNone_iff_eq_none] at hexists
    exact hseen hexists
  by_cases hseen : disk.tree.seen spot = none
  · exact .inl hseen
  refine .inr ⟨?_, fun there hthere => ?_⟩
  · by_contra hup
    have hchild : Disk.upward ∉ (folder.child key).parts := by
      simpa [Path.child, hup] using Ne.symm (ne_upward_of_isKey hkey)
    have hextends := Disk.extends_makeFolders disk folder
    exact haway hseen (hextends.place_before hchild hseen hplace)
  · rw [Disk.makeFolders_of_leadsTo hthere] at hplace
    exact haway hseen hplace

-- A store, failing or not, leaves its text behind, or folders, or nothing.
theorem grows_store (cache : Cache) (disk : Disk) (hstored : stores key t) :
    Grows cache.folder stores disk (cache.store disk key t).2.1 := by
  have hmade : Grows cache.folder stores disk (disk.makeFolders cache.folder).2 :=
    grows_of_paves (Disk.paves_makeFolders disk cache.folder)
  rcases store_disk_cases cache disk key t with hdisk | hdisk | ⟨hkey, hexists, hwrite⟩
  · rw [hdisk]
    exact .refl _ _ _
  · rw [hdisk]
    exact hmade
  · obtain ⟨spot, hplace, hbare, hhome, hseen⟩ := Disk.seen_of_writeFile hwrite
    have hstays {p : Path} {q : List Text} :=
      @Disk.place_of_folders _ _ hhome (fun _ => Disk.folders_of_writeFile hwrite) p q
    refine ⟨hhome.trans hmade.home, fun q => ?_⟩
    by_cases hq : q = spot
    · subst hq
      exact .record key t hstored (hstays hplace) (by rw [hseen, if_pos rfl])
        (fun hfolder => hbare (hmade.folders hfolder)) (fresh_of_place hkey hexists hplace)
    · have hsame := hseen q
      rw [if_neg hq] at hsame
      rcases (Disk.paves_makeFolders disk cache.folder).seen q with hkept | ⟨hfree, hfolder, n, hn⟩
      · exact .same (hsame.trans hkept)
      · exact .folder n hfree (hsame.trans hfolder) (hstays hn)

theorem home_store (cache : Cache) (disk : Disk) (key t : Text) :
    (cache.store disk key t).2.1.home = disk.home := by
  have hgrows : Grows cache.folder (fun _ _ => True) disk (cache.store disk key t).2.1 :=
    grows_store cache disk trivial
  exact hgrows.home

end Ghostwriter.Cache

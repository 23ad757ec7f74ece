import Ghostwriter.Proofs.Cache.Digest
import Ghostwriter.Proofs.Cache.Record
import Mathlib.Logic.Function.Basic

/-!
The folder of a cache, which may be missing until the first text is stored. It holds one file for
each key that has a text, and each operation of a cache reads or changes one of these texts.
-/

namespace Ghostwriter.Cache

open Ghostwriter.Text

theorem joinWith_concat (sep last : Text) (parts : List Text) (hne : parts ≠ []) :
    joinWith sep (parts ++ [last]) = joinWith sep parts ++ sep ++ last := by
  induction parts with
  | nil => exact absurd rfl hne
  | cons part rest ih =>
    cases rest with
    | nil => rfl
    | cons next others =>
      simp only [List.cons_append, joinWith] at ih ⊢
      rw [ih (by simp)]
      simp

-- A record has room below a folder with a short path.
theorem length_encode_child {folder : Path} (hparts : folder.parts ≠ []) (key : Text) :
    (encode (folder.child key).toText).length =
      (encode folder.toText).length + 1 + (encode key).length := by
  obtain ⟨part, rest, hrest⟩ := List.exists_cons_of_ne_nil hparts
  have htext (names : List Text) : Path.toText ⟨folder.root, part :: names⟩ =
      Path.rootText folder.root ++ joinWith ['/'] (part :: names) := by
    cases folder.root <;> rfl
  obtain ⟨root, parts⟩ := folder
  simp only at hrest htext
  subst hrest
  have hjoin := joinWith_concat ['/'] key (part :: rest) (by simp)
  rw [Path.child, List.cons_append, htext, htext, ← List.cons_append, hjoin]
  simp only [encode_append, List.length_append]
  have hslash : (encode ['/']).length = 1 := by decide
  omega

-- A path to the folder of a cache: the folder can be made there, holds no records then, though
-- perhaps other files, and has room for the paths of its records.
structure Opens (first made : Disk) (there : List Text) (folder : Path) : Prop where
  makes : first.makeFolders folder = (none, made)
  place : made.place folder = .ok there
  bare : ∃ others, made.tree.find? there = some (.folder others) ∧
    ∀ entry ∈ others, ¬ isKey entry.1
  fits : ∀ key, isKey key → (encode (folder.child key).toText).length ≤ Disk.maxPath

-- The records in a folder are these texts.
structure Holds (there : List Text) (texts : Text → Option Text) (tree : Node) : Prop where
  entries : ∃ entries, tree.find? there = some (.folder entries) ∧
    ((entries.map Prod.fst).filter isKey).Nodup ∧
    ∀ key, isKey key → entries.lookup key = (texts key).map fun t => .file (encode t)

-- The folder that all paths lead to holds these texts, or it has not been made yet.
inductive Stands (folders : Nat → Path) (first : Disk) (there : List Text)
    (texts : Text → Option Text) : Disk → Prop
  | made (disk : Disk) (leads : ∀ owner, Disk.LeadsTo disk (folders owner) there)
    (holds : Holds there texts disk.tree) : Stands folders first there texts disk
  | missing (absent : ∀ owner, first.stat (folders owner) = .error ⟨.missing, folders owner⟩)
    (empty : ∀ key, isKey key → texts key = none) : Stands folders first there texts first

section

variable {folders : Nat → Path} {first made disk : Disk} {there : List Text}
  {texts : Text → Option Text} {folder : Path} {key t : Text}

theorem Opens.home (h : Opens first made there folder) : made.home = first.home := by
  have hextends := Disk.extends_makeFolders first folder
  rw [h.makes] at hextends
  exact hextends.home

theorem Opens.leadsTo (h : Opens first made there folder) : Disk.LeadsTo made folder there := by
  obtain ⟨-, names, hnames, hwalk⟩ := (Disk.place_eq_ok_iff _ _ _).mp h.place
  obtain ⟨others, hothers, -⟩ := h.bare
  exact ⟨names, hnames, hwalk, (Node.find?_isFolder_iff _ _).mp ⟨others, hothers⟩⟩

theorem Opens.holds (h : Opens first made there folder)
    (hempty : ∀ key, isKey key → texts key = none) : Holds there texts made.tree := by
  obtain ⟨others, hothers, hbare⟩ := h.bare
  have hnames : ∀ name ∈ others.map Prod.fst, ¬ isKey name := by
    simpa using fun name node hmem => hbare (name, node) hmem
  refine ⟨others, hothers, ?_, fun key hkey => ?_⟩
  · rw [List.filter_eq_nil_iff.mpr hnames]
    exact List.nodup_nil
  · rw [hempty key hkey, Option.map_none, Node.lookup_eq_none_iff_not_mem]
    exact fun hmem => hnames key hmem hkey

theorem stands_opened (hopens : ∀ owner, Opens first made there (folders owner))
    (hempty : ∀ key, isKey key → texts key = none) :
    Stands folders first there texts first := by
  by_cases hled : ∃ owner spot, Disk.LeadsTo first (folders owner) spot
  · obtain ⟨owner, spot, hspot⟩ := hled
    have hsame := Disk.makeFolders_of_leadsTo hspot
    rw [(hopens owner).makes] at hsame
    subst hsame
    exact .made _ (fun other => (hopens other).leadsTo) ((hopens owner).holds hempty)
  · refine .missing (fun owner => ?_) hempty
    refine (Disk.leadsTo_or_missing (by rw [(hopens owner).makes])).resolve_left ?_
    exact fun hspot => hled ⟨owner, hspot⟩

-- No key is too long for a file name.
theorem length_encode_of_isKey (hkey : isKey key) : (encode key).length ≤ Disk.maxName := by
  simp only [isKey, Bool.and_eq_true, Bool.or_eq_true, decide_eq_true_eq, List.all_eq_true] at hkey
  obtain ⟨⟨hlength, hchars⟩, hrest⟩ := hkey
  have hascii : ∀ c ∈ key, c.toNat < 0x80 := by
    intro c hc
    rw [← List.take_append_drop 64 key, List.mem_append] at hc
    rcases hc with hc | hc
    · have hrange := (isKeyChar_iff c).mp (hchars c hc)
      omega
    · rcases hrest with hrest | hrest
      · rw [hrest] at hc
        cases hc
      · rw [hrest, List.mem_singleton] at hc
        rw [hc]
        decide
  have hdrop : (key.drop 64).length ≤ 1 := by
    rcases hrest with hrest | hrest <;> simp [hrest]
  rw [length_encode_of_ascii hascii, ← List.take_append_drop 64 key, List.length_append, hlength]
  have hname : Disk.maxName = 255 := rfl
  omega

theorem place_of_leadsTo (hfits : (encode (folder.child key).toText).length ≤ Disk.maxPath)
    (hkey : isKey key) (h : Disk.LeadsTo disk folder there) :
    disk.place (folder.child key) = .ok (there ++ [key]) := by
  have hname := length_encode_of_isKey hkey
  rw [h.place_child (ne_upward_of_isKey hkey), if_neg (by omega)]

theorem Opens.place_of_leadsTo (h : Opens first made there folder)
    (hleads : Disk.LeadsTo disk folder there) : disk.place folder = .ok there := by
  obtain ⟨hlength, -⟩ := (Disk.place_eq_ok_iff _ _ _).mp h.place
  obtain ⟨names, hnames, hwalk, -⟩ := hleads
  exact (Disk.place_eq_ok_iff _ _ _).mpr ⟨hlength, names, hnames, hwalk⟩

-- What is read where the record for a key would be.
theorem contents_of_stands (hopens : ∀ owner, Opens first made there (folders owner))
    (h : Stands folders first there texts disk) (owner : Nat) (hkey : isKey key) :
    disk.contents ((folders owner).child key) =
      match texts key with
      | some t => .ok (encode t)
      | none => .error ⟨.missing, (folders owner).child key⟩ := by
  have hfits := (hopens owner).fits key hkey
  unfold Disk.contents Disk.stat
  cases h with
  | made disk hleads hholds =>
    obtain ⟨entries, hentries, -, hlookup⟩ := hholds.entries
    rw [place_of_leadsTo hfits hkey (hleads owner)]
    simp only [Node.find?_child hentries, hlookup key hkey]
    cases texts key <;> rfl
  | missing habsent hempty =>
    obtain ⟨-, names, hnames, -⟩ := (Disk.place_eq_ok_iff _ _ _).mp (hopens owner).place
    rw [Disk.fromHome?_of_home (hopens owner).home] at hnames
    rw [Disk.place_child_of_missing hnames hfits (habsent owner), hempty key hkey]

theorem missing_of_stands (hopens : ∀ owner, Opens first made there (folders owner))
    (h : Stands folders first there texts disk) (owner : Nat) (hkey : isKey key)
    (hnone : texts key = none) : Missing (folders owner) disk key := by
  refine ⟨⟨.missing, (folders owner).child key⟩, ?_, rfl⟩
  rw [contents_of_stands hopens h owner hkey, hnone]

theorem record_of_stands (hopens : ∀ owner, Opens first made there (folders owner))
    (h : Stands folders first there texts disk) (owner : Nat) (hkey : isKey key)
    (hsome : texts key = some t) : record (folders owner) disk key = some t := by
  rw [record_eq_some_iff]
  refine ⟨encode t, ?_, decode_encode t⟩
  rw [contents_of_stands hopens h owner hkey, hsome]

-- Once the folder is made all paths lead to it.
theorem makeFolders_of_stands (hopens : ∀ owner, Opens first made there (folders owner))
    (h : Stands folders first there texts disk) (owner : Nat) :
    ∃ ready, disk.makeFolders (folders owner) = (none, ready) ∧
      (∀ other, Disk.LeadsTo ready (folders other) there) ∧ Holds there texts ready.tree := by
  cases h with
  | made disk hleads hholds =>
    have hplace := (hopens owner).place_of_leadsTo (hleads owner)
    exact ⟨disk, (hleads owner).makeFolders hplace, hleads, hholds⟩
  | missing habsent hempty =>
    exact ⟨made, (hopens owner).makes, fun other => (hopens other).leadsTo,
      (hopens owner).holds hempty⟩

theorem Holds.insert {tree : Node} (h : Holds there texts tree) (hkey : isKey key)
    (hnone : texts key = none) (t : Text) :
    Holds there (Function.update texts key (some t))
      (Node.insert (.file (encode t)) tree (there ++ [key])) := by
  obtain ⟨entries, hentries, hnodup, hlookup⟩ := h.entries
  have hfree : entries.lookup key = none := by rw [hlookup key hkey, hnone, Option.map_none]
  have hnew := (Node.lookup_eq_none_iff_not_mem _ _).mp hfree
  refine ⟨_, Node.find?_insert_child hentries key _, ?_, fun other hother => ?_⟩
  · rw [Node.put_of_lookup _ hfree, List.map_append, List.filter_append]
    simp only [List.map_cons, List.map_nil, List.filter_cons, hkey, if_true, List.filter_nil]
    refine List.nodup_append.mpr ⟨hnodup, by simp, ?_⟩
    rintro a ha b hb rfl
    rw [List.mem_singleton] at hb
    exact hnew (hb ▸ (List.mem_filter.mp ha).1)
  · by_cases hsame : other = key
    · subst hsame
      simp
    · rw [Node.lookup_put_of_ne _ _ hsame, Function.update_of_ne hsame, hlookup other hother]

theorem Holds.erase {tree : Node} (h : Holds there texts tree) (key : Text) :
    Holds there (Function.update texts key none) (Node.erase tree (there ++ [key])) := by
  obtain ⟨entries, hentries, hnodup, hlookup⟩ := h.entries
  refine ⟨_, Node.find?_erase_child hentries key, ?_, fun other hother => ?_⟩
  · refine hnodup.sublist (List.Sublist.filter _ ?_)
    exact List.Sublist.map _ List.filter_sublist
  · by_cases hsame : other = key
    · subst hsame
      rw [Node.lookup_filter_self, Function.update_self, Option.map_none]
    · rw [Node.lookup_filter_of_ne _ hsame, Function.update_of_ne hsame, hlookup other hother]

-- A key that has no text yet gets one.
theorem stands_write (hopens : ∀ owner, Opens first made there (folders owner))
    (hleads : ∀ owner, Disk.LeadsTo disk (folders owner) there)
    (hholds : Holds there texts disk.tree) (owner : Nat) (hkey : isKey key)
    (hnone : texts key = none) (t : Text) :
    ∃ after, disk.writeFile ((folders owner).child key) (encode t) = .ok after ∧
      Stands folders first there (Function.update texts key (some t)) after := by
  obtain ⟨entries, hentries, -, hlookup⟩ := hholds.entries
  have hplace := place_of_leadsTo ((hopens owner).fits key hkey) hkey (hleads owner)
  have hfind : disk.tree.find? (there ++ [key]) = none := by
    rw [Node.find?_child hentries, hlookup key hkey, hnone, Option.map_none]
  have hwrite : disk.writeFile ((folders owner).child key) (encode t) =
      .ok { disk with tree := Node.insert (.file (encode t)) disk.tree (there ++ [key]) } := by
    simp [Disk.writeFile, hplace, hfind]
  obtain ⟨spot, -, -, hhome, -⟩ := Disk.seen_of_writeFile hwrite
  have hlater (other : Nat) := (hleads other).of_folders hhome
    fun _ => Disk.folders_of_writeFile hwrite
  exact ⟨_, hwrite, .made _ hlater (hholds.insert hkey hnone t)⟩

-- A key that has a text loses it.
theorem stands_unlink (hopens : ∀ owner, Opens first made there (folders owner))
    (hleads : ∀ owner, Disk.LeadsTo disk (folders owner) there)
    (hholds : Holds there texts disk.tree) (owner : Nat) (hkey : isKey key)
    (hsome : texts key = some t) :
    ∃ after, disk.unlink ((folders owner).child key) = .ok after ∧
      Stands folders first there (Function.update texts key none) after := by
  obtain ⟨entries, hentries, -, hlookup⟩ := hholds.entries
  have hplace := place_of_leadsTo ((hopens owner).fits key hkey) hkey (hleads owner)
  have hfind : disk.tree.find? (there ++ [key]) = some (.file (encode t)) := by
    rw [Node.find?_child hentries, hlookup key hkey, hsome, Option.map_some]
  have hunlink : disk.unlink ((folders owner).child key) =
      .ok { disk with tree := disk.tree.erase (there ++ [key]) } := by
    simp [Disk.unlink, hplace, hfind]
  obtain ⟨spot, -, hfree, hhome, hseen⟩ := Disk.seen_of_unlink hunlink
  refine ⟨_, hunlink, .made _ (fun other => (hleads other).of_folders hhome fun q hq => ?_)
    (hholds.erase key)⟩
  have hne : q ≠ spot := by
    rintro rfl
    exact hfree hq
  rw [hseen q hne, hq]

theorem lookup_of_stands (hopens : ∀ owner, Opens first made there (folders owner))
    (h : Stands folders first there texts disk) {cache : Cache} {owner : Nat}
    (hfolder : cache.folder = folders owner) (hkey : isKey key) :
    ∃ events, cache.lookup disk key =
      (.ok (texts key),
        (match texts key with
          | some _ => { cache with hits := cache.hits + 1 }
          | none => { cache with misses := cache.misses + 1 }),
        events) := by
  have hcontents := contents_of_stands hopens h owner hkey
  unfold lookup
  rw [pathFor_of_isKey cache hkey, hfolder]
  simp only [hcontents]
  cases texts key with
  | none => exact ⟨_, rfl⟩
  | some t =>
    simp only [decode_encode]
    exact ⟨_, rfl⟩

-- A store succeeds. Only the first one has an effect.
theorem store_of_stands (hopens : ∀ owner, Opens first made there (folders owner))
    (h : Stands folders first there texts disk) {cache : Cache} {owner : Nat}
    (hfolder : cache.folder = folders owner) (hkey : isKey key) (t : Text) :
    ∃ after events, cache.store disk key t = (.ok ((folders owner).child key), after, events) ∧
      Stands folders first there (Function.update texts key ((texts key).or (some t))) after ∧
      ((texts key).isSome → after = disk) := by
  cases hkept : texts key with
  | some kept =>
    have hrecord := record_of_stands hopens h owner hkey hkept
    rw [← hfolder] at hrecord
    refine ⟨disk, _, by rw [store_of_exists hkey hrecord, hfolder], ?_, fun _ => rfl⟩
    rwa [Option.some_or, ← hkept, Function.update_eq_self]
  | none =>
    have hmissing := missing_of_stands hopens h owner hkey hkept
    obtain ⟨ready, hready, hleads, hholds⟩ := makeFolders_of_stands hopens h owner
    obtain ⟨after, hwrite, hafter⟩ := stands_write hopens hleads hholds owner hkey hkept t
    rw [← hfolder] at hmissing
    refine ⟨after, [.recordStored key t.length], ?_, hafter, fun hsome => by cases hsome⟩
    rw [store_of_missing hkey hmissing, write, hfolder]
    simp [hready, hwrite]

theorem discard_of_stands (hopens : ∀ owner, Opens first made there (folders owner))
    (h : Stands folders first there texts disk) {cache : Cache} {owner : Nat}
    (hfolder : cache.folder = folders owner) (hkey : isKey key) :
    ∃ after events, cache.discard disk key = (.ok (texts key).isSome, after, events) ∧
      Stands folders first there (Function.update texts key none) after := by
  unfold discard
  rw [pathFor_of_isKey cache hkey, hfolder]
  cases hkept : texts key with
  | some kept =>
    cases h with
    | made disk hleads hholds =>
      obtain ⟨after, hunlink, hafter⟩ := stands_unlink hopens hleads hholds owner hkey hkept
      exact ⟨after, [.recordDiscarded key], by simp [hunlink], hafter⟩
    | missing habsent hempty =>
      rw [hempty key hkey] at hkept
      cases hkept
  | none =>
    have hcontents := contents_of_stands hopens h owner hkey
    rw [hkept] at hcontents
    have hunlink := Disk.unlink_of_missing hcontents
    refine ⟨disk, [], by simp [hunlink], ?_⟩
    rwa [← hkept, Function.update_eq_self]

theorem pairwise_mergeSort_of_nodup {keys : List Text} (h : keys.Nodup) :
    (keys.mergeSort fun a b => !b.lex a).Pairwise (· < ·) := by
  have hle : (keys.mergeSort fun a b => !b.lex a).Pairwise fun a b => (!b.lex a) = true := by
    refine List.pairwise_mergeSort (fun a b c hab hbc => ?_) (fun a b => ?_) keys
    · rw [Bool.not_eq_true', List.lex_eq_false_iff_ge] at hab hbc ⊢
      exact List.le_trans hab hbc
    · rw [Bool.or_eq_true, Bool.not_eq_true', Bool.not_eq_true', List.lex_eq_false_iff_ge,
        List.lex_eq_false_iff_ge]
      exact List.le_total a b
  have hne := (List.mergeSort_perm keys fun a b => !b.lex a).nodup_iff.mpr h
  refine (hle.and hne).imp fun {a b} ⟨hab, hdistinct⟩ => ?_
  rw [Bool.not_eq_true', List.lex_eq_false_iff_ge] at hab
  by_contra hnot
  exact hdistinct (List.le_antisymm hab (List.not_lt.mp hnot))

theorem entries_of_stands (hopens : ∀ owner, Opens first made there (folders owner))
    (h : Stands folders first there texts disk) {cache : Cache} {owner : Nat}
    (hfolder : cache.folder = folders owner) :
    ∃ keys, cache.entries disk = .ok keys ∧ keys.Pairwise (· < ·) ∧
      ∀ key, key ∈ keys ↔ isKey key ∧ (texts key).isSome := by
  unfold entries
  rw [hfolder]
  cases h with
  | made disk hleads hholds =>
    have hplace := (hopens owner).place_of_leadsTo (hleads owner)
    obtain ⟨entries, hentries, hnodup, hlookup⟩ := hholds.entries
    have hnames : disk.names (folders owner) = .ok (entries.map Prod.fst) := by
      simp [Disk.names, Disk.stat, hplace, hentries]
    simp only [(hleads owner).isFolder hplace, hnames]
    refine ⟨_, rfl, pairwise_mergeSort_of_nodup hnodup, fun key => ?_⟩
    rw [List.mem_mergeSort, List.mem_filter, and_comm, and_congr_right_iff]
    intro hkey
    have hmem := not_congr (Node.lookup_eq_none_iff_not_mem key entries)
    rw [not_not, hlookup key hkey, Option.map_eq_none_iff] at hmem
    rw [← hmem, Option.isSome_iff_ne_none]
  | missing habsent hempty =>
    have hnot : first.isFolder (folders owner) = .ok false := by
      simp [Disk.isFolder, Disk.ask, habsent owner]
    simp only [hnot]
    refine ⟨[], rfl, List.Pairwise.nil, fun key => ?_⟩
    simp only [List.not_mem_nil, false_iff, not_and]
    intro hkey
    simp [hempty key hkey]

end

end Ghostwriter.Cache

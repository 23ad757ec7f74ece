import Ghostwriter.Files.Disk
import Mathlib.Data.List.Infix

/-!
What is seen at the places of a tree of files: nothing, a folder, or a file with its content. Each
change of a tree changes what is seen at one place.
-/

namespace Ghostwriter.Node

open Ghostwriter.Text

-- `none` is nothing, `some none` a folder, and `some (some content)` a file.
def seen (tree : Node) (spot : List Text) : Option (Option Bytes) :=
  (tree.find? spot).map fun
    | .file content => some content
    | .folder _ => none

@[simp] theorem seen_file_nil (content : Bytes) : (file content).seen [] = some (some content) := rfl

@[simp] theorem seen_folder_nil (entries : List (Text × Node)) :
    (folder entries).seen [] = some none := rfl

@[simp] theorem seen_file_cons (content : Bytes) (name : Text) (rest : List Text) :
    (file content).seen (name :: rest) = none := rfl

theorem seen_folder_cons (entries : List (Text × Node)) (name : Text) (rest : List Text) :
    (folder entries).seen (name :: rest) = (entries.lookup name).bind (·.seen rest) := by
  simp only [seen, find?]
  cases entries.lookup name <;> rfl

example : (folder [("a".toList, .file [0x78])]).seen ["a".toList] = some (some [0x78]) := by
  decide +kernel

theorem find?_eq_none_iff (tree : Node) (spot : List Text) :
    tree.find? spot = none ↔ tree.seen spot = none := by
  simp [seen]

theorem find?_isFolder_iff (tree : Node) (spot : List Text) :
    (∃ entries, tree.find? spot = some (.folder entries)) ↔ tree.seen spot = some none := by
  unfold seen
  cases tree.find? spot with
  | none => simp
  | some node => cases node <;> simp

theorem find?_isFile_iff (tree : Node) (spot : List Text) (content : Bytes) :
    tree.find? spot = some (.file content) ↔ tree.seen spot = some (some content) := by
  unfold seen
  cases tree.find? spot with
  | none => simp
  | some node => cases node <;> simp

-- Whatever stands somewhere below a place stands below a folder.
theorem seen_above (tree : Node) (here : List Text) (name : Text) (rest : List Text)
    (h : tree.seen (here ++ name :: rest) ≠ none) : tree.seen here = some none := by
  induction here generalizing tree with
  | nil =>
    cases tree with
    | file content => simp at h
    | folder entries => rfl
  | cons first here ih =>
    cases tree with
    | file content => simp at h
    | folder entries =>
      rw [List.cons_append, seen_folder_cons] at h
      rw [seen_folder_cons]
      cases hlookup : entries.lookup first with
      | none => simp [hlookup] at h
      | some node =>
        rw [hlookup] at h
        exact ih node h

private theorem lookup_cons_eq (name first : Text) (node : Node) (rest : List (Text × Node)) :
    ((first, node) :: rest).lookup name =
      if name = first then some node else rest.lookup name := by
  by_cases h : name = first
  · simp [h]
  · simp [List.lookup_cons, h, beq_eq_false_iff_ne.mpr h]

@[simp] theorem lookup_put_self (name : Text) (node : Node) (entries : List (Text × Node)) :
    (put name node entries).lookup name = some node := by
  induction entries with
  | nil => simp [put]
  | cons entry rest ih =>
    obtain ⟨other, old⟩ := entry
    by_cases h : other = name
    · simp [put, h]
    · simp [put, h, lookup_cons_eq, Ne.symm h, ih]

theorem lookup_put_of_ne {name other : Text} (node : Node) (entries : List (Text × Node))
    (hne : other ≠ name) : (put name node entries).lookup other = entries.lookup other := by
  induction entries with
  | nil => simp [put, lookup_cons_eq, hne]
  | cons entry rest ih =>
    obtain ⟨first, old⟩ := entry
    by_cases h : first = name
    · subst h
      simp [put, lookup_cons_eq, hne]
    · simp [put, h, lookup_cons_eq, ih]

theorem lookup_filter_of_ne {name other : Text} (entries : List (Text × Node))
    (hne : other ≠ name) :
    (entries.filter fun entry => entry.1 ≠ name).lookup other = entries.lookup other := by
  induction entries with
  | nil => rfl
  | cons entry rest ih =>
    obtain ⟨first, old⟩ := entry
    by_cases h : first = name
    · subst h
      rw [List.filter_cons_of_neg (by simp), ih, lookup_cons_eq, if_neg hne]
    · rw [List.filter_cons_of_pos (by simp [h]), lookup_cons_eq, lookup_cons_eq, ih]

theorem lookup_filter_self (name : Text) (entries : List (Text × Node)) :
    (entries.filter fun entry => entry.1 ≠ name).lookup name = none := by
  induction entries with
  | nil => rfl
  | cons entry rest ih =>
    obtain ⟨first, old⟩ := entry
    by_cases h : first = name
    · rw [List.filter_cons_of_neg (by simp [h]), ih]
    · rw [List.filter_cons_of_pos (by simp [h]), lookup_cons_eq, if_neg (Ne.symm h), ih]

-- What is seen once a node stands under a name in a folder that was there: at its place and below
-- it, what the node shows; anywhere else, what was seen before.
theorem seen_insert (new tree : Node) (here : List Text) (name : Text) (spot : List Text)
    (hhere : tree.seen here = some none) :
    (insert new tree (here ++ [name])).seen spot =
      if here ++ [name] <+: spot then new.seen (spot.drop (here.length + 1)) else tree.seen spot := by
  induction here generalizing tree spot with
  | nil =>
    cases tree with
    | file content => simp at hhere
    | folder entries =>
      cases spot with
      | nil => simp [insert]
      | cons first rest =>
        by_cases hname : first = name
        · subst hname
          simp [insert, seen_folder_cons]
        · simp [insert, seen_folder_cons, lookup_put_of_ne _ _ hname, Ne.symm hname]
  | cons outer here ih =>
    cases tree with
    | file content => simp at hhere
    | folder entries =>
      rw [seen_folder_cons] at hhere
      obtain ⟨inner, hlookup, hinner⟩ := Option.bind_eq_some_iff.mp hhere
      cases spot with
      | nil => simp [insert]
      | cons first rest =>
        by_cases hname : first = outer
        · subst hname
          simp [insert, seen_folder_cons, hlookup, ih inner rest hinner]
        · simp [insert, seen_folder_cons, lookup_put_of_ne _ _ hname, Ne.symm hname]

-- A new file, or a file in the place of another one.
theorem seen_insert_file (content : Bytes) (tree : Node) (here : List Text) (name : Text)
    (spot : List Text) (hhere : tree.seen here = some none)
    (hplace : tree.seen (here ++ [name]) ≠ some none) :
    (insert (.file content) tree (here ++ [name])).seen spot =
      if spot = here ++ [name] then some (some content) else tree.seen spot := by
  rw [seen_insert _ _ _ _ _ hhere]
  by_cases hspot : spot = here ++ [name]
  · subst hspot
    simp
  · rw [if_neg hspot]
    split_ifs with hprefix
    · obtain ⟨below, rfl⟩ := hprefix
      obtain ⟨first, rest, rfl⟩ : ∃ first rest, below = first :: rest := by
        cases below with
        | nil => simp at hspot
        | cons first rest => exact ⟨first, rest, rfl⟩
      -- nothing stood below the place before, since no folder stood there
      have hbelow : tree.seen (here ++ [name] ++ first :: rest) = none := by
        by_contra h
        exact hplace (seen_above _ _ _ _ h)
      rw [hbelow]
      simp
    · rfl

-- A new folder where nothing was.
theorem seen_insert_folder (tree : Node) (here : List Text) (name : Text) (spot : List Text)
    (hhere : tree.seen here = some none) (hplace : tree.seen (here ++ [name]) = none) :
    (insert (.folder []) tree (here ++ [name])).seen spot =
      if spot = here ++ [name] then some none else tree.seen spot := by
  rw [seen_insert _ _ _ _ _ hhere]
  by_cases hspot : spot = here ++ [name]
  · subst hspot
    simp
  · rw [if_neg hspot]
    split_ifs with hprefix
    · obtain ⟨below, rfl⟩ := hprefix
      obtain ⟨first, rest, rfl⟩ : ∃ first rest, below = first :: rest := by
        cases below with
        | nil => simp at hspot
        | cons first rest => exact ⟨first, rest, rfl⟩
      have hbelow : tree.seen (here ++ [name] ++ first :: rest) = none := by
        by_contra h
        have hfolder := seen_above _ _ _ _ h
        rw [hplace] at hfolder
        cases hfolder
      rw [hbelow]
      simp [seen_folder_cons]
    · rfl

-- What is seen once a file is gone.
theorem seen_erase_file (tree : Node) (here : List Text) (name : Text) (spot : List Text)
    (content : Bytes) (hfile : tree.seen (here ++ [name]) = some (some content)) :
    (erase tree (here ++ [name])).seen spot =
      if spot = here ++ [name] then none else tree.seen spot := by
  induction here generalizing tree spot with
  | nil =>
    cases tree with
    | file content => simp at hfile
    | folder entries =>
      rw [List.nil_append, seen_folder_cons] at hfile
      obtain ⟨node, hlookup, hnode⟩ := Option.bind_eq_some_iff.mp hfile
      cases spot with
      | nil => simp [erase]
      | cons first rest =>
        by_cases hname : first = name
        · subst hname
          have hnone : ((folder entries).erase [first]).seen (first :: rest) = none := by
            rw [erase, seen_folder_cons, lookup_filter_self]
            rfl
          cases node with
          | folder entries => simp at hnode
          | file content =>
            rw [List.nil_append, hnone, seen_folder_cons, hlookup]
            cases rest <;> simp
        · rw [List.nil_append, erase, seen_folder_cons, lookup_filter_of_ne _ hname]
          simp [hname, seen_folder_cons]
  | cons outer here ih =>
    cases tree with
    | file content => simp at hfile
    | folder entries =>
      rw [List.cons_append, seen_folder_cons] at hfile
      obtain ⟨inner, hlookup, hinner⟩ := Option.bind_eq_some_iff.mp hfile
      have herase : (folder entries).erase (outer :: here ++ [name]) =
          folder (put outer (inner.erase (here ++ [name])) entries) := by
        cases here <;> simp [erase, hlookup]
      cases spot with
      | nil =>
        rw [herase]
        simp
      | cons first rest =>
        by_cases hname : first = outer
        · subst hname
          rw [herase, seen_folder_cons, lookup_put_self]
          simp [seen_folder_cons, hlookup, ih inner rest hinner]
        · rw [herase, seen_folder_cons, lookup_put_of_ne _ _ hname]
          simp [hname, seen_folder_cons]

theorem put_of_lookup {name : Text} (node : Node) {entries : List (Text × Node)}
    (h : entries.lookup name = none) : put name node entries = entries ++ [(name, node)] := by
  induction entries with
  | nil => rfl
  | cons entry rest ih =>
    obtain ⟨first, old⟩ := entry
    rw [lookup_cons_eq] at h
    split_ifs at h with hname
    rw [put, if_neg (Ne.symm hname), ih h, List.cons_append]

theorem lookup_eq_none_iff_not_mem (name : Text) (entries : List (Text × Node)) :
    entries.lookup name = none ↔ name ∉ entries.map Prod.fst := by
  induction entries with
  | nil => simp
  | cons entry rest ih =>
    obtain ⟨first, old⟩ := entry
    rw [lookup_cons_eq, List.map_cons, List.mem_cons, not_or, ← ih]
    split_ifs with hname
    · simp [hname]
    · simp [hname]

-- What stands under a name in a folder.
theorem find?_child {tree : Node} {here : List Text} {entries : List (Text × Node)}
    (h : tree.find? here = some (.folder entries)) (name : Text) :
    tree.find? (here ++ [name]) = entries.lookup name := by
  induction here generalizing tree with
  | nil =>
    simp only [find?, Option.some.injEq] at h
    subst h
    simp only [List.nil_append, find?]
    cases entries.lookup name <;> rfl
  | cons outer here ih =>
    cases tree with
    | file content => simp [find?] at h
    | folder around =>
      simp only [find?, List.cons_append] at h ⊢
      cases hlookup : around.lookup outer with
      | none => simp [hlookup] at h
      | some inner =>
        simp only [hlookup] at h ⊢
        exact ih h

theorem find?_insert_child {tree : Node} {here : List Text} {entries : List (Text × Node)}
    (h : tree.find? here = some (.folder entries)) (name : Text) (new : Node) :
    (insert new tree (here ++ [name])).find? here = some (.folder (put name new entries)) := by
  induction here generalizing tree with
  | nil =>
    simp only [find?, Option.some.injEq] at h
    subst h
    simp [insert, find?]
  | cons outer here ih =>
    cases tree with
    | file content => simp [find?] at h
    | folder around =>
      simp only [find?] at h
      cases hlookup : around.lookup outer with
      | none => simp [hlookup] at h
      | some inner =>
        simp only [hlookup] at h
        simp [insert, find?, hlookup, ih h]

theorem find?_erase_child {tree : Node} {here : List Text} {entries : List (Text × Node)}
    (h : tree.find? here = some (.folder entries)) (name : Text) :
    (erase tree (here ++ [name])).find? here =
      some (.folder (entries.filter fun entry => entry.1 ≠ name)) := by
  induction here generalizing tree with
  | nil =>
    simp only [find?, Option.some.injEq] at h
    subst h
    rfl
  | cons outer here ih =>
    cases tree with
    | file content => simp [find?] at h
    | folder around =>
      simp only [find?] at h
      cases hlookup : around.lookup outer with
      | none => simp [hlookup] at h
      | some inner =>
        simp only [hlookup] at h
        have herase : erase (folder around) (outer :: here ++ [name]) =
            folder (put outer (inner.erase (here ++ [name])) around) := by
          cases here <;> simp [erase, hlookup]
        rw [herase]
        simp only [find?, lookup_put_self]
        exact ih h

end Ghostwriter.Node

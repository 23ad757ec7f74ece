import Ghostwriter.Text.Basic
import Mathlib.Data.List.Chain

/-!
Line ends: the two ways to write them, and what a text is with one of them throughout.
-/

namespace Ghostwriter.Text

-- The text with a carriage return before each line feed.
def withReturns : Text → Text
  | [] => []
  | c :: rest => if c = '\n' then '\r' :: '\n' :: withReturns rest else c :: withReturns rest

@[simp]
theorem withReturns_nil : withReturns [] = [] := rfl

theorem withReturns_newline (rest : Text) :
    withReturns ('\n' :: rest) = '\r' :: '\n' :: withReturns rest :=
  if_pos rfl

theorem withReturns_cons {c : Char} (rest : Text) (h : c ≠ '\n') :
    withReturns (c :: rest) = c :: withReturns rest :=
  if_neg h

theorem unifyBreaks_of_not_mem {t : Text} (h : '\r' ∉ t) : unifyBreaks t = t := by
  induction t with
  | nil => rfl
  | cons c t ih =>
    rw [List.mem_cons, not_or] at h
    rw [unifyBreaks_cons t (Ne.symm h.1), ih h.2]

theorem return_not_mem_unifyBreaks (t : Text) : '\r' ∉ unifyBreaks t := by
  fun_induction unifyBreaks t with
  | case1 => simp
  | case2 rest ih => simp [ih]
  | case3 c rest _ ih =>
    rw [List.mem_cons, not_or]
    refine ⟨?_, ih⟩
    split
    · decide
    · exact Ne.symm ‹_›

theorem length_unifyBreaks (t : Text) : (unifyBreaks t).length ≤ t.length := by
  fun_induction unifyBreaks t with
  | case1 => simp
  | case2 rest ih =>
    simp only [List.length_cons]
    omega
  | case3 c rest _ ih =>
    simp only [List.length_cons]
    omega

theorem unifyBreaks_withReturns {t : Text} (h : '\r' ∉ t) : unifyBreaks (withReturns t) = t := by
  induction t with
  | nil => rfl
  | cons c t ih =>
    rw [List.mem_cons, not_or] at h
    by_cases hc : c = '\n'
    · rw [hc, withReturns_newline, unifyBreaks, ih h.2]
    · rw [withReturns_cons t hc, unifyBreaks_cons _ (Ne.symm h.1), ih h.2]

theorem withReturns_append (a b : Text) :
    withReturns (a ++ b) = withReturns a ++ withReturns b := by
  induction a with
  | nil => rfl
  | cons c a ih =>
    rw [List.cons_append]
    by_cases hc : c = '\n'
    · rw [hc, withReturns_newline, withReturns_newline, ih, List.cons_append, List.cons_append]
    · rw [withReturns_cons _ hc, withReturns_cons _ hc, ih, List.cons_append]

theorem withReturns_of_not_mem {t : Text} (h : '\n' ∉ t) : withReturns t = t := by
  induction t with
  | nil => rfl
  | cons c t ih =>
    rw [List.mem_cons, not_or] at h
    rw [withReturns_cons t (Ne.symm h.1), ih h.2]

theorem mem_withReturns {c : Char} {t : Text} (hc : c ≠ '\r') : c ∈ withReturns t ↔ c ∈ t := by
  induction t with
  | nil => rfl
  | cons d t ih =>
    by_cases hd : d = '\n'
    · rw [hd, withReturns_newline, List.mem_cons, List.mem_cons, List.mem_cons, ih]
      exact or_iff_right hc
    · rw [withReturns_cons t hd, List.mem_cons, List.mem_cons, ih]

-- What has no line ends is the same text with either of them.
theorem withReturns_eq_iff {t u : Text} (h : '\n' ∉ u) : withReturns t = u ↔ t = u := by
  constructor
  · rintro rfl
    rw [mem_withReturns (by decide)] at h
    exact (withReturns_of_not_mem h).symm
  · rintro rfl
    exact withReturns_of_not_mem h

theorem lines_withReturns (t : Text) : lines (withReturns t) = (lines t).map withReturns := by
  induction t with
  | nil => rfl
  | cons c t ih =>
    by_cases hc : c = '\n'
    · rw [hc, withReturns_newline]
      simp [lines, ih, withReturns_newline]
    · rw [withReturns_cons t hc, lines, if_neg hc, lines, if_neg hc, ih]
      cases lines t <;> simp [withReturns_cons _ hc]

theorem withReturns_flatten (rows : List Text) :
    (rows.map withReturns).flatten = withReturns rows.flatten := by
  induction rows with
  | nil => rfl
  | cons row rows ih => rw [List.map_cons, List.flatten_cons, List.flatten_cons, withReturns_append, ih]

section

variable {a b t u : Text} {c : Char}

theorem unifyBreaks_append_of_not_mem (h : '\r' ∉ a) :
    unifyBreaks (a ++ b) = a ++ unifyBreaks b := by
  induction a with
  | nil => rfl
  | cons c a ih =>
    rw [List.mem_cons, not_or] at h
    rw [List.cons_append, unifyBreaks_cons _ (Ne.symm h.1), ih h.2, List.cons_append]

-- Only a carriage return and a line feed belong together.
theorem unifyBreaks_append (h : a.getLast? ≠ some '\r') :
    unifyBreaks (a ++ b) = unifyBreaks a ++ unifyBreaks b := by
  fun_induction unifyBreaks a with
  | case1 => rfl
  | case2 rest ih =>
    have hlast : rest.getLast? ≠ some '\r' := by
      cases rest with
      | nil => simp
      | cons d rest => simpa using h
    simp [unifyBreaks, ih hlast]
  | case3 c rest hpair ih =>
    have hlast : rest.getLast? ≠ some '\r' := by
      cases rest with
      | nil => simp
      | cons d rest => simpa using h
    rw [List.cons_append, unifyBreaks, ih hlast, List.cons_append]
    intro others hc heq
    cases rest with
    | nil => exact h (by simp [hc])
    | cons d rest =>
      cases heq
      exact hpair rest hc rfl

-- A character that is no line end is there before.
theorem exists_of_unifyBreaks (hc : c ≠ '\n') (h : unifyBreaks t = c :: u) :
    ∃ rest, t = c :: rest ∧ u = unifyBreaks rest := by
  fun_cases unifyBreaks t with
  | case1 => cases h
  | case2 rest =>
    rw [unifyBreaks] at h
    exact absurd (List.cons.inj h).1.symm hc
  | case3 d rest hpair =>
    rw [unifyBreaks] at h
    · obtain ⟨hd, hrest⟩ := List.cons.inj h
      split at hd
      · exact absurd hd.symm hc
      · exact ⟨rest, by rw [hd], hrest.symm⟩
    · exact hpair

theorem mem_unifyBreaks (hfeed : c ≠ '\n') (hreturn : c ≠ '\r') : c ∈ unifyBreaks t ↔ c ∈ t := by
  fun_induction unifyBreaks t with
  | case1 => rfl
  | case2 rest ih => simp [hfeed, hreturn, ih]
  | case3 d rest _ ih =>
    rw [List.mem_cons, List.mem_cons, ih]
    split
    · rename_i hd
      simp [hfeed, hd, hreturn]
    · rfl

end

-- Each line feed has a carriage return right before it, if it has anything before it.
def Returned (t : Text) : Prop := t.IsChain fun a b => b = '\n' → a = '\r'

theorem returned_withReturns (t : Text) :
    Returned (withReturns t) ∧ (withReturns t).head? ≠ some '\n' := by
  induction t with
  | nil => exact ⟨List.isChain_nil, by simp⟩
  | cons c t ih =>
    obtain ⟨hreturned, hhead⟩ := ih
    have hcons (a : Char) : Returned (a :: withReturns t) := by
      refine hreturned.cons ?_
      rintro b hb rfl
      exact absurd hb hhead
    by_cases hc : c = '\n'
    · rw [hc, withReturns_newline]
      exact ⟨(hcons '\n').cons (by simp), by simp⟩
    · rw [withReturns_cons t hc]
      exact ⟨hcons c, by simpa using hc⟩

-- What stands before a line feed holds a carriage return.
theorem Returned.return_mem {before after : Text} (h : Returned (before ++ '\n' :: after))
    (hne : before ≠ []) : '\r' ∈ before := by
  have hlast := h.rel_getLast_head_of_append hne (List.cons_ne_nil _ _) rfl
  exact hlast ▸ List.getLast_mem hne

end Ghostwriter.Text

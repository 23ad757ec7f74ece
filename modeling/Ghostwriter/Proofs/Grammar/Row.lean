import Ghostwriter.Grammar.Line
import Mathlib.Data.List.TakeWhile

/-!
What the rows of a text come to: the marks of its parts one after the other, and the logical lines
between the ends. Blanks at the end of a row change nothing.
-/

namespace Ghostwriter.Grammar

open Ghostwriter.Text Ghostwriter.Lexeme

section

variable {α : Type} {p : α → Bool}

theorem splitWhere_ne_nil (xs : List α) : splitWhere p xs ≠ [] := by
  cases xs with
  | nil => simp [splitWhere]
  | cons x xs =>
    rw [splitWhere]
    split
    · simp
    · split <;> simp

theorem splitWhere_cons_pos {x : α} (xs : List α) (h : p x = true) :
    splitWhere p (x :: xs) = [] :: splitWhere p xs := by
  rw [splitWhere]
  split
  case h_1 hnil => exact absurd hnil (splitWhere_ne_nil xs)
  case h_2 first others hsplit => simp [h, hsplit]

theorem splitWhere_cons_neg {x : α} {xs first : List α} {others : List (List α)}
    (h : p x = false) (hsplit : splitWhere p xs = first :: others) :
    splitWhere p (x :: xs) = (x :: first) :: others := by
  rw [splitWhere, hsplit]
  simp [h]

theorem splitWhere_append_cons {x : α} (xs ys : List α) (h : p x = true) :
    splitWhere p (xs ++ x :: ys) = splitWhere p xs ++ splitWhere p ys := by
  induction xs with
  | nil => exact splitWhere_cons_pos ys h
  | cons y xs ih =>
    by_cases hy : p y = true
    · rw [List.cons_append, splitWhere_cons_pos _ hy, splitWhere_cons_pos _ hy, ih]
      rfl
    · rw [Bool.not_eq_true] at hy
      obtain ⟨first, others, hsplit⟩ := List.exists_cons_of_ne_nil (splitWhere_ne_nil (p := p) xs)
      rw [hsplit] at ih
      rw [List.cons_append, splitWhere_cons_neg hy ih, splitWhere_cons_neg hy hsplit]
      rfl

-- Items that split nothing belong to the last piece.
theorem splitWhere_append {xs ys : List α} (h : ∀ y ∈ ys, p y = false) :
    ∃ before last, splitWhere p xs = before ++ [last] ∧
      splitWhere p (xs ++ ys) = before ++ [last ++ ys] := by
  induction xs with
  | nil =>
    refine ⟨[], [], rfl, ?_⟩
    induction ys with
    | nil => rfl
    | cons y ys ih =>
      rw [List.forall_mem_cons] at h
      exact splitWhere_cons_neg h.1 (ih h.2)
  | cons x xs ih =>
    obtain ⟨before, last, hsplit, happend⟩ := ih
    by_cases hx : p x = true
    · refine ⟨[] :: before, last, ?_, ?_⟩
      · rw [splitWhere_cons_pos _ hx, hsplit]
        rfl
      · rw [List.cons_append, splitWhere_cons_pos _ hx, happend]
        rfl
    · rw [Bool.not_eq_true] at hx
      cases before with
      | nil =>
        refine ⟨[], x :: last, splitWhere_cons_neg hx hsplit, ?_⟩
        rw [List.cons_append, splitWhere_cons_neg hx happend]
        rfl
      | cons first before =>
        refine ⟨(x :: first) :: before, last, splitWhere_cons_neg hx hsplit, ?_⟩
        rw [List.cons_append, splitWhere_cons_neg hx happend]
        rfl

end

namespace RowState

variable {s s' last : RowState} {a b : Text} {marks marks' : List Mark}

theorem run?_cons {c : Char} {t : Text} {mark : Option Mark} (h : s.step? c = some (mark, s'))
    (hrest : s'.run? t = some (marks, last)) :
    s.run? (c :: t) = some (mark.toList ++ marks, last) := by
  simp [run?, h, hrest]

theorem exists_of_run?_cons {c : Char} {t : Text} (h : s.run? (c :: t) = some (marks, last)) :
    ∃ mark next others, s.step? c = some (mark, next) ∧ next.run? t = some (others, last) ∧
      marks = mark.toList ++ others := by
  simp only [run?, Option.bind_eq_bind, Option.bind_eq_some_iff, Option.some.injEq,
    Prod.mk.injEq] at h
  obtain ⟨⟨mark, next⟩, hstep, ⟨others, final⟩, hrest, rfl, rfl⟩ := h
  exact ⟨mark, next, others, hstep, hrest, rfl⟩

theorem run?_append (ha : s.run? a = some (marks, s')) (hb : s'.run? b = some (marks', last)) :
    s.run? (a ++ b) = some (marks ++ marks', last) := by
  induction a generalizing s marks with
  | nil =>
    cases ha
    exact hb
  | cons c a ih =>
    obtain ⟨mark, next, others, hstep, hrest, rfl⟩ := exists_of_run?_cons ha
    simp [run?, hstep, ih hrest]

theorem run?_split (h : s.run? (a ++ b) = some (marks, last)) :
    ∃ marks₁ middle marks₂, s.run? a = some (marks₁, middle) ∧
      middle.run? b = some (marks₂, last) ∧ marks = marks₁ ++ marks₂ := by
  induction a generalizing s marks with
  | nil => exact ⟨[], s, marks, rfl, h, rfl⟩
  | cons c a ih =>
    obtain ⟨mark, next, others, hstep, hrest, rfl⟩ := exists_of_run?_cons h
    obtain ⟨marks₁, middle, marks₂, ha, hb, rfl⟩ := ih hrest
    exact ⟨mark.toList ++ marks₁, middle, marks₂, by simp [run?, hstep, ha], hb, by simp⟩

theorem marks?_append (ha : s.run? a = some (marks, s')) :
    s.marks? (a ++ b) = (s'.marks? b).map (marks ++ ·) := by
  unfold marks?
  cases hb : s'.run? b with
  | none =>
    have hnone : s.run? (a ++ b) = none := by
      rw [Option.eq_none_iff_forall_not_mem]
      rintro ⟨both, final⟩ hboth
      obtain ⟨_, _, _, ha', hb', _⟩ := run?_split hboth
      rw [ha] at ha'
      cases ha'
      rw [hb] at hb'
      cases hb'
    simp [hnone]
  | some result =>
    obtain ⟨marks', last⟩ := result
    rw [run?_append ha hb]
    simp only
    split
    · split <;> simp
    · rfl

theorem marks?_split (h : s.marks? (a ++ b) = some marks) :
    ∃ marks₁ middle marks₂, s.run? a = some (marks₁, middle) ∧ middle.marks? b = some marks₂ ∧
      marks = marks₁ ++ marks₂ := by
  cases ha : s.run? a with
  | none =>
    have hnone : s.run? (a ++ b) = none := by
      rw [Option.eq_none_iff_forall_not_mem]
      rintro ⟨both, final⟩ hboth
      obtain ⟨_, _, _, ha', _⟩ := run?_split hboth
      rw [ha] at ha'
      cases ha'
    simp [marks?, hnone] at h
  | some result =>
    obtain ⟨marks₁, middle⟩ := result
    rw [marks?_append ha] at h
    obtain ⟨marks₂, hb, rfl⟩ := Option.map_eq_some_iff.mp h
    exact ⟨marks₁, middle, marks₂, rfl, hb, rfl⟩

theorem marks?_cons {c : Char} {mark : Option Mark} (h : s.step? c = some (mark, s')) :
    s.marks? (c :: a) = (s'.marks? a).map (mark.toList ++ ·) :=
  marks?_append (a := [c]) (by simp [run?, h])

theorem marks?_cons_none {c : Char} (h : s.step? c = none) : s.marks? (c :: a) = none := by
  simp [marks?, run?, h]

end RowState

end Ghostwriter.Grammar

import Ghostwriter.Proofs.Grammar.Row
import Ghostwriter.Proofs.Splice.Cut

/-!
Indenting, character by character: behind each line feed comes the indent, unless the row there
stays as it is.
-/

namespace Ghostwriter.Splice

open Ghostwriter.Grammar Ghostwriter.Lexeme Ghostwriter.Text

-- The text from row number `row` on, where `moves` tells which of the rows behind it are indented.
def indentFrom (moves : Nat → Bool) (indent : Text) (row : Nat) : Text → Text
  | [] => []
  | c :: t =>
    if c = '\n' then
      '\n' :: ((if moves (row + 1) then indent else []) ++ indentFrom moves indent (row + 1) t)
    else c :: indentFrom moves indent row t

-- The rows that reindenting moves.
def moves (lexemes : List Lexeme) (rows : List Text) (row : Nat) : Bool :=
  row ≠ 1 && !(isProtected lexemes row || isBlankLine (rows.getD (row - 1) []))

section

variable {moved : Nat → Bool} {indent : Text} {row : Nat}

theorem indentFrom_append (a b : Text) :
    indentFrom moved indent row (a ++ b) =
      indentFrom moved indent row a ++ indentFrom moved indent (row + a.count '\n') b := by
  induction a generalizing row with
  | nil => simp [indentFrom]
  | cons c a ih =>
    rw [List.cons_append, indentFrom, indentFrom]
    split_ifs with hc hmoved
    · rw [ih, hc, List.count_cons_self, Nat.add_right_comm, ← Nat.add_assoc]
      simp
    · rw [ih, hc, List.count_cons_self, Nat.add_right_comm, ← Nat.add_assoc]
      simp
    · rw [ih, List.count_cons_of_ne hc]
      rfl

-- Where none of its rows moves, a text stays.
theorem indentFrom_of_still {t : Text}
    (h : ∀ n, row < n → n ≤ row + t.count '\n' → moved n = false) :
    indentFrom moved indent row t = t := by
  induction t generalizing row with
  | nil => rfl
  | cons c t ih =>
    rw [indentFrom]
    split_ifs with hc hmoved
    · rw [h (row + 1) (by omega) (by rw [hc, List.count_cons_self]; omega)] at hmoved
      cases hmoved
    · rw [ih fun n hn hle => h n (by omega) (by rw [hc, List.count_cons_self]; omega), hc]
      rfl
    · rw [ih fun n hn hle => h n hn (by rwa [List.count_cons_of_ne hc])]

theorem indentFrom_of_not_mem {t : Text} (h : '\n' ∉ t) : indentFrom moved indent row t = t :=
  indentFrom_of_still fun n hn hle => by
    rw [List.count_eq_zero_of_not_mem h] at hle
    omega

theorem indentFrom_nil (t : Text) : indentFrom moved [] row t = t := by
  induction t generalizing row with
  | nil => rfl
  | cons c t ih =>
    rw [indentFrom]
    split_ifs with hc
    · simp [ih, hc]
    · simp [ih, hc]
    · rw [ih]

theorem joinWith_cons {sep first : Text} {rest : List Text} (h : rest ≠ []) :
    joinWith sep (first :: rest) = first ++ sep ++ joinWith sep rest := by
  cases rest with
  | nil => exact absurd rfl h
  | cons second rest => rfl

theorem indentRows_ne_nil {lexemes : List Lexeme} {rest : List Text} (h : rest ≠ []) :
    indentRows lexemes indent row rest ≠ [] := by
  cases rest with
  | nil => exact absurd rfl h
  | cons line rest => simp [indentRows]

theorem indentFrom_joinWith {lexemes : List Lexeme} {first : Text} {rest : List Text}
    (hfirst : '\n' ∉ first) (hrest : ∀ line ∈ rest, '\n' ∉ line)
    (hmoved : ∀ n line, rest[n]? = some line →
      moved (row + 1 + n) = !(isProtected lexemes (row + 1 + n) || isBlankLine line)) :
    indentFrom moved indent row (joinWith ['\n'] (first :: rest)) =
      joinWith ['\n'] (first :: indentRows lexemes indent (row + 1) rest) := by
  induction rest generalizing row first with
  | nil => exact indentFrom_of_not_mem hfirst
  | cons line rest ih =>
    rw [List.forall_mem_cons] at hrest
    have hnext := @ih (row + 1) line hrest.1 hrest.2 fun n other hother => by
      have hrow := hmoved (n + 1) other hother
      rwa [show row + 1 + (n + 1) = row + 1 + 1 + n by omega] at hrow
    have hline := hmoved 0 line rfl
    rw [Nat.add_zero] at hline
    rw [joinWith_cons (List.cons_ne_nil _ _), List.append_assoc, indentFrom_append,
      indentFrom_of_not_mem hfirst, List.count_eq_zero_of_not_mem hfirst, Nat.add_zero,
      List.singleton_append, indentFrom, if_pos rfl, hnext, hline, indentRows]
    cases rest with
    | nil => cases isProtected lexemes (row + 1) || isBlankLine line <;> simp [joinWith, indentRows]
    | cons other rest =>
      rw [joinWith_cons (List.cons_ne_nil _ _), joinWith_cons (indentRows_ne_nil (by simp)),
        joinWith_cons (indentRows_ne_nil (by simp))]
      cases isProtected lexemes (row + 1) || isBlankLine line <;> simp

end

theorem pieces_ne_nil (t : Text) : pieces t ≠ [] := splitWhere_ne_nil t

theorem pieces_append_break (a b : Text) : pieces (a ++ '\n' :: b) = pieces a ++ pieces b :=
  splitWhere_append_cons a b (by simp)

theorem pieces_cons {c : Char} {t first : Text} {others : List Text} (hc : c ≠ '\n')
    (h : pieces t = first :: others) : pieces (c :: t) = (c :: first) :: others :=
  splitWhere_cons_neg (by simpa using hc) h

theorem not_mem_of_mem_pieces {t piece : Text} (h : piece ∈ pieces t) : '\n' ∉ piece := by
  induction t generalizing piece with
  | nil =>
    rw [List.mem_singleton.mp h]
    exact List.not_mem_nil
  | cons c t ih =>
    by_cases hc : c = '\n'
    · rw [hc] at h
      rcases List.mem_cons.mp (pieces_append_break [] t ▸ h) with rfl | h
      · exact List.not_mem_nil
      · exact ih h
    · obtain ⟨first, others, hpieces⟩ := List.exists_cons_of_ne_nil (pieces_ne_nil t)
      rw [pieces_cons hc hpieces] at h
      rw [hpieces] at ih
      rcases List.mem_cons.mp h with rfl | h
      · rw [List.mem_cons, not_or]
        exact ⟨Ne.symm hc, ih List.mem_cons_self⟩
      · exact ih (List.mem_cons_of_mem _ h)

theorem pieces_append {a b first : Text} {others : List Text} (ha : '\n' ∉ a)
    (h : pieces b = first :: others) : pieces (a ++ b) = (a ++ first) :: others := by
  induction a with
  | nil => exact h
  | cons c a ih =>
    rw [List.mem_cons, not_or] at ha
    exact pieces_cons (Ne.symm ha.1) (ih ha.2)

variable {code indent : Text} {lexemes : List Lexeme}

theorem reindent_eq (h : scan code = .ok lexemes) :
    reindent code indent = .ok (indentFrom (moves lexemes (pieces code)) indent 1 code) := by
  by_cases hindent : indent = []
  · rw [hindent, indentFrom_nil]
    rfl
  · obtain ⟨first, rest, hpieces⟩ := List.exists_cons_of_ne_nil (pieces_ne_nil code)
    have hmem : ∀ line ∈ first :: rest, '\n' ∉ line := fun line hline =>
      not_mem_of_mem_pieces (hpieces ▸ hline)
    rw [List.forall_mem_cons] at hmem
    have hmoves (n : Nat) (line : Text) (hline : rest[n]? = some line) :
        moves lexemes (pieces code) (2 + n) =
          !(isProtected lexemes (2 + n) || isBlankLine line) := by
      have hget : (pieces code).getD (2 + n - 1) [] = line := by
        rw [hpieces, show 2 + n - 1 = n + 1 by omega, List.getD_cons_succ,
          List.getD_eq_getElem?_getD, hline, Option.getD_some]
      rw [moves, hget, decide_eq_true (by omega : 2 + n ≠ 1), Bool.true_and]
    have hindented := @indentFrom_joinWith _ indent 1 lexemes first rest hmem.1 hmem.2 hmoves
    rw [← hpieces, joinWith_pieces] at hindented
    rw [reindent, if_neg (by simpa using hindent), h, hindented]
    simp only [hpieces]

-- A blank row and a row within a string stay where they are.
example : (reindent "if a:\n\n  b = \"\"\"\nc\"\"\"".toList "  ".toList).toOption =
    some "if a:\n\n    b = \"\"\"\nc\"\"\"".toList := by decide +kernel

-- The rows of an indented text.
theorem pieces_indentFrom {moved : Nat → Bool} {row : Nat} (hindent : '\n' ∉ indent) (t : Text) :
    pieces (indentFrom moved indent row t) = (pieces t).mapIdx fun n line =>
      (if n ≠ 0 ∧ moved (row + n) = true then indent else []) ++ line := by
  induction t generalizing row with
  | nil => rfl
  | cons c t ih =>
    obtain ⟨first, others, hpieces⟩ := List.exists_cons_of_ne_nil (pieces_ne_nil t)
    simp only [hpieces, List.mapIdx_cons, ne_eq, not_true, false_and, if_false,
      List.nil_append] at ih
    by_cases hc : c = '\n'
    · have hmargin : '\n' ∉ if moved (row + 1) then indent else [] := by
        split_ifs
        · exact hindent
        · exact List.not_mem_nil
      have hrow (n : Nat) : row + 1 + (n + 1) = row + (n + 1 + 1) := by omega
      have hbreak (u : Text) : pieces ('\n' :: u) = [] :: pieces u := pieces_append_break [] u
      rw [indentFrom, if_pos hc, hc, hbreak, hbreak, pieces_append hmargin ih, hpieces]
      simp [hrow]
    · rw [indentFrom, if_neg hc, pieces_cons hc hpieces, pieces_cons hc ih]
      simp

-- A position moves with its row.
def movePosition (moved : Nat → Bool) (indent : Text) (p : Position) : Position :=
  ⟨p.line, p.column + if moved p.line then indent.length else 0⟩

theorem positionOf_indentFrom {moved : Nat → Bool} {row : Nat} (hindent : '\n' ∉ indent) (t : Text) :
    positionOf (indentFrom moved indent row t) =
      ⟨(positionOf t).line, (positionOf t).column +
        if '\n' ∈ t ∧ moved (row + t.count '\n') = true then indent.length else 0⟩ := by
  induction t generalizing row with
  | nil => simp [indentFrom, positionOf]
  | cons c t ih =>
    by_cases hc : c = '\n'
    · have hnext := @ih (row + 1)
      generalize hbehind : indentFrom moved indent (row + 1) t = behind at hnext
      have hcount : behind.count '\n' = t.count '\n' := by
        have hline := congrArg Position.line hnext
        simpa [line_positionOf] using hline
      have hmargin : '\n' ∉ if moved (row + 1) then indent else [] := by
        split_ifs
        · exact hindent
        · exact List.not_mem_nil
      rw [indentFrom, if_pos hc, hbehind, hc, positionOf, if_pos rfl, positionOf, if_pos rfl,
        positionOf_append, positionOf_of_not_mem hmargin, hnext, hcount, line_positionOf,
        List.count_cons_self]
      by_cases ht : '\n' ∈ t
      · have hrow : row + 1 + t.count '\n' = row + (t.count '\n' + 1) := by omega
        have hcount : t.count '\n' ≠ 0 := (List.count_pos_iff.mpr ht).ne'
        simp [ht, hcount, hrow, Nat.add_comm]
      · simp only [List.count_eq_zero_of_not_mem ht, ht, List.mem_cons_self, if_true, false_and,
          if_false, true_and]
        split_ifs <;> simp [Nat.add_comm]
    · have hmem : '\n' ∈ c :: t ↔ '\n' ∈ t := by simp [Ne.symm hc]
      rw [indentFrom, if_neg hc, positionOf, if_neg hc, ih, positionOf, if_neg hc,
        List.count_cons_of_ne hc]
      simp only [hmem, line_positionOf]
      by_cases ht : '\n' ∈ t
      · have hcount : t.count '\n' ≠ 0 := (List.count_pos_iff.mpr ht).ne'
        simp [hcount, line_positionOf]
      · simp [ht, List.count_eq_zero_of_not_mem ht]

-- What stands between two positions of a text.
def Between (t : Text) (start stop : Position) (part : Text) : Prop :=
  ∃ before behind, t = before ++ part ++ behind ∧ positionOf before = start ∧
    positionOf (before ++ part) = stop

-- A part stays whole if only rows move that begin before it or behind it.
theorem Between.indentFrom {moved : Nat → Bool} {t part : Text} {start stop : Position}
    (h : Between t start stop part) (hindent : '\n' ∉ indent) (hfirst : moved 1 = false)
    (hstill : ∀ n, start.line < n → n ≤ stop.line → moved n = false) :
    Between (Splice.indentFrom moved indent 1 t) (movePosition moved indent start)
      (movePosition moved indent stop) part := by
  obtain ⟨before, behind, rfl, rfl, rfl⟩ := h
  have hpositions (a : Text) : positionOf (Splice.indentFrom moved indent 1 a) =
      movePosition moved indent (positionOf a) := by
    rw [positionOf_indentFrom hindent, movePosition, line_positionOf, Nat.add_comm 1]
    by_cases ha : '\n' ∈ a
    · simp [ha]
    · simp [ha, List.count_eq_zero_of_not_mem ha, hfirst]
  have hpart : Splice.indentFrom moved indent (1 + before.count '\n') part = part := by
    refine indentFrom_of_still fun n hn hle => hstill n ?_ ?_
    · rw [line_positionOf]
      omega
    · rw [line_positionOf, List.count_append]
      omega
  refine ⟨Splice.indentFrom moved indent 1 before, Splice.indentFrom moved indent
    (1 + (before ++ part).count '\n') behind, ?_, hpositions before, ?_⟩
  · rw [indentFrom_append, indentFrom_append, hpart]
  · rw [← hpositions, indentFrom_append, hpart]

end Ghostwriter.Splice

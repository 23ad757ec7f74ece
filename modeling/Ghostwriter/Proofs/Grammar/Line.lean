import Ghostwriter.Proofs.Grammar.Row

/-!
Logical lines by their marks: a text is read line by line, and blanks behind a line change nothing.
-/

namespace Ghostwriter.Grammar

open Ghostwriter.Text Ghostwriter.Lexeme

section

variable {α : Type} {p : α → Bool}

theorem mapM_option_append {β : Type} {f : α → Option β} {xs ys : List α} {zs : List β} :
    (xs ++ ys).mapM f = some zs ↔
      ∃ us vs, xs.mapM f = some us ∧ ys.mapM f = some vs ∧ zs = us ++ vs := by
  rw [List.mapM_append]
  simp only [Option.bind_eq_bind, Option.bind_eq_some_iff, Option.pure_def, Option.some.injEq]
  constructor
  · rintro ⟨us, hus, vs, hvs, rfl⟩
    exact ⟨us, vs, hus, hvs, rfl⟩
  · rintro ⟨us, vs, hus, hvs, rfl⟩
    exact ⟨us, hus, vs, hvs, rfl⟩

end

theorem rowTokens?_of_gaps {row : Text} (h : ∀ c ∈ row, isGap c = true) :
    rowTokens? row = some [] := by
  simp [rowTokens?, dropRightWhile_of_all h, tokensUpTo]

theorem rowTokens?_concat {c : Char} (row : Text) (h : isGap c = true) :
    rowTokens? (row ++ [c]) = rowTokens? row := by
  rw [rowTokens?, rowTokens?, dropRightWhile_concat _ h]

-- A row with something else than blanks.
def HasText (row : Text) : Prop := ∃ c ∈ row, isGap c = false

theorem hasText_of_tokens {row : Text} {tokens : List Token}
    (h : rowTokens? row = some tokens) (hne : tokens ≠ []) : HasText row := by
  by_contra hblank
  have hall : ∀ c ∈ row, isGap c = true := by
    intro c hc
    by_contra hgap
    exact hblank ⟨c, hc, by simpa using hgap⟩
  rw [rowTokens?_of_gaps hall] at h
  exact hne (Option.some.inj h).symm

-- Behind the leading blanks there is the first character that is none.
theorem leadingBlanks_append {row : Text} (margin : Margin) (h : HasText row) (t : Text) :
    (leadingBlanks margin row).2 ≠ [] ∧
      leadingBlanks margin (row ++ t) =
        ((leadingBlanks margin row).1, (leadingBlanks margin row).2 ++ t) := by
  have hbehind {blank : Char} {rest : Text} (hblank : isGap blank = true)
      (hrow : HasText (blank :: rest)) : HasText rest := by
    obtain ⟨c, hc, hgap⟩ := hrow
    rcases List.mem_cons.mp hc with rfl | hmem
    · rw [hblank] at hgap
      cases hgap
    · exact ⟨c, hmem, hgap⟩
  fun_induction leadingBlanks margin row with
  | case1 _ rest ih => exact ih (hbehind rfl h)
  | case2 _ rest ih => exact ih (hbehind rfl h)
  | case3 _ rest ih => exact ih (hbehind rfl h)
  | case4 _ rest hspace htab hfeed =>
    cases rest with
    | nil =>
      obtain ⟨c, hc, _⟩ := h
      cases hc
    | cons c rest =>
      have hc : c ≠ ' ' ∧ c ≠ '\t' ∧ c ≠ '\x0c' :=
        ⟨fun hc => hspace rest (by rw [hc]), fun hc => htab rest (by rw [hc]),
          fun hc => hfeed rest (by rw [hc])⟩
      refine ⟨List.cons_ne_nil _ _, ?_⟩
      rw [List.cons_append, leadingBlanks]
      · exact fun _ heq => hc.1 (List.cons.inj heq).1
      · exact fun _ heq => hc.2.1 (List.cons.inj heq).1
      · exact fun _ heq => hc.2.2 (List.cons.inj heq).1

-- The first row with text decides the margin.
theorem marginFrom_append {before after after' : List Text} {row : Text} (margin : Margin)
    (first : Nat) (t : Text) (h : HasText row) :
    marginFrom margin first (before ++ (row ++ t) :: after) =
      marginFrom margin first (before ++ row :: after') := by
  induction before generalizing margin first with
  | nil =>
    obtain ⟨hne, happend⟩ := leadingBlanks_append margin h t
    simp [marginFrom, happend, hne]
  | cons blank before ih =>
    have hmore (r : Text) (rest : List Text) : (before ++ r :: rest).isEmpty = false := by
      cases before <;> rfl
    simp only [List.cons_append, marginFrom, hmore, Bool.not_false, Bool.and_true]
    split
    · exact ih _ _
    · rfl

-- A row with blanks behind it, or an empty row behind a line, leaves the tokens of the line, and the
-- margin if there are any.
theorem line?_of_tokens {rows rows' : List Text} {tokens : List (List Token)}
    (hrows : rows.mapM rowTokens? = some tokens) {tokens' : List (List Token)}
    (hrows' : rows'.mapM rowTokens? = some tokens') (hflat : tokens'.flatten = tokens.flatten)
    (hmargin : tokens.flatten ≠ [] → marginFrom ⟨0, 0⟩ 0 rows' = marginFrom ⟨0, 0⟩ 0 rows) :
    (line? rows').map (fun l => [l].filter (!·.isBlank)) =
      (line? rows).map fun l => [l].filter (!·.isBlank) := by
  simp only [line?, hrows, hrows', hflat, Option.bind_eq_bind, Option.bind_some]
  split
  case isFalse => rfl
  case isTrue =>
    by_cases hnil : tokens.flatten = []
    · simp [Line.isBlank, hnil]
    · rw [hmargin hnil]

theorem exists_hasText {rows : List Text} {tokens : List (List Token)}
    (hrows : rows.mapM rowTokens? = some tokens) (hne : tokens.flatten ≠ []) :
    ∃ before row after, rows = before ++ row :: after ∧ HasText row := by
  induction rows generalizing tokens with
  | nil =>
    cases hrows
    exact absurd rfl hne
  | cons row rows ih =>
    simp only [List.mapM_cons, Option.bind_eq_bind, Option.bind_eq_some_iff, Option.pure_def,
      Option.some.injEq] at hrows
    obtain ⟨found, hfound, others, hothers, rfl⟩ := hrows
    by_cases hrow : found = []
    · obtain ⟨before, r, after, rfl, hr⟩ := ih hothers (by simpa [hrow] using hne)
      exact ⟨row :: before, r, after, rfl, hr⟩
    · exact ⟨[], row, rows, rfl, hasText_of_tokens hfound hrow⟩

namespace Mark

-- A mark of a row with nothing on it.
def isBlank : Mark → Bool
  | .keep c => isGap c
  | .cut => true
  | .ended => false

def lineRows (line : List Mark) : List Text :=
  (splitWhere (· = .cut) line).map (List.filterMap kept?)

-- The logical lines that are not blank.
def lines? (marks : List Mark) : Option (List Line) :=
  ((rows marks).mapM line?).map (List.filter (!·.isBlank))

variable {marks marks' : List Mark} {lines : List Line}

theorem rows_eq (marks : List Mark) :
    rows marks = (splitWhere (· = .ended) marks).map lineRows := rfl

theorem lines?_append_ended :
    lines? (marks ++ .ended :: marks') = some lines ↔
      ∃ lines₁ lines₂, lines? marks = some lines₁ ∧ lines? marks' = some lines₂ ∧
        lines = lines₁ ++ lines₂ := by
  unfold lines?
  rw [rows_eq, splitWhere_append_cons _ _ (by simp), List.map_append, ← rows_eq, ← rows_eq]
  simp only [Option.map_eq_some_iff, mapM_option_append]
  constructor
  · rintro ⟨_, ⟨lines₁, lines₂, h₁, h₂, rfl⟩, rfl⟩
    exact ⟨_, _, ⟨lines₁, h₁, rfl⟩, ⟨lines₂, h₂, rfl⟩, by simp⟩
  · rintro ⟨_, _, ⟨lines₁, h₁, rfl⟩, ⟨lines₂, h₂, rfl⟩, rfl⟩
    exact ⟨lines₁ ++ lines₂, ⟨lines₁, lines₂, h₁, h₂, rfl⟩, by simp⟩

theorem lines?_nil : lines? [] = some [] := by decide

-- The last line of some marks alone decides whether a further mark in it matters.
theorem lines?_concat {mark : Mark} (hmark : mark ≠ .ended)
    (h : ∀ line, (line? (lineRows (line ++ [mark]))).map (fun l => [l].filter (!·.isBlank)) =
      (line? (lineRows line)).map fun l => [l].filter (!·.isBlank)) :
    lines? (marks ++ [mark]) = lines? marks := by
  obtain ⟨before, last, hsplit, happend⟩ := @splitWhere_append _ (fun m : Mark => decide (m = Mark.ended)) marks [mark]
    (by simpa using hmark)
  have hread (line : List Mark) :
      (((before ++ [line]).map lineRows).mapM line?).map (List.filter (!·.isBlank)) =
        ((before.map lineRows).mapM line?).bind fun lines =>
          ((line? (lineRows line)).map fun l => [l].filter (!·.isBlank)).map
            (lines.filter (!·.isBlank) ++ ·) := by
    rw [List.map_append, List.mapM_append]
    cases (before.map lineRows).mapM line? with
    | none => rfl
    | some lines =>
      cases hline : line? (lineRows line) <;> simp [hline]
  unfold lines?
  rw [rows_eq, rows_eq, hsplit, happend, hread, hread, h last]

theorem mapM_concat_eq {rows : List Text} {row : Text} :
    (rows ++ [row]).mapM rowTokens? =
      (rows.mapM rowTokens?).bind fun tokens => (rowTokens? row).map (tokens ++ [·]) := by
  rw [List.mapM_append]
  cases rows.mapM rowTokens? with
  | none => rfl
  | some tokens => cases hrow : rowTokens? row <;> simp [hrow]

theorem line?_keep {c : Char} (hc : isGap c = true) (line : List Mark) :
    (line? (lineRows (line ++ [.keep c]))).map (fun l => [l].filter (!·.isBlank)) =
      (line? (lineRows line)).map fun l => [l].filter (!·.isBlank) := by
  obtain ⟨before, last, hsplit, happend⟩ := @splitWhere_append _ (fun m : Mark => decide (m = Mark.cut)) line [.keep c]
    (by simp)
  have hrows : lineRows line = before.map (List.filterMap kept?) ++ [last.filterMap kept?] := by
    rw [lineRows, hsplit]
    simp
  have hrows' : lineRows (line ++ [.keep c]) =
      before.map (List.filterMap kept?) ++ [last.filterMap kept? ++ [c]] := by
    rw [lineRows, happend]
    simp [kept?]
  rw [hrows, hrows']
  generalize before.map (List.filterMap kept?) = before at *
  generalize last.filterMap kept? = row at *
  have hsame : (before ++ [row ++ [c]]).mapM rowTokens? = (before ++ [row]).mapM rowTokens? := by
    rw [mapM_concat_eq, mapM_concat_eq, rowTokens?_concat row hc]
  cases htokens : (before ++ [row]).mapM rowTokens? with
  | none => simp [line?, htokens, hsame]
  | some tokens =>
    refine line?_of_tokens htokens (hsame.trans htokens) rfl fun hne => ?_
    obtain ⟨before', row', after, heq, htext⟩ := exists_hasText htokens hne
    -- The row with text is the last one or a row before it.
    rcases List.eq_nil_or_concat after with rfl | ⟨after, _, rfl⟩
    · obtain ⟨rfl, hrow⟩ := List.append_inj' heq rfl
      cases hrow
      exact marginFrom_append _ _ [c] htext
    · rw [List.concat_eq_append, ← List.cons_append, ← List.append_assoc] at heq
      obtain ⟨rfl, _⟩ := List.append_inj' heq rfl
      have hleft := @marginFrom_append before' (after ++ [row ++ [c]]) (after ++ [row]) _ ⟨0, 0⟩ 0 []
        htext
      simpa using hleft

theorem line?_cut (line : List Mark) :
    (line? (lineRows (line ++ [.cut]))).map (fun l => [l].filter (!·.isBlank)) =
      (line? (lineRows line)).map fun l => [l].filter (!·.isBlank) := by
  have hrows : lineRows (line ++ [.cut]) = lineRows line ++ [[]] := by
    rw [lineRows, splitWhere_append_cons _ _ (by simp), List.map_append]
    rfl
  rw [hrows]
  generalize lineRows line = rows
  have hempty : (rows ++ [[]]).mapM rowTokens? =
      (rows.mapM rowTokens?).map (· ++ [[]]) := by
    rw [mapM_concat_eq, rowTokens?_of_gaps (by simp)]
    cases rows.mapM rowTokens? <;> rfl
  cases htokens : rows.mapM rowTokens? with
  | none => simp [line?, htokens, hempty]
  | some tokens =>
    rw [htokens] at hempty
    refine line?_of_tokens htokens hempty (by simp) fun hne => ?_
    obtain ⟨before, row, after, rfl, htext⟩ := exists_hasText htokens hne
    have hleft := @marginFrom_append before (after ++ [[]]) after _ ⟨0, 0⟩ 0 [] htext
    simpa using hleft

-- Blanks and empty rows behind a text change no line of it.
theorem lines?_append_blank (h : ∀ m ∈ marks', m.isBlank = true) :
    lines? (marks ++ marks') = lines? marks := by
  induction marks' generalizing marks with
  | nil => simp
  | cons m marks' ih =>
    rw [List.forall_mem_cons] at h
    rw [← List.singleton_append, ← List.append_assoc, ih h.2]
    cases m with
    | keep c => exact lines?_concat (by simp) (line?_keep h.1)
    | cut => exact lines?_concat (by simp) line?_cut
    | ended => cases h.1

end Mark

end Ghostwriter.Grammar

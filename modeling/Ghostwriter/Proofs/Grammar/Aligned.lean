import Ghostwriter.Proofs.Grammar.Scannable

/-!
Margins behind an indent. Where no form feed starts the columns anew and the tabs keep their stops,
all margins of a code grow by that of the indent, so their order stays.
-/

namespace Ghostwriter.Grammar

open Ghostwriter.Lexeme Ghostwriter.Text

theorem exists_of_mem_mapM {α β : Type} {f : α → Option β} {xs : List α} {ys : List β}
    (h : xs.mapM f = some ys) : ∀ y ∈ ys, ∃ x ∈ xs, f x = some y := by
  induction xs generalizing ys with
  | nil =>
    cases h
    simp
  | cons x xs ih =>
    simp only [List.mapM_cons, Option.bind_eq_bind, Option.bind_eq_some_iff, Option.pure_def,
      Option.some.injEq] at h
    obtain ⟨y, hy, others, hothers, rfl⟩ := h
    refine List.forall_mem_cons.mpr ⟨⟨x, List.mem_cons_self, hy⟩, fun z hz => ?_⟩
    obtain ⟨x', hx', hz'⟩ := ih hothers z hz
    exact ⟨x', List.mem_cons_of_mem _ hx', hz'⟩

-- A margin behind an indent that leads to `base`.
def Margin.behind (base m : Margin) : Margin := ⟨base.column + m.column, base.narrow + m.narrow⟩

namespace Mark

theorem mem_rows {marks : List Mark} {line : List Text} {row : Text} {c : Char}
    (hline : line ∈ rows marks) (hrow : row ∈ line) (hc : c ∈ row) : .keep c ∈ marks := by
  induction marks generalizing line row with
  | nil =>
    obtain rfl : line = [[]] := List.mem_singleton.mp hline
    obtain rfl : row = [] := List.mem_singleton.mp hrow
    cases hc
  | cons mark marks ih =>
    obtain ⟨first, rest, others, hrows⟩ := exists_rows marks
    rw [hrows] at ih
    cases mark with
    | ended =>
      rw [rows_ended, hrows, List.mem_cons] at hline
      rcases hline with rfl | hline
      · obtain rfl : row = [] := List.mem_singleton.mp hrow
        cases hc
      · exact List.mem_cons_of_mem _ (ih hline hrow hc)
    | cut =>
      rw [rows_cut hrows, List.mem_cons] at hline
      rcases hline with rfl | hline
      · rcases List.mem_cons.mp hrow with rfl | hrow
        · cases hc
        · exact List.mem_cons_of_mem _ (ih List.mem_cons_self hrow hc)
      · exact List.mem_cons_of_mem _ (ih (List.mem_cons_of_mem _ hline) hrow hc)
    | keep d =>
      rw [rows_cons hrows, List.mem_cons] at hline
      rcases hline with rfl | hline
      · rcases List.mem_cons.mp hrow with rfl | hrow
        · rcases List.mem_cons.mp hc with rfl | hc
          · exact List.mem_cons_self
          · exact List.mem_cons_of_mem _ (ih List.mem_cons_self List.mem_cons_self hc)
        · exact List.mem_cons_of_mem _ (ih List.mem_cons_self (List.mem_cons_of_mem _ hrow) hc)
      · exact List.mem_cons_of_mem _ (ih (List.mem_cons_of_mem _ hline) hrow hc)

theorem ne_nil_of_mem_rows {marks : List Mark} {line : List Text} (h : line ∈ rows marks) :
    line ≠ [] := by
  rw [rows_eq] at h
  obtain ⟨lineMarks, -, rfl⟩ := List.mem_map.mp h
  exact fun hnil => splitWhere_ne_nil lineMarks (List.map_eq_nil_iff.mp hnil)

end Mark

section

variable {code indent row t : Text} {base m : Margin} {marks : List Mark} {c : Char}
  {s last : RowState} {rows : List Text}

-- Every character that is kept comes from the text.
theorem RowState.mem_of_run? (hs : s.IsSound) (h : s.run? t = some (marks, last))
    (hc : .keep c ∈ marks) : c ∈ t := by
  induction t generalizing s marks with
  | nil =>
    cases h
    cases hc
  | cons d t ih =>
    obtain ⟨mark, next, others, hstep, hrest, rfl⟩ := RowState.exists_of_run?_cons h
    have hmark : mark.toList ⊆ [.keep d, .cut, .ended] := by
      by_cases hd : d = '\n'
      · subst hd
        rcases step?_break hs hstep with ⟨rfl, -⟩ | ⟨rfl, -⟩ | ⟨rfl, -⟩ | ⟨rfl, -⟩ <;> simp
      · rcases step?_ne_break hd hstep with ⟨rfl, -⟩ | ⟨rfl, -⟩ <;> simp
    rcases List.mem_append.mp hc with hhere | hbehind
    · obtain rfl : c = d := by simpa using hmark hhere
      exact List.mem_cons_self
    · exact List.mem_cons_of_mem _ (ih (step?_isSound hs hstep) hrest hbehind)

-- Blanks lead as far behind an indent as they do alone, if tabs keep their stops.
theorem leadingBlanks_behind (hfeed : '\x0c' ∉ t) (htabs : '\t' ∉ t ∨ 8 ∣ base.column)
    (m : Margin) : (leadingBlanks (base.behind m) t).1 = base.behind (leadingBlanks m t).1 := by
  induction t generalizing m with
  | nil => rfl
  | cons c t ih =>
    rw [List.mem_cons, not_or] at hfeed htabs
    have hrest := ih hfeed.2 (htabs.imp_left And.right)
    by_cases hspace : c = ' '
    · subst hspace
      exact hrest ⟨m.column + 1, m.narrow + 1⟩
    by_cases htab : c = '\t'
    · subst htab
      have hbase : 8 ∣ base.column := htabs.resolve_left fun hnone => hnone.1 rfl
      have hstop : (base.column + m.column) / 8 * 8 + 8 = base.column + (m.column / 8 * 8 + 8) := by
        omega
      simp only [leadingBlanks, Margin.behind, Nat.add_mul, Nat.one_mul, hstop]
      exact hrest ⟨m.column / 8 * 8 + 8, m.narrow + 1⟩
    · have hgap : ∀ d ∈ (c :: t).head?, isGap d = false := by
        simpa [isGap, hspace, htab] using Ne.symm hfeed.1
      rw [leadingBlanks_of_not_gap hgap, leadingBlanks_of_not_gap hgap]

-- The first row of a headed line has its margin.
theorem marginFrom_of_headed (h : isHeaded (row :: rows) = true) (m : Margin) :
    marginFrom m 0 (row :: rows) = (leadingBlanks m row).1 := by
  rw [marginFrom]
  cases rows with
  | nil => simp
  | cons next rows =>
    obtain ⟨c, hc, hgap⟩ := List.any_eq_true.mp h
    have hne := (leadingBlanks_append m ⟨c, hc, by simpa using hgap⟩ []).1
    simp [hne]

theorem isHeaded_behind (h : isHeaded (row :: rows) = true) :
    isHeaded ((indent ++ row) :: rows.map (indent ++ ·)) = true := by
  cases rows with
  | nil => rfl
  | cons next rows =>
    obtain ⟨c, hc, hgap⟩ := List.any_eq_true.mp h
    exact List.any_eq_true.mpr ⟨c, List.mem_append_right indent hc, hgap⟩

theorem margin_lineBehind? {l : Line × Margin} (hindent : ∀ c ∈ indent, isGap c = true)
    (hheaded : isHeaded (row :: rows) = true) (hfeed : '\x0c' ∉ row)
    (htabs : '\t' ∉ row ∨ 8 ∣ (marginOf indent).column)
    (h : lineBehind? indent (row :: rows) = some l) :
    l.2 = (marginOf indent).behind l.1.margin := by
  obtain ⟨line, hline, rfl⟩ := Option.map_eq_some_iff.mp h
  simp only [line?, Option.bind_eq_bind, Option.bind_eq_some_iff] at hline
  obtain ⟨tokens, -, hline⟩ := hline
  split at hline
  · cases hline
    rw [List.map_cons, marginFrom_of_headed (isHeaded_behind hheaded), marginFrom_of_headed hheaded,
      leadingBlanks_gaps_append _ _ hindent]
    exact leadingBlanks_behind hfeed htabs ⟨0, 0⟩
  · cases hline

-- All margins of the code grow by that of the indent.
theorem margin_linesBehind? (hindent : ∀ c ∈ indent, isGap c = true) (hheaded : Headed code)
    (hfeed : '\x0c' ∉ code) (htabs : '\t' ∉ code ∨ 8 ∣ (marginOf indent).column)
    {lines : List (Line × Margin)} (h : linesBehind? indent code = some lines) :
    ∀ l ∈ lines, l.2 = (marginOf indent).behind l.1.margin := by
  obtain ⟨marks, hmarks, hlines⟩ := Option.bind_eq_some_iff.mp h
  obtain ⟨found, hfound, rfl⟩ := Option.map_eq_some_iff.mp hlines
  have hrun := run?_of_marks?_break hmarks
  intro l hl
  obtain ⟨line, hline, hread⟩ := exists_of_mem_mapM hfound l (List.mem_of_mem_filter hl)
  obtain ⟨row, rows, rfl⟩ := List.exists_cons_of_ne_nil (Mark.ne_nil_of_mem_rows hline)
  have hmem {c : Char} (hne : c ≠ '\n') (hc : c ∈ row) : c ∈ code := by
    have hkept := Mark.mem_rows hline List.mem_cons_self hc
    have htext := RowState.mem_of_run? RowState.start_isSound hrun hkept
    simpa [hne] using htext
  have hheadedLine := hheaded _ (Option.map_eq_some_iff.mpr ⟨marks, hmarks, rfl⟩) _ hline
  exact margin_lineBehind? hindent hheadedLine (fun hc => hfeed (hmem (by decide) hc))
    (htabs.imp_left fun hnone hc => hnone (hmem (by decide) hc)) hread

-- So they keep their order.
theorem sameOrder_linesBehind? (hindent : ∀ c ∈ indent, isGap c = true) (hheaded : Headed code)
    (hfeed : '\x0c' ∉ code) (htabs : '\t' ∉ code ∨ 8 ∣ (marginOf indent).column)
    {lines : List (Line × Margin)} (h : linesBehind? indent code = some lines) :
    Block.SameOrder ((⟨0, 0⟩, marginOf indent) :: lines.map fun l => (l.1.margin, l.2)) := by
  have hgrown : ∀ p ∈ (⟨0, 0⟩, marginOf indent) :: lines.map fun l => (l.1.margin, l.2),
      p.2 = (marginOf indent).behind p.1 := by
    rw [List.forall_mem_cons, List.forall_mem_map]
    exact ⟨rfl, margin_linesBehind? hindent hheaded hfeed htabs h⟩
  refine ⟨fun a ha b hb hbelow => ?_, fun a ha b hb hsame => ?_⟩
  · rw [hgrown a ha, hgrown b hb]
    exact ⟨Nat.add_lt_add_left hbelow.1 _, Nat.add_lt_add_left hbelow.2 _⟩
  · rw [hgrown a ha, hgrown b hb, hsame]

end

end Ghostwriter.Grammar

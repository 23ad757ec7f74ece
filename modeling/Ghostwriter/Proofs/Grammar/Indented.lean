import Ghostwriter.Proofs.Grammar.Context
import Ghostwriter.Proofs.Grammar.Scanned
import Ghostwriter.Proofs.Text.Breaks

/-!
An indent before the rows of a text: the reader comes to the same logical lines, with the tokens
they had and with the indent before their margins. Only rows that begin outside strings may move,
and of these only blank ones may stay.
-/

namespace Ghostwriter.Grammar

open Ghostwriter.Lexeme Ghostwriter.Splice Ghostwriter.Text

namespace Mark

variable {marks : List Mark} {line : List Text} {row : Text} {rest : List Text}
  {others : List (List Text)}

theorem exists_rows (marks : List Mark) :
    ∃ row rest others, rows marks = (row :: rest) :: others := by
  obtain ⟨first, others, hlines⟩ :=
    List.exists_cons_of_ne_nil (@splitWhere_ne_nil _ (fun m => decide (m = Mark.ended)) marks)
  obtain ⟨row, rest, hrows⟩ :=
    List.exists_cons_of_ne_nil (@splitWhere_ne_nil _ (fun m => decide (m = Mark.cut)) first)
  exact ⟨row.filterMap kept?, rest.map (List.filterMap kept?), others.map lineRows,
    by rw [rows_eq, hlines, List.map_cons, lineRows, hrows, List.map_cons]⟩

theorem rows_ended (marks : List Mark) : rows (.ended :: marks) = [[]] :: rows marks := by
  rw [rows_eq, splitWhere_cons_pos _ (by simp)]
  rfl

theorem rows_cut (h : rows marks = line :: others) :
    rows (.cut :: marks) = ([] :: line) :: others := by
  obtain ⟨first, lines, hlines⟩ :=
    List.exists_cons_of_ne_nil (@splitWhere_ne_nil _ (fun m => decide (m = Mark.ended)) marks)
  rw [rows_eq, hlines] at h
  obtain ⟨rfl, rfl⟩ := List.cons.inj h
  rw [rows_eq, splitWhere_cons_neg (by simp) hlines, List.map_cons, lineRows,
    splitWhere_cons_pos _ (by simp)]
  rfl

theorem rows_cons {c : Char} (h : rows marks = (row :: rest) :: others) :
    rows (.keep c :: marks) = ((c :: row) :: rest) :: others := by
  obtain ⟨first, lines, hlines⟩ :=
    List.exists_cons_of_ne_nil (@splitWhere_ne_nil _ (fun m => decide (m = Mark.ended)) marks)
  rw [rows_eq, hlines] at h
  obtain ⟨hrow, rfl⟩ := List.cons.inj h
  obtain ⟨kept, further, hrows⟩ :=
    List.exists_cons_of_ne_nil (@splitWhere_ne_nil _ (fun m => decide (m = Mark.cut)) first)
  rw [lineRows, hrows] at hrow
  obtain ⟨rfl, rfl⟩ := List.cons.inj hrow
  rw [rows_eq, splitWhere_cons_neg (by simp) hlines, List.map_cons, lineRows,
    splitWhere_cons_neg (by simp) hrows]
  rfl

theorem rows_append_keep (t : Text) (h : rows marks = (row :: rest) :: others) :
    rows (t.map .keep ++ marks) = ((t ++ row) :: rest) :: others := by
  induction t with
  | nil => exact h
  | cons c t ih => exact rows_cons ih

end Mark

-- Rows of a line, and the same rows behind an indent; `text` says whether there is text in the line
-- before them. A row may stay behind text, or if it is blank and the last one.
inductive Indented (indent : Text) : Prop → List Text → List Text → Prop
  | nil {text : Prop} : Indented indent text [] []
  | moved {text : Prop} {row : Text} {rows rows' : List Text}
      (behind : Indented indent (text ∨ HasText row) rows rows') :
      Indented indent text (row :: rows) ((indent ++ row) :: rows')
  | stayed {text : Prop} {row : Text} {rows rows' : List Text} (before : text)
      (behind : Indented indent text rows rows') : Indented indent text (row :: rows) (row :: rows')
  | blank {text : Prop} {row : Text} (all : isBlankLine row = true) (single : '\n' ∉ row) :
      Indented indent text [row] [row]

theorem Indented.imp {indent : Text} {text text' : Prop} {rows rows' : List Text}
    (h : Indented indent text rows rows') (himp : text → text') :
    Indented indent text' rows rows' := by
  induction h generalizing text' with
  | nil => exact .nil
  | moved _ ih => exact .moved (ih (Or.imp_left himp))
  | stayed hbefore _ ih => exact .stayed (himp hbefore) (ih himp)
  | blank hall hsingle => exact .blank hall hsingle

-- What the reader comes to with and without an indent before the rows behind the first one.
def Follow (indent : Text) (text : Prop) (marks marks' : List Mark) : Prop :=
  ∃ row rest rest' others others', Mark.rows marks = (row :: rest) :: others ∧
    Mark.rows marks' = (row :: rest') :: others' ∧
    Indented indent (text ∨ HasText row) rest rest' ∧
    List.Forall₂ (Indented indent False) others others'

section

variable {indent : Text} {text : Prop} {marks marks' : List Mark}

theorem follow_nil : Follow indent text [] [] := ⟨[], [], [], [], [], rfl, rfl, .nil, .nil⟩

theorem Follow.keep {c : Char} (h : Follow indent (text ∨ isGap c = false) marks marks') :
    Follow indent text (.keep c :: marks) (.keep c :: marks') := by
  obtain ⟨row, rest, rest', others, others', hrows, hrows', hrest, hothers⟩ := h
  refine ⟨c :: row, rest, rest', others, others', Mark.rows_cons hrows, Mark.rows_cons hrows',
    hrest.imp ?_, hothers⟩
  rintro ((htext | hc) | ⟨d, hd, hgap⟩)
  · exact .inl htext
  · exact .inr ⟨c, List.mem_cons_self, hc⟩
  · exact .inr ⟨d, List.mem_cons_of_mem c hd, hgap⟩

theorem Follow.cut (h : Follow indent text marks marks') :
    Follow indent text (.cut :: marks) (.cut :: (indent.map .keep ++ marks')) := by
  obtain ⟨row, rest, rest', others, others', hrows, hrows', hrest, hothers⟩ := h
  refine ⟨[], row :: rest, (indent ++ row) :: rest', others, others', Mark.rows_cut hrows,
    Mark.rows_cut (Mark.rows_append_keep indent hrows'), .moved (hrest.imp ?_), hothers⟩
  exact Or.imp_left .inl

theorem Follow.ended (h : Follow indent False marks marks') :
    Follow indent text (.ended :: marks) (.ended :: (indent.map .keep ++ marks')) := by
  obtain ⟨row, rest, rest', others, others', hrows, hrows', hrest, hothers⟩ := h
  refine ⟨[], [], [], (row :: rest) :: others, ((indent ++ row) :: rest') :: others', ?_, ?_, .nil,
    .cons (.moved hrest) hothers⟩
  · rw [Mark.rows_ended, hrows]
  · rw [Mark.rows_ended, Mark.rows_append_keep indent hrows']

-- The first row is blank, and no further row belongs to its line.
def BlankRow (marks : List Mark) : Prop :=
  ∃ row others, Mark.rows marks = [row] :: others ∧ isBlankLine row = true ∧ '\n' ∉ row

theorem Indented.eq_nil {rest' : List Text} (h : Indented indent text [] rest') : rest' = [] := by
  cases h
  rfl

theorem Follow.cut_stayed (h : Follow indent text marks marks') (hstays : text ∨ BlankRow marks) :
    Follow indent text (.cut :: marks) (.cut :: marks') := by
  obtain ⟨row, rest, rest', others, others', hrows, hrows', hrest, hothers⟩ := h
  refine ⟨[], row :: rest, row :: rest', others, others', Mark.rows_cut hrows, Mark.rows_cut hrows',
    ?_, hothers⟩
  rcases hstays with htext | ⟨row', others'', hblank, hall, hsingle⟩
  · exact .stayed (.inl htext) (hrest.imp fun _ => .inl htext)
  · rw [hrows] at hblank
    cases hblank
    rw [hrest.eq_nil]
    exact .blank hall hsingle

theorem Follow.ended_stayed (h : Follow indent False marks marks') (hblank : BlankRow marks) :
    Follow indent text (.ended :: marks) (.ended :: marks') := by
  obtain ⟨row, rest, rest', others, others', hrows, hrows', hrest, hothers⟩ := h
  obtain ⟨row', others'', hblank, hall, hsingle⟩ := hblank
  rw [hrows] at hblank
  cases hblank
  rw [hrest.eq_nil] at hrows'
  refine ⟨[], [], [], [row] :: others, [row] :: others', ?_, ?_, .nil,
    .cons (.blank hall hsingle) hothers⟩
  · rw [Mark.rows_ended, hrows]
  · rw [Mark.rows_ended, hrows']

end

section

variable {s next last : RowState} {c : Char} {t : Text} {mark : Option Mark} {marks : List Mark}

theorem codeStep?_ne_break (hc : c ≠ '\n') (h : s.codeStep? c = some (mark, next)) :
    (mark = none ∧ next.depth = s.depth) ∨
      (mark = some (.keep c) ∧ (0 < next.depth → 0 < s.depth ∨ isGap c = false)) := by
  rcases RowState.codeStep?_cases h with
    ⟨-, rfl, rfl⟩ | ⟨rfl, -⟩ | ⟨-, rfl, rfl⟩ | ⟨-, rfl, rfl⟩ | ⟨hgap, rfl⟩
  · exact .inr ⟨rfl, .inl⟩
  · exact absurd rfl hc
  · exact .inl ⟨rfl, rfl⟩
  · exact .inl ⟨rfl, rfl⟩
  · exact .inr ⟨rfl, fun _ => .inr hgap⟩

-- Another character is kept or dropped, and only text opens a bracket.
theorem step?_ne_break (hc : c ≠ '\n') (h : s.step? c = some (mark, next)) :
    (mark = none ∧ next.depth = s.depth) ∨
      (mark = some (.keep c) ∧ (0 < next.depth → 0 < s.depth ∨ isGap c = false)) := by
  obtain ⟨mode, depth⟩ := s
  cases mode with
  | code => exact codeStep?_ne_break hc h
  | joined => exact codeStep?_ne_break hc h
  | backslash => simp [RowState.step?, hc] at h
  | comment =>
    simp only [RowState.step?, hc, if_false, Option.some.injEq, Prod.mk.injEq] at h
    exact .inl ⟨h.1.symm, by rw [← h.2]⟩
  | emptied quote =>
    simp only [RowState.step?] at h
    split at h
    · cases h
      exact .inr ⟨rfl, .inl⟩
    · exact codeStep?_ne_break hc h
  | opened quote =>
    simp only [RowState.step?] at h
    split at h
    · cases h
      exact .inr ⟨rfl, .inl⟩
    · obtain ⟨mode, -, hmode⟩ := Option.map_eq_some_iff.mp h
      cases hmode
      exact .inr ⟨rfl, .inl⟩
  | string quote tripled quotes =>
    obtain ⟨mode, -, hmode⟩ := Option.map_eq_some_iff.mp h
    cases hmode
    exact .inr ⟨rfl, .inl⟩
  | escape quote tripled =>
    cases h
    exact .inr ⟨rfl, .inl⟩

-- A row of blanks, where no bracket is open, is a line of its own.
theorem blankRow_of_run? {mode : Mode} (hmode : mode = .code ∨ mode = .joined)
    (hblank : isBlankLine (t.takeWhile (· ≠ '\n')) = true)
    (h : (RowState.mk mode 0).run? t = some (marks, last)) : BlankRow marks := by
  induction t generalizing mode marks with
  | nil =>
    cases h
    exact ⟨[], [], rfl, rfl, List.not_mem_nil⟩
  | cons c t ih =>
    obtain ⟨mark, next, others, hstep, hrest, rfl⟩ := RowState.exists_of_run?_cons h
    have hcode : (RowState.mk mode 0).step? c = (RowState.mk mode 0).codeStep? c := by
      rcases hmode with rfl | rfl <;> rfl
    rw [hcode] at hstep
    by_cases hc : c = '\n'
    · subst hc
      cases hstep
      exact ⟨[], Mark.rows others, Mark.rows_ended others, rfl, List.not_mem_nil⟩
    · rw [List.takeWhile_cons_of_pos (by simpa using hc)] at hblank
      simp only [isBlankLine, List.all_cons, Bool.and_eq_true] at hblank
      have hkeep : (RowState.mk mode 0).codeStep? c = some (some (.keep c), ⟨.code, 0⟩) := by
        have hne {d : Char} (hd : isBlank d = false) : c ≠ d := by
          rintro rfl
          rw [hblank.1] at hd
          cases hd
        have h₁ := @hne '\'' (by decide)
        have h₂ := @hne '"' (by decide)
        have h₃ := @hne '#' (by decide)
        have h₄ := @hne '\\' (by decide)
        have h₅ := @hne '(' (by decide)
        have h₆ := @hne '[' (by decide)
        have h₇ := @hne '\x7b' (by decide)
        have h₈ := @hne ')' (by decide)
        have h₉ := @hne ']' (by decide)
        have h₁₀ := @hne '\x7d' (by decide)
        simp [RowState.codeStep?, *]
      rw [hkeep] at hstep
      cases hstep
      obtain ⟨row, lines, hrows, hall, hsingle⟩ := ih (.inl rfl) hblank.2 hrest
      refine ⟨c :: row, lines, Mark.rows_cons hrows, ?_, ?_⟩
      · simp only [isBlankLine, List.all_cons, hblank.1, Bool.true_and] at hall ⊢
        exact hall
      · rw [List.mem_cons, not_or]
        exact ⟨Ne.symm hc, hsingle⟩

end

-- The rows that move are those that begin outside strings and are not blank.
def MovesRows (moved : Nat → Bool) (s : RowState) (row : Nat) (t : Text) : Prop :=
  ∀ a b next, t = a ++ '\n' :: b → Reaches s (a ++ ['\n']) next →
    (moved (row + a.count '\n' + 1) = true ↔
      ¬ next.InString ∧ isBlankLine (b.takeWhile (· ≠ '\n')) = false)

section

variable {moved : Nat → Bool} {indent t : Text} {row : Nat} {s next last : RowState} {c : Char}
  {mark : Option Mark} {marks : List Mark}

theorem MovesRows.here (h : MovesRows moved s row ('\n' :: t))
    (hstep : s.step? '\n' = some (mark, next)) :
    moved (row + 1) = true ↔
      ¬ next.InString ∧ isBlankLine (t.takeWhile (· ≠ '\n')) = false :=
  h [] t next rfl (reaches_cons.mpr ⟨mark, next, hstep, reaches_nil.mpr rfl⟩)

theorem MovesRows.behind (h : MovesRows moved s row (c :: t))
    (hstep : s.step? c = some (mark, next)) :
    MovesRows moved next (row + if c = '\n' then 1 else 0) t := by
  rintro a b final rfl hreaches
  have hmoved := h (c :: a) b final rfl (reaches_cons.mpr ⟨mark, next, hstep, hreaches⟩)
  have hcount : row + (c :: a).count '\n' = row + (if c = '\n' then 1 else 0) + a.count '\n' := by
    by_cases hc : c = '\n'
    · rw [hc, List.count_cons_self, if_pos rfl]
      omega
    · rw [List.count_cons_of_ne hc, if_neg hc, Nat.add_zero]
  rwa [hcount] at hmoved

-- Behind an indent the reader is where it was.
theorem run?_indent (hindent : ∀ c ∈ indent, isGap c = true)
    (hmode : s.mode = .code ∨ s.mode = .joined) (hne : t ≠ [])
    (h : s.run? t = some (marks, last)) :
    s.run? (indent ++ t) = some (indent.map .keep ++ marks, last) := by
  obtain ⟨mode, depth⟩ := s
  have hcode {u : Text} (hu : u ≠ []) :
      (RowState.mk mode depth).run? u = (RowState.mk .code depth).run? u := by
    obtain ⟨c, u, rfl⟩ := List.exists_cons_of_ne_nil hu
    rcases hmode with hmode | hmode <;> cases hmode <;> rfl
  rw [hcode hne] at h
  rw [hcode (by simp [hne])]
  exact RowState.run?_append (RowState.run?_gaps hindent) h

-- A row that stays behind a line feed: a string goes on in it, or it is blank.
theorem run?_break_stayed {u : Text} {text : Prop} (hs : s.IsSound) (hdepth : 0 < s.depth → text)
    (hstep : s.step? '\n' = some (mark, next)) (hrest : next.run? t = some (marks, last))
    (hstays : next.InString ∨ isBlankLine (t.takeWhile (· ≠ '\n')) = true)
    (hbehind : ∀ text' : Prop, (0 < next.depth → text') →
      ∃ marks', next.run? u = some (marks', last) ∧ Follow indent text' marks marks') :
    ∃ marks', s.run? ('\n' :: u) = some (marks', last) ∧
      Follow indent text (mark.toList ++ marks) marks' := by
  rcases step?_break hs hstep with
    ⟨rfl, -, hnext⟩ | ⟨rfl, -, hnext, hpos⟩ | ⟨rfl, hmode, hnext⟩ | ⟨rfl, rfl⟩
  · obtain ⟨marks', hrun, hfollow⟩ := hbehind (text ∨ isGap '\n' = false)
      fun hpos => .inl (hdepth (hnext ▸ hpos))
    exact ⟨_, RowState.run?_cons hstep hrun, hfollow.keep⟩
  · obtain ⟨marks', hrun, hfollow⟩ := hbehind text fun _ => hdepth hpos
    exact ⟨_, RowState.run?_cons hstep hrun, hfollow.cut_stayed (.inl (hdepth hpos))⟩
  · have hblank := hstays.resolve_left (by simp [RowState.InString, hmode])
    obtain ⟨marks', hrun, hfollow⟩ := hbehind text fun hpos => hdepth (hnext ▸ hpos)
    refine ⟨_, RowState.run?_cons hstep hrun,
      hfollow.cut_stayed (or_iff_not_imp_left.mpr fun htext => ?_)⟩
    have hzero : s.depth = 0 := Nat.eq_zero_of_not_pos fun hpos => htext (hdepth hpos)
    obtain ⟨mode, depth⟩ := next
    obtain rfl : depth = 0 := hnext.trans hzero
    exact blankRow_of_run? (.inr hmode) hblank hrest
  · have hblank := hstays.resolve_left id
    obtain ⟨marks', hrun, hfollow⟩ := hbehind False fun hpos => absurd hpos (Nat.lt_irrefl 0)
    exact ⟨_, RowState.run?_cons hstep hrun,
      hfollow.ended_stayed (blankRow_of_run? (.inl rfl) hblank hrest)⟩

-- A row that moves behind a line feed.
theorem run?_break_moved {u : Text} {text : Prop} (hindent : ∀ c ∈ indent, isGap c = true)
    (hs : s.IsSound) (hdepth : 0 < s.depth → text) (hstep : s.step? '\n' = some (mark, next))
    (hstring : ¬ next.InString) (hne : u ≠ [])
    (hbehind : ∀ text' : Prop, (0 < next.depth → text') →
      ∃ marks', next.run? u = some (marks', last) ∧ Follow indent text' marks marks') :
    ∃ marks', s.run? ('\n' :: (indent ++ u)) = some (marks', last) ∧
      Follow indent text (mark.toList ++ marks) marks' := by
  rcases step?_break hs hstep with
    ⟨-, hinside, -⟩ | ⟨rfl, hmode, hnext, -⟩ | ⟨rfl, hmode, hnext⟩ | ⟨rfl, rfl⟩
  · exact absurd hinside hstring
  · obtain ⟨marks', hrun, hfollow⟩ := hbehind text fun hpos => hdepth (hnext ▸ hpos)
    exact ⟨_, RowState.run?_cons hstep (run?_indent hindent (.inl hmode) hne hrun), hfollow.cut⟩
  · obtain ⟨marks', hrun, hfollow⟩ := hbehind text fun hpos => hdepth (hnext ▸ hpos)
    exact ⟨_, RowState.run?_cons hstep (run?_indent hindent (.inr hmode) hne hrun), hfollow.cut⟩
  · obtain ⟨marks', hrun, hfollow⟩ := hbehind False fun hpos => absurd hpos (Nat.lt_irrefl 0)
    exact ⟨_, RowState.run?_cons hstep (run?_indent hindent (.inl rfl) hne hrun), hfollow.ended⟩

-- The reader goes through the indented text as through the text itself.
theorem run?_indentFrom {text : Prop} (hindent : ∀ c ∈ indent, isGap c = true) (hs : s.IsSound)
    (hmoves : MovesRows moved s row t) (hdepth : 0 < s.depth → text)
    (h : s.run? t = some (marks, last)) :
    ∃ marks', s.run? (indentFrom moved indent row t) = some (marks', last) ∧
      Follow indent text marks marks' := by
  induction t generalizing s row marks text with
  | nil =>
    cases h
    exact ⟨[], rfl, follow_nil⟩
  | cons c t ih =>
    obtain ⟨mark, next, others, hstep, hrest, rfl⟩ := RowState.exists_of_run?_cons h
    have hsound := RowState.step?_isSound hs hstep
    have hmovesBehind := hmoves.behind hstep
    have hbehind (text' : Prop) (hdepth' : 0 < next.depth → text') :=
      ih hsound hmovesBehind hdepth' hrest
    by_cases hc : c = '\n'
    · subst hc
      have hhere := hmoves.here hstep
      rw [if_pos rfl] at hbehind
      rw [indentFrom, if_pos rfl]
      by_cases hmoved : moved (row + 1) = true
      · obtain ⟨hstring, hblank⟩ := hhere.mp hmoved
        have hne : indentFrom moved indent (row + 1) t ≠ [] := by
          cases t with
          | nil => cases hblank
          | cons d t =>
            rw [indentFrom]
            split_ifs <;> simp
        rw [if_pos hmoved]
        exact run?_break_moved hindent hs hdepth hstep hstring hne hbehind
      · rw [if_neg hmoved, List.nil_append]
        rw [hhere, not_and_or, not_not, Bool.not_eq_false] at hmoved
        exact run?_break_stayed hs hdepth hstep hrest hmoved hbehind
    · rw [indentFrom, if_neg hc]
      rw [if_neg hc, Nat.add_zero] at hbehind
      rcases step?_ne_break hc hstep with ⟨rfl, hnext⟩ | ⟨rfl, hopens⟩
      · obtain ⟨marks', hrun, hfollow⟩ := hbehind text fun hpos => hdepth (hnext ▸ hpos)
        exact ⟨_, RowState.run?_cons hstep hrun, hfollow⟩
      · obtain ⟨marks', hrun, hfollow⟩ := hbehind (text ∨ isGap c = false)
          fun hpos => (hopens hpos).imp_left hdepth
        exact ⟨_, RowState.run?_cons hstep hrun, hfollow.keep⟩

end

section

variable {c : Char} {t row : Text}

-- The characters that count as blank in a text, but separate no tokens.
def strayBlanks : List Char :=
  [0x0B, 0x0D, 0x1C, 0x1D, 0x1E, 0x1F, 0x85, 0xA0, 0x1680, 0x2000, 0x2001, 0x2002, 0x2003, 0x2004,
    0x2005, 0x2006, 0x2007, 0x2008, 0x2009, 0x200A, 0x2028, 0x2029, 0x202F, 0x205F, 0x3000].map
    Char.ofNat

theorem mem_strayBlanks (h : isBlank c = true) (hgap : isGap c = false) (hbreak : c ≠ '\n') :
    c ∈ strayBlanks := by
  have hof : c = Char.ofNat c.toNat := (Char.ofNat_toNat c).symm
  have hne (n : Nat) (hn : c ≠ Char.ofNat n) : c.toNat ≠ n := fun heq => hn (heq ▸ hof)
  simp only [isGap, Bool.or_eq_false_iff, decide_eq_false_iff_not] at hgap
  have h₁ := hne 0x20 hgap.1.1
  have h₂ := hne 0x09 hgap.1.2
  have h₃ := hne 0x0C hgap.2
  have h₄ := hne 0x0A hbreak
  simp only [isBlank, Bool.or_eq_true, Bool.and_eq_true, decide_eq_true_eq, beq_iff_eq] at h
  rw [hof]
  generalize c.toNat = n at *
  refine List.mem_map_of_mem ?_
  simp only [List.mem_cons, List.not_mem_nil, or_false]
  omega

theorem opening?_of_strayBlank (h : c ∈ strayBlanks) (t : Text) : opening? (c :: t) = none := by
  have hcases : ∀ c ∈ strayBlanks, isAsciiLetter c = false ∧ isQuote c = false :=
    List.all_iff_forall_prop.mp (by decide +kernel)
  obtain ⟨hletter, hquote⟩ := hcases c h
  exact opening?_eq_none hletter hquote t

theorem word?_of_strayBlank (h : c ∈ strayBlanks) (t : Text) : word? (c :: t) = none := by
  have hcases : ∀ c ∈ strayBlanks, isIdentifierStart c = false ∧
      ∀ entry ∈ keywordTable, entry.1.head? ≠ some c :=
    List.all_iff_forall_prop.mp (by decide +kernel)
  obtain ⟨hstart, hnone⟩ := hcases c h
  have hkeyword : Keyword.ofText? ((c :: t).takeWhile continuesName) = none := by
    rw [List.takeWhile_cons]
    split
    · rw [Keyword.ofText?, List.lookup_eq_none_iff]
      intro entry hentry
      have hne : c :: t.takeWhile continuesName ≠ entry.1 := fun heq =>
        hnone entry hentry (by rw [← heq]; rfl)
      simpa using hne
    · rfl
  have hidentifier : isIdentifier ((c :: t).takeWhile continuesName) = false := by
    rw [List.takeWhile_cons]
    split <;> simp [isIdentifier, hstart]
  simp [word?, hkeyword, hidentifier]

theorem symbol?_of_strayBlank (h : c ∈ strayBlanks) (t : Text) : symbol? (c :: t) = none := by
  have hcases : ∀ c ∈ strayBlanks, ∀ entry ∈ symbolTable,
      entry.1.head? ≠ some c ∧ entry.1 ≠ [] := List.all_iff_forall_prop.mp (by decide +kernel)
  rw [symbol?, Option.map_eq_none_iff, List.find?_eq_none]
  intro entry hentry hprefix
  obtain ⟨hhead, hne⟩ := hcases c h entry hentry
  obtain ⟨d, text, hd⟩ := List.exists_cons_of_ne_nil hne
  rw [hd, List.isPrefixOf_cons_cons, Bool.and_eq_true, beq_iff_eq] at hprefix
  exact hhead (by rw [hd, hprefix.1]; rfl)

theorem token?_of_strayBlank (h : c ∈ strayBlanks) (t : Text) : token? (c :: t) = none := by
  have hcases : ∀ c ∈ strayBlanks, isDigit c = false ∧ c ≠ '.' :=
    List.all_iff_forall_prop.mp (by decide +kernel)
  have hnumber : startsNumber (c :: t) = false := by
    unfold startsNumber
    split
    · rename_i heq
      cases heq
      exact absurd rfl (hcases _ h).2
    · rename_i heq
      cases heq
      exact (hcases _ h).1
    · rfl
  simp [token?, opening?_of_strayBlank h, hnumber, word?_of_strayBlank h, symbol?_of_strayBlank h]

theorem dropRightWhile_cons {p : Char → Bool} (h : p c = false) (t : Text) :
    dropRightWhile p (c :: t) = c :: dropRightWhile p t := by
  rw [dropRightWhile]
  cases dropRightWhile p t with
  | nil => simp [h]
  | cons d kept => rfl

-- A blank row has no tokens, if it is a row of tokens at all.
theorem rowTokens?_of_blank {tokens : List Token} (hblank : isBlankLine row = true)
    (hbreak : '\n' ∉ row) (h : rowTokens? row = some tokens) : tokens = [] := by
  induction row with
  | nil => exact (Option.some.inj h).symm
  | cons c row ih =>
    simp only [isBlankLine, List.all_cons, Bool.and_eq_true] at hblank
    rw [List.mem_cons, not_or] at hbreak
    by_cases hgap : isGap c = true
    · rw [rowTokens?_cons_gap row hgap] at h
      exact ih hblank.2 hbreak.2 h
    · rw [Bool.not_eq_true] at hgap
      have hstray := mem_strayBlanks hblank.1 hgap (Ne.symm hbreak.1)
      simp [rowTokens?, dropRightWhile_cons hgap, tokensUpTo, hgap, token?_of_strayBlank hstray] at h

end

section

variable {indent : Text} {text : Prop} {rows rows' : List Text}

-- The tokens stay.
theorem Indented.mapM_rowTokens? (h : Indented indent text rows rows')
    (hindent : ∀ c ∈ indent, isGap c = true) :
    rows'.mapM rowTokens? = rows.mapM rowTokens? := by
  induction h with
  | moved _ ih => rw [List.mapM_cons, List.mapM_cons, ih, rowTokens?_gaps_append _ hindent]
  | stayed _ _ ih => rw [List.mapM_cons, List.mapM_cons, ih]
  | _ => rfl

theorem Indented.isEmpty_eq (h : Indented indent text rows rows') :
    rows'.isEmpty = rows.isEmpty := by
  cases h <;> rfl

-- The margin of a line with tokens is that behind the indent.
theorem Indented.marginFrom_eq (h : Indented indent text rows rows') (htext : ¬ text)
    {tokens : List (List Token)} (htokens : rows.mapM rowTokens? = some tokens)
    (hne : tokens.flatten ≠ []) (margin : Margin)
    (first : Nat) :
    marginFrom margin first rows' = marginFrom margin first (rows.map (indent ++ ·)) := by
  induction h generalizing tokens margin first with
  | nil => rfl
  | stayed hbefore => exact absurd hbefore htext
  | @blank _ row hall hsingle =>
    simp only [List.mapM_cons, List.mapM_nil, Option.bind_eq_bind, Option.bind_eq_some_iff,
      Option.pure_def, Option.some.injEq, exists_eq_left'] at htokens
    obtain ⟨found, hfound, rfl⟩ := htokens
    rw [rowTokens?_of_blank hall hsingle hfound] at hne
    exact absurd rfl hne
  | @moved text row rows rows' hbehind ih =>
    simp only [List.mapM_cons, Option.bind_eq_bind, Option.bind_eq_some_iff, Option.pure_def,
      Option.some.injEq] at htokens
    obtain ⟨found, hfound, others, hothers, rfl⟩ := htokens
    rw [List.map_cons, marginFrom, marginFrom, hbehind.isEmpty_eq, List.isEmpty_map]
    simp only
    split
    · rename_i hmore
      -- The row has no text, or the line would get its margin from it.
      have hnone : ¬ HasText row := by
        rintro ⟨c, hc, hgap⟩
        have htext' : HasText (indent ++ row) := ⟨c, List.mem_append_right indent hc, hgap⟩
        simp [(leadingBlanks_append margin htext' []).1] at hmore
      have hempty : found = [] := by
        by_contra hfoundNe
        exact hnone (hasText_of_tokens hfound hfoundNe)
      rw [hempty] at hne
      exact ih (not_or.mpr ⟨htext, hnone⟩) hothers (by simpa using hne) _ _
    · rfl

end

-- A logical line with the margin it has behind an indent.
def lineBehind? (indent : Text) (rows : List Text) : Option (Line × Margin) :=
  (line? rows).map fun line => (line, marginFrom ⟨0, 0⟩ 0 (rows.map (indent ++ ·)))

namespace Mark

-- The lines that are not blank, with the margins they have behind an indent.
def linesBehind? (indent : Text) (marks : List Mark) : Option (List (Line × Margin)) :=
  ((rows marks).mapM (lineBehind? indent)).map (List.filter (!·.1.isBlank))

end Mark

-- The lines of a code with the margins they have if the code stands behind an indent, with a line
-- feed at its end.
def linesBehind? (indent code : Text) : Option (List (Line × Margin)) :=
  (RowState.start.marks? (code ++ ['\n'])).bind (Mark.linesBehind? indent)

section

variable {indent code : Text} {moved : Nat → Bool} {marks marks' : List Mark} {rows rows' : List Text}
  {lines : List Line} {found : List (Line × Margin)}

theorem Mark.lines?_eq (indent : Text) (marks : List Mark) :
    lines? marks = (linesBehind? indent marks).map (List.map Prod.fst) := by
  have hmapM (lines : List (List Text)) :
      lines.mapM line? = (lines.mapM (lineBehind? indent)).map (List.map Prod.fst) := by
    induction lines with
    | nil => rfl
    | cons rows lines ih =>
      rw [List.mapM_cons, List.mapM_cons, ih, lineBehind?]
      cases line? rows with
      | none => rfl
      | some line => cases lines.mapM (lineBehind? indent) <;> rfl
  rw [lines?, linesBehind?, hmapM]
  cases (rows marks).mapM (lineBehind? indent) with
  | none => rfl
  | some found => simp [List.filter_map, Function.comp_def]

theorem Indented.line?_eq (h : Indented indent False rows rows')
    (hindent : ∀ c ∈ indent, isGap c = true) {pair : Line × Margin}
    (h' : lineBehind? indent rows = some pair) :
    ∃ line, line? rows' = some line ∧ line.tokens = pair.1.tokens ∧
      (pair.1.isBlank = false → line = Block.moved pair) := by
  obtain ⟨line, hline, rfl⟩ := Option.map_eq_some_iff.mp h'
  unfold line? at hline ⊢
  simp only [Option.bind_eq_bind, Option.bind_eq_some_iff] at hline
  obtain ⟨tokens, htokens, hline⟩ := hline
  split at hline
  · rename_i hbrackets
    cases hline
    refine ⟨⟨marginFrom ⟨0, 0⟩ 0 rows', tokens.flatten⟩, ?_, rfl, fun hblank => ?_⟩
    · rw [h.mapM_rowTokens? hindent, htokens, Option.bind_eq_bind, Option.bind_some, if_pos hbrackets]
    · have hne : tokens.flatten ≠ [] := by simpa [Line.isBlank] using hblank
      rw [Block.moved, h.marginFrom_eq id htokens hne]
  · cases hline

theorem lines?_of_forall₂ {lines₁ lines₂ : List (List Text)}
    (h : List.Forall₂ (Indented indent False) lines₁ lines₂)
    (hindent : ∀ c ∈ indent, isGap c = true)
    (hfound : (lines₁.mapM (lineBehind? indent)).map (List.filter (!·.1.isBlank)) = some found) :
    (lines₂.mapM line?).map (List.filter (!·.isBlank)) = some (found.map Block.moved) := by
  induction h generalizing found with
  | nil =>
    cases hfound
    rfl
  | @cons rows rows' lines₁ lines₂ hrows _ ih =>
    obtain ⟨all, hall, rfl⟩ := Option.map_eq_some_iff.mp hfound
    simp only [List.mapM_cons, Option.bind_eq_bind, Option.bind_eq_some_iff, Option.pure_def,
      Option.some.injEq] at hall
    obtain ⟨pair, hpair, others, hothers, rfl⟩ := hall
    obtain ⟨line, hline, htokens, hmoved⟩ := hrows.line?_eq hindent hpair
    have hrest := ih (by rw [hothers]; rfl)
    obtain ⟨others', hothers', hfilter⟩ := Option.map_eq_some_iff.mp hrest
    have hblank : line.isBlank = pair.1.isBlank := by rw [Line.isBlank, htokens, Line.isBlank]
    rw [List.mapM_cons, hline, hothers']
    simp only [Option.bind_eq_bind, Option.bind_some, Option.pure_def, Option.map_some,
      List.filter_cons, hblank, hfilter]
    cases hpairBlank : pair.1.isBlank with
    | true => rfl
    | false => simp [hmoved hpairBlank]

theorem Follow.lines? (h : Follow indent False marks marks')
    (hindent : ∀ c ∈ indent, isGap c = true) (hfound : Mark.linesBehind? indent marks = some found) :
    Mark.lines? (indent.map .keep ++ marks') = some (found.map Block.moved) := by
  obtain ⟨row, rest, rest', others, others', hrows, hrows', hrest, hothers⟩ := h
  rw [Mark.linesBehind?, hrows] at hfound
  rw [Mark.lines?, Mark.rows_append_keep indent hrows']
  exact lines?_of_forall₂ (.cons (.moved hrest) hothers) hindent hfound

-- A text that may end behind a line feed ends there where a line may begin.
theorem run?_of_marks?_break (h : RowState.start.marks? (code ++ ['\n']) = some marks) :
    RowState.start.run? (code ++ ['\n']) = some (marks, .start) := by
  obtain ⟨marks₁, middle, marks₂, hcode, hbreak, rfl⟩ := RowState.marks?_split h
  have hsound := RowState.run?_isSound RowState.start_isSound hcode
  unfold RowState.marks? at hbreak
  split at hbreak
  · cases hbreak
  · rename_i found last hrun
    obtain ⟨mark, next, hstep, hlast⟩ := reaches_cons.mp ⟨found, hrun⟩
    obtain rfl := reaches_nil.mp hlast
    split at hbreak
    · rename_i hsettled
      have hstart : last = .start := by
        rcases step?_break hsound hstep with
          ⟨-, hstring, -⟩ | ⟨-, -, hnext, hpos⟩ | ⟨-, hmode, -⟩ | ⟨-, hstart⟩
        · obtain ⟨mode, depth⟩ := last
          cases mode <;> first | exact absurd hstring id | simp [RowState.isSettled] at hsettled
        · simp [RowState.isSettled, hnext, hpos.ne'] at hsettled
        · simp [RowState.isSettled, hmode] at hsettled
        · exact hstart
      subst hstart
      cases hbreak
      exact RowState.run?_append hcode hrun
    · cases hbreak

theorem run?_of_moduleLines? (h : moduleLines? code = some lines) (hreturn : '\r' ∉ code) :
    ∃ marks, RowState.start.run? (code ++ ['\n']) = some (marks, .start) ∧
      Mark.lines? marks = some lines := by
  rw [moduleLines?_eq, unifyBreaks_of_not_mem hreturn, Option.bind_eq_some_iff] at h
  obtain ⟨marks, hmarks, hlines⟩ := h
  by_cases hend : code.getLast? = some '\n'
  · obtain ⟨before, rfl⟩ := List.getLast?_eq_some_iff.mp hend
    rw [endLine, if_pos hend] at hmarks
    refine ⟨marks ++ [.ended], RowState.run?_append (run?_of_marks?_break hmarks) rfl, ?_⟩
    rwa [Mark.lines?_append_end]
  · rw [endLine, if_neg hend] at hmarks
    exact ⟨marks, run?_of_marks?_break hmarks, hlines⟩

-- The lines of an accepted code are those that it has behind an indent, with other margins.
theorem exists_linesBehind? (indent : Text)
    (h : RowState.start.run? (code ++ ['\n']) = some (marks, .start))
    (hlines : Mark.lines? marks = some lines) :
    ∃ found, linesBehind? indent code = some found ∧
      Mark.linesBehind? indent marks = some found ∧ found.map Prod.fst = lines := by
  rw [Mark.lines?_eq indent] at hlines
  obtain ⟨found, hfound, hfst⟩ := Option.map_eq_some_iff.mp hlines
  have hmarks : RowState.start.marks? (code ++ ['\n']) = some marks := by
    simp only [RowState.marks?, h]
    rfl
  exact ⟨found, by rw [linesBehind?, hmarks]; exact hfound, hfound, hfst⟩

-- The indented code has the same lines with the margins they have behind the indent.
theorem lines?_indentFrom (hindent : ∀ c ∈ indent, isGap c = true)
    (h : RowState.start.run? (code ++ ['\n']) = some (marks, .start))
    (hmoves : MovesRows moved .start 1 (code ++ ['\n']))
    (hfound : Mark.linesBehind? indent marks = some found) :
    ∃ marks', RowState.start.marks? (endLine (indent ++ (indentFrom moved indent 1 code ++ ['\n']))) =
      some marks' ∧ Mark.lines? marks' = some (found.map Block.moved) := by
  obtain ⟨marks', hrun, hfollow⟩ := @run?_indentFrom moved indent _ 1 _ _ _ False hindent
    RowState.start_isSound hmoves (fun hpos => absurd hpos (Nat.lt_irrefl 0)) h
  have hstill : moved (1 + code.count '\n' + 1) = false := by
    rw [← Bool.not_eq_true, hmoves code [] .start rfl ⟨marks, h⟩]
    simp [isBlankLine]
  have hbreak : indentFrom moved indent 1 (code ++ ['\n']) =
      indentFrom moved indent 1 code ++ ['\n'] := by
    simp [indentFrom_append, indentFrom, hstill]
  rw [hbreak] at hrun
  refine ⟨indent.map .keep ++ marks', ?_, hfollow.lines? hindent hfound⟩
  have hend : endLine (indent ++ (indentFrom moved indent 1 code ++ ['\n'])) =
      indent ++ (indentFrom moved indent 1 code ++ ['\n']) := by
    rw [endLine, if_pos]
    rw [← List.append_assoc, List.getLast?_concat]
  rw [hend, RowState.marks?, run?_indent hindent (.inl rfl) (by simp) hrun]
  rfl

end

end Ghostwriter.Grammar

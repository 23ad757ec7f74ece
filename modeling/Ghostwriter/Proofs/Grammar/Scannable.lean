import Ghostwriter.Proofs.Grammar.Indented

/-!
Accepted code that the tolerant scanner reads to its end. The two tell the indentation of a line by
different rows only where a line begins with a bare backslash; without such lines the scanner opens
and closes blocks as the grammar does.
-/

namespace Ghostwriter.Grammar

open Ghostwriter.Lexeme Ghostwriter.Text

section

variable {t : Text} {column narrow : Nat} {m : Margin}

theorem leadingBlanks_of_not_gap (h : ∀ c ∈ t.head?, isGap c = false) :
    leadingBlanks m t = (m, t) := by
  cases t with
  | nil => rfl
  | cons c t =>
    have hgap := h c rfl
    simp only [isGap, Bool.or_eq_false_iff, decide_eq_false_iff_not] at hgap
    rw [leadingBlanks]
    · exact fun _ heq => hgap.1.1 (List.cons.inj heq).1
    · exact fun _ heq => hgap.1.2 (List.cons.inj heq).1
    · exact fun _ heq => hgap.2 (List.cons.inj heq).1

-- The scanner and the grammar read the same blanks, and come to the same column.
theorem leadingColumn_cases (narrow column : Nat) (t : Text) :
    ∃ gaps body, t = gaps ++ body ∧ (∀ c ∈ gaps, isGap c = true) ∧
      (∀ c ∈ body.head?, isGap c = false) ∧
      leadingColumn column t = ((leadingBlanks ⟨column, narrow⟩ gaps).1.column, gaps.length) := by
  induction t generalizing column narrow with
  | nil => exact ⟨[], [], rfl, by simp, by simp, rfl⟩
  | cons c t ih =>
    by_cases hgap : isGap c = true
    · have hc := hgap
      simp only [isGap, Bool.or_eq_true, decide_eq_true_eq] at hc
      obtain ⟨next, hnext, hblanks⟩ : ∃ next : Margin,
          leadingColumn column (c :: t) =
            ((leadingColumn next.column t).1, (leadingColumn next.column t).2 + 1) ∧
          ∀ u, leadingBlanks ⟨column, narrow⟩ (c :: u) = leadingBlanks next u := by
        rcases hc with (rfl | rfl) | rfl
        · exact ⟨⟨column + 1, narrow + 1⟩, rfl, fun _ => rfl⟩
        · exact ⟨⟨(column / 8 + 1) * 8, narrow + 1⟩, rfl, fun _ => rfl⟩
        · exact ⟨⟨0, 0⟩, rfl, fun _ => rfl⟩
      obtain ⟨gaps, body, rfl, hgaps, hbody, hcolumn⟩ := ih next.narrow next.column
      refine ⟨c :: gaps, body, rfl, List.forall_mem_cons.mpr ⟨hgap, hgaps⟩, hbody, ?_⟩
      rw [hnext, hcolumn, hblanks]
      rfl
    · rw [Bool.not_eq_true] at hgap
      refine ⟨[], c :: t, rfl, by simp, by simpa using hgap, ?_⟩
      simp only [isGap, Bool.or_eq_false_iff, decide_eq_false_iff_not] at hgap
      rw [leadingColumn]
      · rfl
      · exact fun _ heq => hgap.1.1 (List.cons.inj heq).1
      · exact fun _ heq => hgap.1.2 (List.cons.inj heq).1
      · exact fun _ heq => hgap.2 (List.cons.inj heq).1

end

-- No further row belongs to the first one of the line, or there is text on it.
def isHeaded : List Text → Bool
  | row :: _ :: _ => row.any (!isGap ·)
  | _ => true

-- Lines to come, which are headed, and are laid out behind the blocks that are open.
structure LaidOut (opened : List Margin) (lines : List (List Text)) : Prop where
  headed : ∀ rows ∈ lines, isHeaded rows = true
  layout : ∃ found deep last, lines.mapM line? = some found ∧
    Block.Layout opened (found.filter (!·.isBlank)) deep last

section

variable {opened opened' : List Margin} {lines : List (List Text)} {gaps row : Text} {c : Char}
  {rest : List Text} {m : Margin}

theorem LaidOut.behind_blank (h : LaidOut opened ([gaps] :: lines))
    (hgaps : ∀ c ∈ gaps, isGap c = true) : LaidOut opened lines := by
  obtain ⟨hheaded, all, deep, last, hall, hlayout⟩ := h
  simp only [List.mapM_cons, Option.bind_eq_bind, Option.bind_eq_some_iff, Option.pure_def,
    Option.some.injEq] at hall
  obtain ⟨line, hline, others, hothers, rfl⟩ := hall
  have hblank : line.isBlank = true := by
    simp only [line?, List.mapM_cons, List.mapM_nil, rowTokens?_of_gaps hgaps] at hline
    cases hline
    rfl
  rw [List.filter_cons_of_neg (by simp [hblank])] at hlayout
  exact ⟨(List.forall_mem_cons.mp hheaded).2, others, deep, last, hothers, hlayout⟩

theorem rowTokens?_ne_nil (hc : isGap c = false) (hgaps : ∀ c ∈ gaps, isGap c = true) :
    rowTokens? (gaps ++ c :: row) ≠ some [] := by
  rw [rowTokens?_gaps_append _ hgaps]
  intro h
  simp only [rowTokens?, dropRightWhile_cons hc, List.length_cons, tokensUpTo, hc, Bool.false_eq_true,
    if_false, Option.bind_eq_bind, Option.bind_eq_some_iff] at h
  obtain ⟨_, -, _, -, h⟩ := h
  cases h

theorem LaidOut.behind_text (h : LaidOut opened (((gaps ++ c :: row) :: rest) :: lines))
    (hgaps : ∀ c ∈ gaps, isGap c = true) (hc : isGap c = false) :
    ∃ opened', Block.Opens opened (marginOf gaps) opened' ∧ LaidOut opened' lines := by
  obtain ⟨hheaded, all, deep, last, hall, hlayout⟩ := h
  simp only [List.mapM_cons, Option.bind_eq_bind, Option.bind_eq_some_iff, Option.pure_def,
    Option.some.injEq] at hall
  obtain ⟨line, hline, others, hothers, rfl⟩ := hall
  have hread : line.isBlank = false ∧ line.margin = marginOf gaps := by
    simp only [line?, List.mapM_cons, Option.bind_eq_bind, Option.bind_eq_some_iff, Option.pure_def,
      Option.some.injEq] at hline
    obtain ⟨_, ⟨tokens, htokens, _, -, rfl⟩, hline⟩ := hline
    have hne : tokens ≠ [] := by
      rintro rfl
      exact rowTokens?_ne_nil hc hgaps htokens
    split at hline
    · cases hline
      refine ⟨by simp [Line.isBlank, hne], ?_⟩
      simp [marginFrom, leadingBlanks_gaps_append _ _ hgaps,
        @leadingBlanks_of_not_gap (c :: row) _ (by simpa using hc), marginOf]
    · cases hline
  rw [List.filter_cons_of_pos (by simp [hread.1])] at hlayout
  cases hlayout with
  | cons hopens hbehind =>
    exact ⟨_, hread.2 ▸ hopens, (List.forall_mem_cons.mp hheaded).2, others, _, last, hothers,
      hbehind⟩

theorem not_laidOut_bare (hgaps : ∀ c ∈ gaps, isGap c = true) {line : List Text}
    (hline : line ≠ []) : ¬ LaidOut opened ((gaps :: line) :: lines) := by
  intro h
  have hheaded := (List.forall_mem_cons.mp h.headed).1
  obtain ⟨row, rest, rfl⟩ := List.exists_cons_of_ne_nil hline
  obtain ⟨c, hc, hgap⟩ := List.any_eq_true.mp hheaded
  simp [hgaps c hc] at hgap

theorem dedents_append {extra outer : List Margin} (habove : ∀ e ∈ extra, m.Below e) :
    dedents m.column ((extra ++ m :: outer).map Margin.column) =
      (extra.length, (m :: outer).map Margin.column) := by
  induction extra with
  | nil => simp [dedents]
  | cons e extra ih =>
    rw [List.forall_mem_cons] at habove
    rw [List.cons_append, List.map_cons, dedents, if_pos habove.1.1, ih habove.2]
    rfl

-- The scanner opens and closes the same blocks.
theorem indentation_of_opens {row blanks : Nat} {line : List Char}
    (h : Block.Opens opened m opened') :
    ∃ lexemes, indentation row m.column blanks line (opened.map Margin.column) =
      .ok (lexemes, opened'.map Margin.column) := by
  unfold indentation
  cases h with
  | @back extra outer _ habove =>
    have hhead : ¬ ((extra ++ m :: outer).map Margin.column).headD 0 < m.column := by
      cases extra with
      | nil => simp
      | cons e extra => simpa using (habove e List.mem_cons_self).1.le
    have hcontains : ((extra ++ m :: outer).map Margin.column).contains m.column = true := by simp
    rw [if_neg hhead, if_pos hcontains, dedents_append habove]
    exact ⟨_, rfl⟩
  | deeper habove =>
    rw [if_pos (by simpa using habove.1)]
    exact ⟨_, rfl⟩

end

section

variable {s next last : RowState} {c : Char} {t gaps line behind : Text} {marks marks' : List Mark}
  {opened : List Margin}

theorem ended_of_comment (h : (RowState.mk .comment 0).run? t = some (marks, .start)) :
    ∃ behind, marks = .ended :: behind := by
  induction t generalizing marks with
  | nil => cases h
  | cons c t ih =>
    obtain ⟨mark, next, others, hstep, hrest, rfl⟩ := RowState.exists_of_run?_cons h
    by_cases hc : c = '\n'
    · subst hc
      cases hstep
      exact ⟨others, rfl⟩
    · simp only [RowState.step?, hc, if_false, Option.some.injEq, Prod.mk.injEq] at hstep
      obtain ⟨rfl, rfl⟩ := hstep
      exact ih hrest

-- How a logical line begins, by the first character behind the blanks of its first row.
theorem marks_of_first (hgaps : ∀ c ∈ gaps, isGap c = true) (hc : isGap c = false)
    (h : RowState.start.run? (gaps ++ c :: t) = some (marks, .start)) :
    ∃ behind, ((c = '#' ∨ c = '\n') ∧ marks = gaps.map .keep ++ .ended :: behind) ∨
      marks = gaps.map .keep ++ .cut :: behind ∨
      ((c ≠ '#' ∧ c ≠ '\n') ∧ marks = gaps.map .keep ++ .keep c :: behind) := by
  obtain ⟨marks₁, middle, marks₂, hfirst, hrest, rfl⟩ := RowState.run?_split h
  rw [RowState.start, RowState.run?_gaps hgaps] at hfirst
  cases hfirst
  obtain ⟨mark, next, others, hstep, hothers, rfl⟩ := RowState.exists_of_run?_cons hrest
  have hcode : (RowState.mk .code 0).codeStep? c = some (mark, next) := hstep
  rcases RowState.codeStep?_cases hcode with
    ⟨hgap, -⟩ | ⟨rfl, hend⟩ | ⟨rfl, rfl, rfl⟩ | ⟨rfl, rfl, rfl⟩ | ⟨-, rfl⟩
  · rw [hc] at hgap
    cases hgap
  · cases hend
    exact ⟨others, .inl ⟨.inr rfl, rfl⟩⟩
  · obtain ⟨behind, rfl⟩ := ended_of_comment hothers
    exact ⟨behind, .inl ⟨.inl rfl, rfl⟩⟩
  · cases t with
    | nil => cases hothers
    | cons d t =>
      obtain ⟨mark, next, others', hstep, hrest, rfl⟩ := RowState.exists_of_run?_cons hothers
      simp only [RowState.step?] at hstep
      split at hstep
      · cases hstep
        exact ⟨others', .inr (.inl rfl)⟩
      · cases hstep
  · refine ⟨others, .inr (.inr ⟨⟨?_, ?_⟩, rfl⟩)⟩
    · rintro rfl
      cases hcode
    · rintro rfl
      cases hcode

-- A logical line begins: it is blank, or it opens its block.
theorem LaidOut.begin (h : LaidOut opened (Mark.rows marks)) (hgaps : ∀ c ∈ gaps, isGap c = true)
    (hc : isGap c = false) (hrun : RowState.start.run? (gaps ++ c :: t) = some (marks, .start)) :
    ((c = '#' ∨ c = '\n') ∧ LaidOut opened (Mark.rows marks).tail) ∨
      (c ≠ '#' ∧ c ≠ '\n') ∧ ∃ opened', Block.Opens opened (marginOf gaps) opened' ∧
        LaidOut opened' (Mark.rows marks).tail := by
  obtain ⟨behind, ⟨hkind, rfl⟩ | rfl | ⟨hkind, rfl⟩⟩ := marks_of_first hgaps hc hrun
  · rw [Mark.rows_append_keep gaps (Mark.rows_ended behind), List.append_nil] at h ⊢
    exact .inl ⟨hkind, h.behind_blank hgaps⟩
  · obtain ⟨row, rest, others, hrows⟩ := Mark.exists_rows behind
    rw [Mark.rows_append_keep gaps (Mark.rows_cut hrows), List.append_nil] at h
    exact absurd h (not_laidOut_bare hgaps (List.cons_ne_nil _ _))
  · obtain ⟨row, rest, others, hrows⟩ := Mark.exists_rows behind
    rw [Mark.rows_append_keep gaps (Mark.rows_cons hrows)] at h ⊢
    exact .inr ⟨hkind, h.behind_text hgaps hc⟩

-- The lines that begin in some marks, or behind the line that goes on there.
def ahead (s : RowState) (marks : List Mark) : List (List Text) :=
  if s = .start then Mark.rows marks else (Mark.rows marks).tail

-- Behind a row begins a line, or the line goes on.
theorem tail_rows (hs : s.IsSound) (hrow : IsRow line) (hbreak : '\n' ∈ line)
    (h : s.run? line = some (marks, next)) (marks' : List Mark) :
    (Mark.rows (marks ++ marks')).tail = ahead next marks' := by
  induction line generalizing s marks with
  | nil => cases hbreak
  | cons c line ih =>
    obtain ⟨mark, middle, others, hstep, hrest, rfl⟩ := RowState.exists_of_run?_cons h
    have hkeep (c : Char) (marks : List Mark) :
        (Mark.rows (.keep c :: marks)).tail = (Mark.rows marks).tail := by
      obtain ⟨row, rest, others, hrows⟩ := Mark.exists_rows marks
      rw [Mark.rows_cons hrows, hrows]
      rfl
    by_cases hc : c = '\n'
    · subst hc
      obtain rfl : line = [] := by
        by_contra hne
        exact hrow.head_ne hne rfl
      cases hrest
      rcases step?_break hs hstep with
        ⟨rfl, hstring, -⟩ | ⟨rfl, hmode, hdepth, hpos⟩ | ⟨rfl, hmode, -⟩ | ⟨rfl, rfl⟩
      · rw [ahead, if_neg (by rintro rfl; exact hstring)]
        exact hkeep '\n' marks'
      · rw [ahead, if_neg (by rintro rfl; exact absurd hdepth (Nat.ne_of_lt hpos))]
        obtain ⟨row, rest, others, hrows⟩ := Mark.exists_rows marks'
        rw [show Option.toList (some Mark.cut) ++ [] ++ marks' = .cut :: marks' from rfl,
          Mark.rows_cut hrows, hrows]
        rfl
      · rw [ahead, if_neg (by rintro rfl; cases hmode)]
        obtain ⟨row, rest, others, hrows⟩ := Mark.exists_rows marks'
        rw [show Option.toList (some Mark.cut) ++ [] ++ marks' = .cut :: marks' from rfl,
          Mark.rows_cut hrows, hrows]
        rfl
      · rw [ahead, if_pos rfl]
        exact congrArg List.tail (Mark.rows_ended marks')
    · have hmem : '\n' ∈ line := (List.mem_cons.mp hbreak).resolve_left (Ne.symm hc)
      have hsound := RowState.step?_isSound hs hstep
      rw [← ih hsound hrow.tail hmem hrest, List.append_assoc]
      rcases step?_ne_break hc hstep with ⟨rfl, -⟩ | ⟨rfl, -⟩
      · rfl
      · exact hkeep c (others ++ marks')

end

section

variable {s next last fin : RowState} {state final : ScanState} {row column : Nat}
  {rest line behind : Text} {lexemes : List Lexeme} {marks : List Mark} {opened : List Margin}

theorem margins_scansRest (h : ScansRest row column rest state lexemes final) :
    final.margins = state.margins := by
  induction h with
  | lexeme _ _ _ _ _ _ _ ih => exact ih
  | _ => rfl

theorem margins_scansString {o : OpenString} (h : ScansString row o state line lexemes final) :
    final.margins = state.margins := by
  cases h with
  | closed _ hothers => exact (margins_scansRest hothers :)
  | _ => rfl

-- A row in which a line begins is indented as the grammar has it.
theorem exists_scanFirst (hrow : IsRow line) (hreturn : '\r' ∉ line)
    (hmargins : state.margins = opened.map Margin.column)
    (hrun : RowState.start.run? (line ++ behind) = some (marks, .start))
    (hlast : '\n' ∉ line → behind = ['\n']) (hlaid : LaidOut opened (Mark.rows marks)) :
    ∃ lexemes final opened', scanFirst row line state = .ok (lexemes, final) ∧
      final.margins = opened'.map Margin.column ∧ LaidOut opened' (Mark.rows marks).tail := by
  obtain ⟨gaps, body, rfl, hgaps, hbody, hcolumn⟩ := leadingColumn_cases 0 0 line
  unfold scanFirst
  simp only [hcolumn, List.drop_left]
  cases body with
  | nil =>
    rw [List.append_nil] at hrun hlast
    have hbehind := hlast fun hmem => by cases hgaps '\n' hmem
    rw [hbehind] at hrun
    rcases hlaid.begin hgaps rfl hrun with ⟨-, htail⟩ | ⟨hkind, -⟩
    · exact ⟨_, _, opened, rfl, hmargins, htail⟩
    · exact absurd rfl hkind.2
  | cons c t =>
    rw [List.append_assoc, List.cons_append] at hrun
    have hc : isGap c = false := hbody c rfl
    have hne : c ≠ '\r' := by
      rintro rfl
      exact hreturn (List.mem_append_right gaps List.mem_cons_self)
    rcases hlaid.begin hgaps hc hrun with ⟨hkind, htail⟩ | ⟨hkind, opened', hopens, htail⟩
    · have hidle : (c = '#' || c = '\r' || c = '\n') = true := by
        rcases hkind with rfl | rfl <;> rfl
      simp only [hidle, if_true]
      exact ⟨_, _, opened, rfl, hmargins, htail⟩
    · have hidle : (c = '#' || c = '\r' || c = '\n') = false := by simp [hkind.1, hkind.2, hne]
      obtain ⟨margin, hmargin⟩ := @indentation_of_opens opened opened' (marginOf gaps) row gaps.length
        (gaps ++ c :: t) hopens
      rw [← hmargins] at hmargin
      simp only [hidle, Bool.false_eq_true, if_false]
      rw [show (leadingBlanks ⟨0, 0⟩ gaps).1.column = (marginOf gaps).column from rfl, hmargin]
      simp only
      generalize hscan : scanRest row _ _ _ _ = scanned
      obtain ⟨others, final⟩ := scanned
      have hscans := scansRest_of_eq hrow.of_append (by simp) hscan
      exact ⟨_, final, opened', rfl, (margins_scansRest hscans :), htail⟩

theorem eq_start_of_agree (hagree : Agree s state) (hbegins : BeginsRow s)
    (hclosed : state.openString = none) (hdepth : state.depth = 0)
    (hcontinued : state.continued = false) : s = .start := by
  obtain ⟨mode, depth⟩ := s
  rcases hagree with ⟨hstring, hslash, -, -, hsame, hjoined⟩ | ⟨hopened, -⟩
  · rw [hdepth] at hsame
    rw [hcontinued] at hjoined
    obtain rfl : depth = 0 := by simpa using hsame
    cases mode with
    | code => rfl
    | joined => cases hjoined
    | backslash => exact absurd rfl hslash
    | comment => exact absurd rfl hbegins.1
    | emptied quote => exact absurd rfl (hbegins.2 quote)
    | _ => exact absurd trivial hstring
  · rw [hclosed] at hopened
    cases hopened

-- Where the reader may stop, so may the scanner.
theorem of_agree_settled (hagree : Agree fin state) (hsettled : fin.isSettled = true) :
    state.openString = none ∧ state.depth = 0 ∧ state.continued = false := by
  obtain ⟨mode, depth⟩ := fin
  obtain ⟨hdepth, hmode⟩ := Bool.and_eq_true_iff.mp hsettled
  obtain rfl : depth = 0 := by simpa using hdepth
  rcases hagree with ⟨-, -, hclosed, -, hsame, hcontinued⟩ | ⟨-, rfl, -⟩
  · refine ⟨hclosed, hsame.symm, ?_⟩
    rw [hcontinued, decide_eq_false_iff_not]
    rintro rfl
    cases hmode
  · cases hmode

theorem rowEnds_of_isSettled (hsettled : fin.isSettled = true) : RowEnds rest fin := by
  obtain ⟨mode, depth⟩ := fin
  cases mode <;> simp_all [RowEnds, RowState.isSettled, RowState.InString]

theorem exists_scanLine (row : Nat) (hagree : Agree s state) (hbegins : BeginsRow s)
    (hrow : IsRow line) (hreturn : '\r' ∉ line)
    (hmargins : state.margins = opened.map Margin.column)
    (hrun : s.run? (line ++ behind) = some (marks, .start))
    (hlast : '\n' ∉ line → behind = ['\n']) (hlaid : LaidOut opened (ahead s marks)) :
    ∃ lexemes final opened', scanLine row line state = .ok (lexemes, final) ∧
      final.margins = opened'.map Margin.column ∧ LaidOut opened' (Mark.rows marks).tail := by
  unfold scanLine
  by_cases hs : s = .start
  · subst hs
    rw [ahead, if_pos rfl] at hlaid
    obtain ⟨hclosed, hdepth, hcontinued⟩ := of_agree_settled hagree rfl
    simp only [hclosed, hdepth, hcontinued, decide_true, Bool.not_false, Bool.and_self, if_true]
    exact exists_scanFirst hrow hreturn hmargins hrun hlast hlaid
  · rw [ahead, if_neg hs] at hlaid
    cases hopened : state.openString with
    | some o =>
      generalize hscan : scanString row line o state = scanned
      obtain ⟨found, final⟩ := scanned
      have hkept := margins_scansString (scansString_of_eq hrow hscan)
      exact ⟨found, final, opened, by simp only [hscan], hkept.trans hmargins, hlaid⟩
    | none =>
      have hgoes : (decide (state.depth = 0) && !state.continued) = false := by
        rw [← Bool.not_eq_true, Bool.and_eq_true, Bool.not_eq_true', decide_eq_true_eq]
        exact fun hfirst => hs (eq_start_of_agree hagree hbegins hopened hfirst.1 hfirst.2)
      generalize hscan : scanRest row line.length 0 line { state with continued := false } = scanned
      obtain ⟨found, final⟩ := scanned
      have hkept : final.margins = state.margins :=
        (margins_scansRest (scansRest_of_eq hrow le_rfl hscan) :)
      rw [hopened] at hscan
      exact ⟨found, final, opened, by simp only [hgoes, hscan, Bool.false_eq_true, if_false],
        hkept.trans hmargins, hlaid⟩

-- The rows of accepted code are scanned to their end.
theorem exists_scanLines {rows : List Text} (hrows : Rows rows)
    (hreturn : ∀ line ∈ rows, '\r' ∉ line) (hagree : Agree s state) (hsound : s.IsSound)
    (hbegins : rows ≠ [] → BeginsRow s) (hmargins : state.margins = opened.map Margin.column)
    (hrun : s.run? (rows.flatten ++ ['\n']) = some (marks, .start))
    (hfin : Reaches s rows.flatten fin) (hsettled : fin.isSettled = true)
    (hlaid : rows ≠ [] → LaidOut opened (ahead s marks)) :
    ∃ lexemes final, scanLines row rows state = .ok (lexemes, final) ∧ Agree fin final := by
  induction rows generalizing row s state marks opened with
  | nil =>
    obtain rfl := reaches_nil.mp hfin
    exact ⟨[], state, rfl, hagree⟩
  | cons line rows ih =>
    obtain ⟨hrow, hmore, hrest⟩ := hrows
    rw [List.forall_mem_cons] at hreturn
    rw [List.flatten_cons, List.append_assoc] at hrun
    rw [List.flatten_cons, reaches_append] at hfin
    obtain ⟨next, hline, hbehind⟩ := hfin
    obtain ⟨marks₁, middle, marks₂, hfirst, hothers, rfl⟩ := RowState.run?_split hrun
    obtain rfl := hline.eq ⟨marks₁, hfirst⟩
    have hlast : '\n' ∉ line → rows = [] := fun hmem => by
      by_contra hne
      exact hmem (hmore hne)
    have hend : RowEnds line next := by
      by_cases hmem : '\n' ∈ line
      · exact .inl hmem
      · rw [hlast hmem, List.flatten_nil, reaches_nil] at hbehind
        exact hbehind ▸ rowEnds_of_isSettled hsettled
    obtain ⟨here, state', opened', hhere, hmargins', htail⟩ := exists_scanLine row hagree
      (hbegins (List.cons_ne_nil _ _)) hrow hreturn.1 hmargins hrun
      (fun hmem => by rw [hlast hmem]; rfl) (hlaid (List.cons_ne_nil _ _))
    obtain ⟨others, final, hscan, hdone⟩ := @ih _ _ (row + 1) _ _ hrest hreturn.2
      (agree_scansLine (scansLine_of_eq hrow hhere) hagree (hbegins (List.cons_ne_nil _ _)) hsound
        hrow hend hreturn.1 hline)
      (hline.isSound hsound) (fun hne => beginsRow_of_row hsound hrow (hmore hne) hline) hmargins'
      hothers hbehind (fun hne => tail_rows hsound hrow (hmore hne) hfirst marks₂ ▸ htail)
    unfold scanLines
    exact ⟨here ++ others, final, by simp only [hhere, hscan], hdone⟩

end

-- No logical line begins with a row that has blanks and a backslash alone.
def Headed (code : Text) : Prop :=
  ∀ lines, rows? (code ++ ['\n']) = some lines → ∀ rows ∈ lines, isHeaded rows = true

instance (code : Text) : Decidable (Headed code) :=
  decidable_of_iff ((rows? (code ++ ['\n'])).all (·.all isHeaded) = true) <| by
    cases h : rows? (code ++ ['\n']) <;> simp [Headed, h]

section

variable {code : Text} {lines : List Line} {blocks : List Block} {marks : List Mark}

-- Accepted code ends outside strings and brackets, and behind no backslash.
theorem exists_settled (h : moduleLines? code = some lines) (hreturn : '\r' ∉ code) :
    ∃ fin, Reaches .start code fin ∧ fin.isSettled = true := by
  rw [moduleLines?_eq, unifyBreaks_of_not_mem hreturn, Option.bind_eq_some_iff] at h
  obtain ⟨marks, hmarks, -⟩ := h
  by_cases hend : code.getLast? = some '\n'
  · rw [endLine, if_pos hend, RowState.marks?] at hmarks
    split at hmarks
    · cases hmarks
    · rename_i found last hrun
      split at hmarks
      · rename_i hsettled
        exact ⟨last, ⟨found, hrun⟩, hsettled⟩
      · cases hmarks
  · rw [endLine, if_neg hend] at hmarks
    obtain ⟨marks₁, last, marks₂, hrun, hbreak, -⟩ := RowState.marks?_split hmarks
    exact ⟨last, ⟨marks₁, hrun⟩, (RowState.isSettled_of_break
      (RowState.run?_isSound RowState.start_isSound hrun) (RowState.run?_mode_joined hrun hend)
      hbreak).1⟩

-- The scanner reads accepted code whose lines begin with text.
theorem exists_scan (h : moduleLines? code = some lines)
    (hblocks : Block.ofLines? lines = some blocks) (hreturn : '\r' ∉ code)
    (hheaded : Headed code) : ∃ lexemes, scan code = .ok lexemes := by
  obtain ⟨fin, hfin, hsettled⟩ := exists_settled h hreturn
  obtain ⟨marks, hrun, hlines⟩ := run?_of_moduleLines? h hreturn
  obtain ⟨found, hfound, rfl⟩ := Option.map_eq_some_iff.mp hlines
  obtain ⟨deep, last, hlayout, -⟩ := Block.ofLines?_iff.mp hblocks
  have hrows : rows? (code ++ ['\n']) = some (Mark.rows marks) := by
    simp only [rows?, RowState.marks?, hrun]
    rfl
  have hlaid : LaidOut [⟨0, 0⟩] (ahead .start marks) := by
    rw [ahead, if_pos rfl]
    exact ⟨hheaded _ hrows, found, deep, last, hfound, hlayout⟩
  obtain ⟨lexemes, final, hscan, hagree⟩ := @exists_scanLines .start fin .start 1 marks [⟨0, 0⟩]
    (Text.lines code) (rows_lines code) (fun _ hline => not_mem_of_mem_lines hreturn hline)
    agree_start RowState.start_isSound (fun _ => beginsRow_start) rfl (by rwa [lines_flatten])
    (by rwa [lines_flatten]) hsettled (fun _ => hlaid)
  obtain ⟨hclosed, hdepth, hcontinued⟩ := of_agree_settled hagree hsettled
  unfold scan
  simp only [hscan, hclosed, hdepth, hcontinued]
  exact ⟨_, rfl⟩

end

end Ghostwriter.Grammar

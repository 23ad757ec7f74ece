import Ghostwriter.Proofs.Grammar.Module
import Ghostwriter.Proofs.Grammar.Seam

/-!
Texts around a row: the rows before it, where a logical line begins with it, and what follows it.
-/

namespace Ghostwriter.Grammar

open Ghostwriter.Text Ghostwriter.Lexeme

theorem moduleLines?_eq (t : Text) :
    moduleLines? t = (RowState.start.marks? (endLine (unifyBreaks t))).bind Mark.lines? := by
  unfold moduleLines? lines? rows?
  cases RowState.start.marks? (endLine (unifyBreaks t)) <;> rfl

theorem rowTokens?_cons_gap {c : Char} (row : Text) (hc : isGap c = true) :
    rowTokens? (c :: row) = rowTokens? row := by
  unfold rowTokens?
  rw [dropRightWhile]
  cases dropRightWhile isGap row with
  | nil => simp [hc, tokensUpTo]
  | cons d kept => simp [tokensUpTo, hc]

theorem rowTokens?_gaps_append {blanks : Text} (row : Text)
    (h : ∀ c ∈ blanks, isGap c = true) : rowTokens? (blanks ++ row) = rowTokens? row := by
  induction blanks with
  | nil => rfl
  | cons c blanks ih =>
    rw [List.forall_mem_cons] at h
    rw [List.cons_append, rowTokens?_cons_gap _ h.1, ih h.2]

theorem leadingBlanks_gaps_append {blanks : Text} (margin : Margin) (row : Text)
    (h : ∀ c ∈ blanks, isGap c = true) :
    leadingBlanks margin (blanks ++ row) = leadingBlanks (leadingBlanks margin blanks).1 row := by
  induction blanks generalizing margin with
  | nil => rfl
  | cons c blanks ih =>
    rw [List.forall_mem_cons] at h
    have hc := h.1
    simp only [isGap, Bool.or_eq_true, decide_eq_true_eq] at hc
    rcases hc with (rfl | rfl) | rfl <;> exact ih _ h.2

-- The margin that blanks lead to.
def marginOf (blanks : Text) : Margin := (leadingBlanks ⟨0, 0⟩ blanks).1

namespace Mark

theorem rows_keep (t : Text) : rows (t.map .keep) = [[t]] := by
  have hkept : (t.map Mark.keep).filterMap kept? = t := by
    induction t with
    | nil => rfl
    | cons c t ih => simpa [kept?] using ih
  have hended : ∀ m ∈ t.map Mark.keep, decide (m = Mark.ended) = false := by simp
  have hcut : ∀ m ∈ t.map Mark.keep, decide (m = Mark.cut) = false := by simp
  obtain ⟨before, last, hnil, hlines⟩ := @splitWhere_append _ _ [] _ hended
  obtain ⟨before', last', hnil', hrows⟩ := @splitWhere_append _ _ [] _ hcut
  obtain ⟨rfl, rfl⟩ : before = [] ∧ last = [] := by
    cases before <;> simp_all [splitWhere]
  obtain ⟨rfl, rfl⟩ : before' = [] ∧ last' = [] := by
    cases before' <;> simp_all [splitWhere]
  rw [List.nil_append] at hlines hrows
  simp [rows, hlines, hrows, hkept]

-- The line with nothing but `pass` behind an indentation.
theorem lines?_pass {indent : Text} (h : ∀ c ∈ indent, isGap c = true) :
    lines? ((indent ++ "pass".toList).map .keep) = some [Block.passLine (marginOf indent)] := by
  have htokens : rowTokens? (indent ++ "pass".toList) = some [.keyword .pass_] := by
    rw [rowTokens?_gaps_append _ h]
    decide
  have hmargin : marginFrom ⟨0, 0⟩ 0 [indent ++ "pass".toList] = marginOf indent := by
    simp [marginFrom, leadingBlanks_gaps_append _ _ h, leadingBlanks, marginOf]
  have hline : line? [indent ++ "pass".toList] = some (Block.passLine (marginOf indent)) := by
    simp only [line?, List.mapM_cons, List.mapM_nil, htokens, hmargin]
    rfl
  rw [lines?, rows_keep, List.mapM_cons, hline]
  rfl

theorem lines?_ended_cons {marks : List Mark} : lines? (.ended :: marks) = lines? marks := by
  have happend (lines : List Line) := @lines?_append_ended [] marks lines
  simp only [lines?_nil, List.nil_append, Option.some.injEq, exists_and_left, exists_eq_left'] at happend
  ext lines
  simp [happend]

theorem lines?_append_end {marks : List Mark} : lines? (marks ++ [.ended]) = lines? marks := by
  ext lines
  simp [lines?_append_ended, lines?_nil]

end Mark

-- A text before which and behind which logical lines end: the reader is at the start of a row, and
-- of a line.
structure EndsLine (t : Text) (marks : List Mark) : Prop where
  read : RowState.start.run? t = some (marks, RowState.start)
  row : t = [] ∨ t.getLast? = some '\n'

section

variable {t u v : Text} {marks marks' behind : List Mark} {lines : List Line}

theorem EndsLine.eq_append (h : EndsLine u marks) (hne : u ≠ []) :
    ∃ marks', marks = marks' ++ [.ended] := by
  obtain ⟨before, rfl⟩ := List.getLast?_eq_some_iff.mp (h.row.resolve_left hne)
  obtain ⟨marks₁, middle, marks₂, hbefore, hbreak, rfl⟩ := RowState.run?_split h.read
  obtain ⟨mark, next, others, hstep, ⟨⟩, rfl⟩ := RowState.exists_of_run?_cons hbreak
  obtain rfl := RowState.step?_eq_start (RowState.run?_isSound RowState.start_isSound hbefore) hstep
  exact ⟨marks₁, rfl⟩

theorem EndsLine.lines?_append (h : EndsLine u marks) :
    Mark.lines? (marks ++ marks') = some lines ↔
      ∃ lines₁ lines₂, Mark.lines? marks = some lines₁ ∧ Mark.lines? marks' = some lines₂ ∧
        lines = lines₁ ++ lines₂ := by
  by_cases hne : u = []
  · subst hne
    obtain rfl : [] = marks := congrArg Prod.fst (Option.some.inj h.read)
    simp [Mark.lines?_nil]
  · obtain ⟨before, rfl⟩ := h.eq_append hne
    rw [Mark.lines?_append_end, List.append_assoc, List.singleton_append]
    exact Mark.lines?_append_ended

theorem EndsLine.marks?_append (h : EndsLine u marks) :
    RowState.start.marks? (u ++ v) = (RowState.start.marks? v).map (marks ++ ·) :=
  RowState.marks?_append h.read

theorem getLast?_append_cons {c : Char} : (u ++ c :: v).getLast? = (c :: v).getLast? := by
  rw [List.getLast?_append, List.getLast?_eq_some_getLast (List.cons_ne_nil c v), Option.some_or]

-- The lines of a text are those before a row that begins a line, and those from it on.
theorem EndsLine.moduleLines?_iff (h : EndsLine u marks) (ht : unifyBreaks t = u ++ v) :
    moduleLines? t = some lines ↔
      ∃ marks' lines₁ lines₂, RowState.start.marks? (endLine v) = some marks' ∧
        Mark.lines? marks = some lines₁ ∧ Mark.lines? marks' = some lines₂ ∧
        lines = lines₁ ++ lines₂ := by
  have hread : (RowState.start.marks? (endLine (u ++ v))).bind Mark.lines? = some lines ↔
      (RowState.start.marks? (u ++ endLine v)).bind Mark.lines? = some lines := by
    cases v with
    | cons c v =>
      have hend : endLine (u ++ c :: v) = u ++ endLine (c :: v) := by
        unfold endLine
        rw [getLast?_append_cons]
        split <;> simp
      rw [hend]
    | nil =>
      rw [List.append_nil]
      by_cases hne : u = []
      · subst hne
        rfl
      · have hend : endLine u = u := by simp [endLine, h.row.resolve_left hne]
        have hmarks : RowState.start.marks? (u ++ endLine []) = some (marks ++ [.ended]) := by
          rw [h.marks?_append]
          rfl
        have hu : RowState.start.marks? u = some marks := by
          have happend := h.marks?_append (v := [])
          rw [List.append_nil] at happend
          simpa [RowState.marks?_start_nil] using happend
        rw [hend, hmarks, hu, Option.bind_some, Option.bind_some, Mark.lines?_append_end]
  rw [moduleLines?_eq, ht, hread, h.marks?_append]
  simp only [Option.bind_eq_some_iff, Option.map_eq_some_iff]
  constructor
  · rintro ⟨_, ⟨marks', hmarks', rfl⟩, hlines⟩
    obtain ⟨lines₁, lines₂, h₁, h₂, rfl⟩ := h.lines?_append.mp hlines
    exact ⟨marks', lines₁, lines₂, hmarks', h₁, h₂, rfl⟩
  · rintro ⟨marks', lines₁, lines₂, hmarks', h₁, h₂, rfl⟩
    exact ⟨marks ++ marks', ⟨marks', hmarks', rfl⟩,
      h.lines?_append.mpr ⟨lines₁, lines₂, h₁, h₂, rfl⟩⟩

-- The lines of the text before the row alone.
theorem EndsLine.moduleLines?_self (h : EndsLine u marks) (ht : unifyBreaks t = u) :
    moduleLines? t = Mark.lines? marks := by
  ext lines
  rw [h.moduleLines?_iff (v := []) (by simpa using ht)]
  have hbreak : RowState.start.marks? (endLine []) = some [.ended] := rfl
  simp [hbreak, Mark.lines?_ended_cons, Mark.lines?_nil]

-- A text that begins with the end of a logical line, and what follows that line.
structure BeginsBlank (w : Text) (behind : List Mark) : Prop where
  read : ∃ blanks, (∀ m ∈ blanks, m.isBlank = true) ∧
    RowState.start.marks? (endLine w) = some (blanks ++ .ended :: behind)

theorem endLine_append {x w : Text} (hx : x.getLast? ≠ some '\n') :
    endLine (x ++ w) = x ++ endLine w := by
  cases w with
  | nil => simp [endLine, hx]
  | cons c w =>
    unfold endLine
    rw [getLast?_append_cons]
    split <;> simp

-- What comes from a text that may end anywhere, and from a blank end of a line behind it.
theorem lines?_behind {x w : Text} {last : RowState} (hx : RowState.start.run? x = some (marks, last))
    (hsettled : last.isSettled = true) (hw : BeginsBlank w behind)
    (hbreak : x.getLast? ≠ some '\n') :
    ∃ marks', RowState.start.marks? (endLine (x ++ w)) = some marks' ∧
      (Mark.lines? marks' = some lines ↔ ∃ lines₁ lines₂, Mark.lines? marks = some lines₁ ∧
        Mark.lines? behind = some lines₂ ∧ lines = lines₁ ++ lines₂) := by
  obtain ⟨blanks, hblank, hread⟩ := hw.read
  obtain ⟨blanks', between, hblank', hmarks, hbetween⟩ := RowState.marks?_of_settled
    (RowState.run?_isSound RowState.start_isSound hx) hsettled hblank hread
  have hend : endLine (x ++ w) = x ++ endLine w := endLine_append hbreak
  refine ⟨marks ++ (blanks' ++ .ended :: (between ++ behind)), ?_, ?_⟩
  · rw [hend, RowState.marks?_append hx, hmarks]
    rfl
  · have hbehind : Mark.lines? (between ++ behind) = Mark.lines? behind := by
      rcases hbetween with rfl | ⟨blanks₂, hblank₂, rfl⟩
      · rfl
      · ext found
        have hnone : Mark.lines? blanks₂ = some [] := by
          have := @Mark.lines?_append_blank [] _ hblank₂
          rwa [List.nil_append, Mark.lines?_nil] at this
        rw [List.append_assoc, List.singleton_append, Mark.lines?_append_ended, hnone]
        simp
    rw [← List.append_assoc, Mark.lines?_append_ended, Mark.lines?_append_blank hblank', hbehind]

end

section

variable {indent t t' u w : Text} {marks behind : List Mark} {lines : List Line}

-- The lines of a text in which a row is nothing but `pass`.
theorem moduleLines?_pass (hu : EndsLine u marks) (hw : BeginsBlank w behind)
    (hindent : ∀ c ∈ indent, isGap c = true)
    (ht : unifyBreaks t = u ++ (indent ++ ("pass".toList ++ w)))
    (hlines : moduleLines? t = some lines) :
    ∃ lines₁ lines₂, Mark.lines? marks = some lines₁ ∧ Mark.lines? behind = some lines₂ ∧
      lines = lines₁ ++ Block.passLine (marginOf indent) :: lines₂ := by
  have hrun : RowState.start.run? (indent ++ "pass".toList) =
      some ((indent ++ "pass".toList).map .keep, RowState.start) := by
    rw [List.map_append]
    exact RowState.run?_append (RowState.run?_gaps hindent) rfl
  obtain ⟨marks', lines₁, lines₂, hmarks', h₁, h₂, rfl⟩ := (hu.moduleLines?_iff ht).mp hlines
  obtain ⟨marks'', hmarks'', hiff⟩ := @lines?_behind _ _ lines₂ _ _ _ hrun rfl hw
    (by rw [show "pass".toList = 'p' :: "ass".toList from rfl, getLast?_append_cons]; decide)
  rw [List.append_assoc, hmarks'] at hmarks''
  cases hmarks''
  obtain ⟨linesPass, linesBehind, hpass, hbehind, rfl⟩ := hiff.mp h₂
  rw [Mark.lines?_pass hindent] at hpass
  cases hpass
  exact ⟨lines₁, linesBehind, h₁, hbehind, rfl⟩

-- The lines of the same text with other lines for that row.
theorem moduleLines?_snippet {body : Text} {marksBody : List Mark} {last : RowState}
    {lines₁ lines₂ linesBody : List Line} (hu : EndsLine u marks) (hw : BeginsBlank w behind)
    (ht : unifyBreaks t = u ++ (body ++ w))
    (hbody : RowState.start.run? body = some (marksBody, last)) (hsettled : last.isSettled = true)
    (hbreak : body.getLast? ≠ some '\n') (h₁ : Mark.lines? marks = some lines₁)
    (hlines : Mark.lines? marksBody = some linesBody) (h₂ : Mark.lines? behind = some lines₂) :
    moduleLines? t = some (lines₁ ++ (linesBody ++ lines₂)) := by
  obtain ⟨marks', hmarks', hiff⟩ := @lines?_behind _ _ (linesBody ++ lines₂) _ _ _ hbody hsettled
    hw hbreak
  exact (hu.moduleLines?_iff ht).mpr ⟨marks', lines₁, linesBody ++ lines₂, hmarks', h₁,
    hiff.mpr ⟨linesBody, lines₂, hlines, h₂, rfl⟩, rfl⟩

theorem statements?_iff {kinds : List StatementKind} :
    statements? t = some kinds ↔ ∃ lines blocks, moduleLines? t = some lines ∧
      Block.ofLines? lines = some blocks ∧ kinds? blocks = some kinds := by
  unfold statements? Block.ofText?
  simp only [Option.bind_eq_some_iff]
  constructor
  · rintro ⟨blocks, ⟨lines, hlines, hblocks⟩, hkinds⟩
    exact ⟨lines, blocks, hlines, hblocks, hkinds⟩
  · rintro ⟨lines, blocks, hlines, hblocks, hkinds⟩
    exact ⟨blocks, ⟨lines, hlines, hblocks⟩, hkinds⟩

-- A text that comes to its lines, wherever it stands.
structure Reads (body : Text) (lines : List Line) : Prop where
  read : ∃ marks last, RowState.start.run? body = some (marks, last) ∧ last.isSettled = true ∧
    Mark.lines? marks = some lines
  row : body.getLast? ≠ some '\n'

theorem reads_of_moduleLines? {body : Text} (hunified : unifyBreaks body = body)
    (hbreak : body.getLast? ≠ some '\n') (h : moduleLines? body = some lines) :
    Reads body lines := by
  rw [moduleLines?_eq, hunified, endLine, if_neg hbreak, Option.bind_eq_some_iff] at h
  obtain ⟨marks, hmarks, hlines⟩ := h
  obtain ⟨marks₁, last, marks₂, hrun, hend, rfl⟩ := RowState.marks?_split hmarks
  obtain ⟨hsettled, rfl⟩ := RowState.isSettled_of_break
    (RowState.run?_isSound RowState.start_isSound hrun) (RowState.run?_mode_joined hrun hbreak) hend
  rw [Mark.lines?_append_end] at hlines
  exact ⟨⟨marks₁, last, hrun, hsettled, hlines⟩, hbreak⟩

-- Code for a `pass` on the outermost level.
theorem statements?_replace_top {before body : Text} {linesBody : List Line}
    {kinds kindsBody : List StatementKind} (hu : EndsLine u marks)
    (hbefore : unifyBreaks before = u) (hw : BeginsBlank w behind)
    (ht : unifyBreaks t = u ++ ("pass".toList ++ w)) (ht' : unifyBreaks t' = u ++ (body ++ w))
    (hbody : Reads body linesBody) {blocks : List Block}
    (hblocks : Block.ofLines? linesBody = some blocks) (hkindsBody : kinds? blocks = some kindsBody)
    (h : statements? t = some kinds) :
    ∃ kinds₁ kinds₂, statements? before = some kinds₁ ∧ kinds = kinds₁ ++ .pass :: kinds₂ ∧
      statements? t' = some (kinds₁ ++ (kindsBody ++ kinds₂)) := by
  obtain ⟨lines, blocksP, hlines, hblocksP, hkinds⟩ := statements?_iff.mp h
  obtain ⟨lines₁, lines₂, h₁, h₂, rfl⟩ :=
    @moduleLines?_pass [] _ _ _ _ _ _ hu hw (by simp) ht hlines
  obtain ⟨marksBody, last, hrun, hsettled, hlinesBody⟩ := hbody.read
  have hlines' := moduleLines?_snippet hu hw ht' hrun hsettled hbody.row h₁ hlinesBody h₂
  obtain ⟨blocks₁, blocks₂, hblocks₁, rfl, hreplaced⟩ :=
    Block.ofLines?_replace_top hblocksP (Option.isSome_of_eq_some hkinds) hblocks
  obtain ⟨kinds₁, kinds₂, hkinds₁, rfl, hkinds'⟩ := kinds?_replace_here hkindsBody hkinds
  exact ⟨kinds₁, kinds₂,
    statements?_iff.mpr ⟨lines₁, blocks₁, (hu.moduleLines?_self hbefore).trans h₁, hblocks₁, hkinds₁⟩,
    rfl, statements?_iff.mpr ⟨_, _, hlines', hreplaced, hkinds'⟩⟩

-- Code for a `pass` in a block, with the margins that its lines get there.
theorem statements?_replace_nested {body : Text} {code : List (Line × Margin)}
    {codeBlocks : List Block} {kinds : List StatementKind} (hu : EndsLine u marks)
    (hw : BeginsBlank w behind) (hindent : ∀ c ∈ indent, isGap c = true)
    (ht : unifyBreaks t = u ++ (indent ++ ("pass".toList ++ w)))
    (ht' : unifyBreaks t' = u ++ (body ++ w)) (hbody : Reads body (code.map Block.moved))
    (hm : marginOf indent ≠ ⟨0, 0⟩) (hcode : Block.ofLines? (code.map Prod.fst) = some codeBlocks)
    (hcodeKinds : (kinds? codeBlocks).isSome) (hne : codeBlocks ≠ [])
    (horder : Block.SameOrder ((⟨0, 0⟩, marginOf indent) :: code.map fun l => (l.1.margin, l.2)))
    (hroom : ∀ lines deep opened outer deepCode last, Mark.lines? marks = some lines →
      Block.Layout [⟨0, 0⟩] lines deep opened →
      Block.Opens opened (marginOf indent) (marginOf indent :: outer) →
      Block.Layout [⟨0, 0⟩] (code.map Prod.fst) deepCode last →
      ∀ l ∈ deepCode, l.1 + 1 + outer.length ≤ Block.maxMargins)
    (h : statements? t = some kinds) : statements? t' = some kinds := by
  obtain ⟨lines, blocks, hlines, hblocks, hkinds⟩ := statements?_iff.mp h
  obtain ⟨lines₁, lines₂, h₁, h₂, rfl⟩ := moduleLines?_pass hu hw hindent ht hlines
  obtain ⟨marksBody, last, hrun, hsettled, hlinesBody⟩ := hbody.read
  have hlines' := moduleLines?_snippet hu hw ht' hrun hsettled hbody.row h₁ hlinesBody h₂
  obtain ⟨blocks', hblocks', hkinds'⟩ := Block.kinds?_replace_nested hblocks hkinds hm hcode
    hcodeKinds hne horder fun deep opened outer deepCode last => hroom lines₁ deep opened outer
      deepCode last h₁
  exact statements?_iff.mpr ⟨_, _, hlines', hblocks', hkinds'⟩

end

end Ghostwriter.Grammar

import Ghostwriter.Proofs.Grammar.Aligned
import Ghostwriter.Proofs.Snippet.Accepted
import Ghostwriter.Proofs.Splice.Simultaneous

/-!
Code in a block: a snippet that is reindented behind an indent belongs to the block as a whole.
-/

namespace Ghostwriter.Splice

open Ghostwriter.Grammar Ghostwriter.Lexeme Ghostwriter.Text

section

variable {a b code indent : Text} {lexemes : List Lexeme}

theorem pieces_eq_takeWhile (t : Text) :
    ∃ others, pieces t = t.takeWhile (· ≠ '\n') :: others ∧ others.length = t.count '\n' := by
  induction t with
  | nil => exact ⟨[], rfl, rfl⟩
  | cons c t ih =>
    obtain ⟨others, hpieces, hlength⟩ := ih
    by_cases hc : c = '\n'
    · refine ⟨pieces t, ?_, ?_⟩
      · rw [hc]
        exact pieces_append_break [] t
      · rw [hpieces, hc, List.count_cons_self, List.length_cons, hlength]
    · refine ⟨others, ?_, by rw [List.count_cons_of_ne hc, hlength]⟩
      rw [pieces_cons hc hpieces, List.takeWhile_cons_of_pos (by simpa using hc)]

theorem takeWhile_concat (t : Text) :
    (t.concat '\n').takeWhile (· ≠ '\n') = t.takeWhile (· ≠ '\n') := by
  induction t with
  | nil => rfl
  | cons c t ih =>
    rw [List.concat_cons, List.takeWhile_cons, List.takeWhile_cons, ih]

-- The row behind a line feed.
theorem getD_pieces (a b : Text) :
    (pieces (a ++ '\n' :: b)).getD (a.count '\n' + 1) [] = b.takeWhile (· ≠ '\n') := by
  obtain ⟨others, hpieces, hlength⟩ := pieces_eq_takeWhile a
  obtain ⟨others', hpieces', -⟩ := pieces_eq_takeWhile b
  rw [pieces_append_break, hpieces, hpieces', List.getD_eq_getElem?_getD, List.cons_append,
    List.getElem?_cons_succ, List.getElem?_append_right (by omega), hlength, Nat.sub_self]
  rfl

theorem getD_pieces_last (a : Text) : (pieces a).getD (a.count '\n' + 1) [] = [] := by
  obtain ⟨others, hpieces, hlength⟩ := pieces_eq_takeWhile a
  rw [hpieces, List.getD_cons_succ, List.getD_eq_getElem?_getD,
    List.getElem?_eq_none (by omega)]
  rfl

-- Reindenting moves the rows that begin outside strings and are not blank.
theorem movesRows_moves (h : scan code = .ok lexemes) (hreturn : '\r' ∉ code)
    (hread : Reaches .start (code ++ ['\n']) .start) :
    MovesRows (moves lexemes (pieces code)) .start 1 (code ++ ['\n']) := by
  intro a b next htext hreaches
  have hmoves : moves lexemes (pieces code) (1 + a.count '\n' + 1) =
      !(isProtected lexemes (a.count '\n' + 2) ||
        isBlankLine ((pieces code).getD (a.count '\n' + 1) [])) := by
    rw [moves, show 1 + a.count '\n' + 1 = a.count '\n' + 2 by omega]
    simp
  rw [hmoves]
  rcases List.eq_nil_or_concat b with rfl | ⟨b, c, rfl⟩
  · obtain ⟨rfl, -⟩ := List.append_inj' htext rfl
    rw [getD_pieces_last]
    simp [isBlankLine]
  · rw [List.concat_eq_append, ← List.cons_append, ← List.append_assoc] at htext
    obtain ⟨hcode, hc⟩ := List.append_inj' htext rfl
    cases hc
    rw [takeWhile_concat, hcode, getD_pieces]
    by_cases hb : b = []
    · rw [hb]
      simp [isBlankLine]
    · have hprotected := isProtected_iff_inString h hreturn hread hcode hb hreaches
      rw [← hprotected]
      cases isProtected lexemes (a.count '\n' + 2) <;> simp

end

-- There may be a further block around the blocks of the code.
def HasRoom (code : Text) : Prop :=
  ∀ lines, moduleLines? code = some lines → ∀ deep, Block.depths? [⟨0, 0⟩] lines = some deep →
    ∀ l ∈ deep, l.1 + 2 ≤ Block.maxMargins

instance (code : Text) : Decidable (HasRoom code) :=
  decidable_of_iff (((moduleLines? code).bind (Block.depths? [⟨0, 0⟩])).all
      (·.all fun l => l.1 + 2 ≤ Block.maxMargins) = true) <| by
    cases h : moduleLines? code with
    | none => simp [HasRoom, h]
    | some lines => cases hdeep : Block.depths? [⟨0, 0⟩] lines <;> simp [HasRoom, h, hdeep]

-- The code fits into a block with that indent: behind it the margins keep their order.
structure FitsBehind (indent code : Text) : Prop where
  ordered : ∀ lines, linesBehind? indent code = some lines →
    Block.SameOrder ((⟨0, 0⟩, marginOf indent) :: lines.map fun l => (l.1.margin, l.2))
  room : HasRoom code

-- The line before a block.
def header : Text := "if 1:\n".toList

def headerLine : Line := ⟨⟨0, 0⟩, [.keyword .if_, .number (.int 1), .symbol .colon]⟩

section

variable {code indent : Text} {m : Margin}

theorem endsLine_header :
    ∃ marks, EndsLine header marks ∧ Mark.lines? marks = some [headerLine] := by
  refine ⟨"if 1:".toList.map .keep ++ [.ended], ⟨by decide, .inr rfl⟩, ?_⟩
  decide +kernel

theorem below_leadingBlanks (margin : Margin) (hne : indent ≠ [])
    (hblank : ∀ c ∈ indent, c = ' ' ∨ c = '\t') : margin.Below (leadingBlanks margin indent).1 := by
  induction indent generalizing margin with
  | nil => exact absurd rfl hne
  | cons c indent ih =>
    rw [List.forall_mem_cons] at hblank
    obtain ⟨next, hbelow, hnext⟩ : ∃ next, margin.Below next ∧
        leadingBlanks margin (c :: indent) = leadingBlanks next indent := by
      rcases hblank.1 with rfl | rfl
      · exact ⟨⟨margin.column + 1, margin.narrow + 1⟩, ⟨by simp, by simp⟩, rfl⟩
      · exact ⟨⟨(margin.column / 8 + 1) * 8, margin.narrow + 1⟩, ⟨by simp; omega, by simp⟩, rfl⟩
    rw [hnext]
    by_cases hindent : indent = []
    · rw [hindent]
      exact hbelow
    · have hbehind := ih next hindent hblank.2
      exact ⟨hbelow.1.trans hbehind.1, hbelow.2.trans hbehind.2⟩

theorem opens_headerLine {opened outer : List Margin} {deep : List (Nat × List Token)}
    (hlayout : Block.Layout [⟨0, 0⟩] [headerLine] deep opened)
    (hopens : Block.Opens opened m (m :: outer)) (hm : Margin.Below ⟨0, 0⟩ m) :
    outer = [⟨0, 0⟩] := by
  have hstart (margins : List Margin) (n : Margin) : Block.openAt? [⟨0, 0⟩] n = some margins ↔
      Block.Opens [⟨0, 0⟩] n margins := Block.openAt?_iff Block.stacked_start
  cases hlayout with
  | cons hheader hbehind =>
    cases hbehind
    rw [← hstart] at hheader
    cases hheader
    rw [← hstart] at hopens
    have hcolumn : m.column ≠ 0 := Nat.ne_of_gt hm.1
    have hnarrow : m.narrow ≠ 0 := Nat.ne_of_gt hm.2
    have hopen : Block.openAt? [⟨0, 0⟩] m = some [m, ⟨0, 0⟩] := by
      simp [Block.openAt?, hcolumn, hnarrow, hm.1, Block.maxMargins]
    rw [hopen] at hopens
    exact (List.cons.inj (Option.some.inj hopens)).2.symm

-- A `pass` in the block.
theorem kinds_headerLine (hm : Margin.Below ⟨0, 0⟩ m) :
    ∃ blocks, Block.ofLines? ([headerLine] ++ Block.passLine m :: []) = some blocks ∧
      kinds? blocks = some [.ifElse] := by
  have hheader : Block.Opens [⟨0, 0⟩] headerLine.margin [⟨0, 0⟩] :=
    @Block.Opens.back [] [] ⟨0, 0⟩ (by simp)
  have hpass : Block.Opens [⟨0, 0⟩] (Block.passLine m).margin [m, ⟨0, 0⟩] :=
    .deeper hm (by decide)
  have hlayout : Block.Layout [⟨0, 0⟩] [headerLine, Block.passLine m]
      [(0, headerLine.tokens), (1, [.keyword .pass_])] [m, ⟨0, 0⟩] :=
    .cons hheader (.cons hpass .nil)
  exact ⟨_, Block.ofLines?_iff.mpr ⟨_, _, hlayout, by decide, rfl⟩, by decide +kernel⟩

theorem mem_indentFrom {moved : Nat → Bool} {row : Nat} {c : Char} {t : Text}
    (h : c ∈ indentFrom moved indent row t) : c ∈ t ∨ c ∈ indent := by
  induction t generalizing row with
  | nil => cases h
  | cons d t ih =>
    rw [indentFrom] at h
    split_ifs at h <;> grind

theorem not_mem_inBlock {c : Char} {moved : Nat → Bool} (htext : c ∉ code) (hindent : c ∉ indent)
    (hheader : c ∉ header ++ ['\n']) :
    c ∉ header ++ (indent ++ (indentFrom moved indent 1 code ++ ['\n'])) := by
  simp only [List.mem_append, not_or] at hheader ⊢
  exact ⟨hheader.1, hindent, fun hmem => (mem_indentFrom hmem).elim htext hindent, hheader.2⟩

-- Code that fits is the body of its block.
theorem statements?_inBlock {lexemes : List Lexeme} {kinds : List StatementKind}
    (hscan : scan code = .ok lexemes) (hreturn : '\r' ∉ code)
    (hkinds : statements? code = some kinds) (hsome : kinds ≠ []) (hne : indent ≠ [])
    (hblank : ∀ c ∈ indent, c = ' ' ∨ c = '\t') (hfits : FitsBehind indent code) :
    statements? (header ++ (indent ++
      (indentFrom (moves lexemes (pieces code)) indent 1 code ++ ['\n']))) = some [.ifElse] := by
  obtain ⟨lines, blocks, hlines, hblocks, hblockKinds⟩ := statements?_iff.mp hkinds
  obtain ⟨marks, hrun, hmarks⟩ := run?_of_moduleLines? hlines hreturn
  obtain ⟨found, hfound, hfoundMarks, rfl⟩ := exists_linesBehind? indent hrun hmarks
  have hgap : ∀ c ∈ indent, isGap c = true := by
    intro c hc
    rcases hblank c hc with rfl | rfl <;> rfl
  obtain ⟨marks', hread, hmoved⟩ := lines?_indentFrom hgap hrun
    (movesRows_moves hscan hreturn ⟨marks, hrun⟩) hfoundMarks
  have hm : Margin.Below ⟨0, 0⟩ (marginOf indent) := below_leadingBlanks _ hne hblank
  have hzero : marginOf indent ≠ ⟨0, 0⟩ := fun heq => by
    rw [heq] at hm
    exact absurd hm.1 (Nat.lt_irrefl 0)
  have hblocksNe : blocks ≠ [] := by
    rintro rfl
    cases hblockKinds
    exact hsome rfl
  -- The code stands where a `pass` would be the body.
  obtain ⟨blocksPass, hpass, hpassKinds⟩ := kinds_headerLine hm
  obtain ⟨blocks', hblocks', hkinds'⟩ := Block.kinds?_replace_nested hpass hpassKinds hzero hblocks
    (Option.isSome_of_eq_some hblockKinds) hblocksNe (hfits.ordered _ hfound)
    fun deep opened outer deepCode last hbefore hopens hcode l hl => by
      rw [opens_headerLine hbefore hopens hm]
      exact hfits.room _ hlines deepCode
        ((Block.depths?_iff Block.stacked_start).mpr ⟨last, hcode⟩) l hl
  have hreturn' := @not_mem_inBlock code indent '\r' (moves lexemes (pieces code)) hreturn
    (fun hc => by simpa using hblank _ hc) (by decide)
  obtain ⟨marksHeader, hends, hheaderLines⟩ := endsLine_header
  refine statements?_iff.mpr
    ⟨[headerLine] ++ (found.map Block.moved ++ []), _, ?_, hblocks', hkinds'⟩
  rw [hends.moduleLines?_iff (unifyBreaks_of_not_mem hreturn')]
  exact ⟨marks', _, _, hread, hheaderLines, hmoved, by simp⟩

-- Code whose blanks are spaces fits behind every indent, and code with tabs behind an indent that
-- ends at a tab stop.
theorem fitsBehind_of_aligned (hindent : ∀ c ∈ indent, isGap c = true) (hheaded : Headed code)
    (hfeed : '\x0c' ∉ code) (htabs : '\t' ∉ code ∨ 8 ∣ (marginOf indent).column)
    (hroom : HasRoom code) : FitsBehind indent code :=
  ⟨fun _ h => sameOrder_linesBehind? hindent hheaded hfeed htabs h, hroom⟩

theorem exists_scan_of_reindent {out : Text} (hne : indent ≠ [])
    (h : reindent code indent = .ok out) : ∃ lexemes, scan code = .ok lexemes := by
  rw [reindent, if_neg (by simpa using hne)] at h
  split at h
  · cases h
  · rename_i lexemes hscan
    exact ⟨lexemes, hscan⟩

end

-- Reindented code stays in its block. Only code with a line that begins with a bare backslash may
-- fail to be reindented.
theorem reindent_in_block {snippet : Snippet} {indent : Text} (h : snippet.Accepted)
    (hitems : snippet.items ≠ []) (hne : indent ≠ []) (hblank : ∀ c ∈ indent, c = ' ' ∨ c = '\t') :
    (Headed snippet.text → ∃ out, reindent snippet.text indent = .ok out) ∧
      ∀ out, reindent snippet.text indent = .ok out → FitsBehind indent snippet.text →
        Snippet.ofResponse false (header ++ (indent ++ (out ++ ['\n']))) =
          .ok ⟨header ++ (indent ++ (out ++ ['\n'])), [.ifElse]⟩ := by
  have hreturn : '\r' ∉ snippet.text := h.return_not_mem
  obtain ⟨hnull, hkinds⟩ := Snippet.check_eq_ok.mp h.check_eq
  constructor
  · intro hheaded
    obtain ⟨lines, blocks, hlines, hblocks, -⟩ := statements?_iff.mp hkinds
    obtain ⟨lexemes, hscan⟩ := exists_scan hlines hblocks hreturn hheaded
    exact ⟨_, reindent_eq hscan⟩
  · intro out hout hfits
    obtain ⟨lexemes, hscan⟩ := exists_scan_of_reindent hne hout
    rw [reindent_eq hscan] at hout
    cases hout
    have hreturn' := @not_mem_inBlock snippet.text indent '\r' (moves lexemes (pieces snippet.text))
      hreturn (fun hc => by simpa using hblank _ hc) (by decide)
    have hnull' := @not_mem_inBlock snippet.text indent '\x00' (moves lexemes (pieces snippet.text))
      hnull (fun hc => by simpa using hblank _ hc) (by decide)
    exact Snippet.ofResponse_eq_ok.mpr ⟨(unifyBreaks_of_not_mem hreturn').symm,
      Snippet.check_eq_ok.mpr
        ⟨hnull', statements?_inBlock hscan hreturn hkinds hitems hne hblank hfits⟩⟩

def layered : Snippet :=
  ⟨"if b:\n    x = [1,\n2]\n\ny = '''c\nd'''\n".toList, [.ifElse, .assign]⟩

def layeredBehindTab : Text := "if b:\n\t    x = [1,\n\t2]\n\n\ty = '''c\nd'''\n".toList

-- A row in brackets moves, and a row of the string stays.
theorem layered_in_block : reindent layered.text ['\t'] = .ok layeredBehindTab ∧
    Snippet.ofResponse false (header ++ (['\t'] ++ (layeredBehindTab ++ ['\n']))) =
      .ok ⟨header ++ (['\t'] ++ (layeredBehindTab ++ ['\n'])), [.ifElse]⟩ := by
  have haccepted : layered.Accepted := ⟨false, layered.text, ok_of_toOption (by decide +kernel)⟩
  have hout : reindent layered.text ['\t'] = .ok layeredBehindTab :=
    ok_of_toOption (by decide +kernel)
  have hheaded : Headed layered.text := by decide +kernel
  have hfits : FitsBehind ['\t'] layered.text :=
    fitsBehind_of_aligned (by simp [isGap]) hheaded (by decide) (.inl (by decide)) (by decide +kernel)
  obtain ⟨hreads, hstays⟩ := reindent_in_block haccepted (by decide) (by decide : ['\t'] ≠ [])
    (by simp)
  obtain ⟨out, hfound⟩ := hreads hheaded
  obtain rfl : out = layeredBehindTab := Except.ok.inj (hfound.symm.trans hout)
  exact ⟨hout, hstays _ hout hfits⟩

-- A module whose second row begins with a form feed.
def feedCode : Snippet := ⟨"x = 1\n\x0cy = 2\n".toList, [.assign, .assign]⟩

def feedBehindBlanks : Text := "x = 1\n    \x0cy = 2\n".toList

-- The code cannot be reindented, or its second row leaves the block.
theorem not_reindent_in_block :
    (unevenCode.Accepted ∧ ¬ ∃ out, reindent unevenCode.text "    ".toList = .ok out) ∧
      feedCode.Accepted ∧ reindent feedCode.text "    ".toList = .ok feedBehindBlanks ∧
      Snippet.ofResponse false (header ++ ("    ".toList ++ (feedBehindBlanks ++ ['\n']))) =
        .ok ⟨header ++ ("    ".toList ++ (feedBehindBlanks ++ ['\n'])), [.ifElse, .assign]⟩ := by
  refine ⟨⟨⟨false, unevenCode.text, ok_of_toOption (by decide +kernel)⟩, ?_⟩,
    ⟨false, feedCode.text, ok_of_toOption (by decide +kernel)⟩,
    ok_of_toOption (by decide +kernel), ok_of_toOption (by decide +kernel)⟩
  rintro ⟨out, hout⟩
  have hnone : (reindent unevenCode.text "    ".toList).toOption = none := by decide +kernel
  rw [hout] at hnone
  cases hnone

end Ghostwriter.Splice

import Ghostwriter.Proofs.Grammar.Plain
import Ghostwriter.Proofs.Grammar.Spelled

/-!
A literal in parentheses of its own. What is read of the lexemes with blanks between them is also
read, within the parentheses, of any text that is written with them.
-/

namespace Ghostwriter.Grammar

open Ghostwriter.Lexeme Ghostwriter.Text

section

variable {l : Lexeme} {lexemes : List Lexeme} {c : Char} {t : Text} {tokens : List Token}

theorem unifyBreaks_spaced (hstands : ∀ l ∈ lexemes, ∃ rest, Stands rest l.kind l.text) :
    unifyBreaks (spaced lexemes) = spaced (lexemes.map unified) := by
  induction lexemes with
  | nil => rfl
  | cons l lexemes ih =>
    rw [List.forall_mem_cons] at hstands
    obtain ⟨⟨rest, hl⟩, hlexemes⟩ := hstands
    rw [spaced_cons, unifyBreaks_cons _ (by decide), unifyBreaks_append hl.getLast_ne_return,
      ih hlexemes]
    rfl

theorem unifyBreaks_literalSource (hstands : ∀ l ∈ lexemes, ∃ rest, Stands rest l.kind l.text) :
    unifyBreaks (Directive.literalSource lexemes) =
      Directive.literalSource (lexemes.map unified) := by
  cases lexemes with
  | nil => rfl
  | cons l lexemes =>
    rw [List.forall_mem_cons] at hstands
    obtain ⟨⟨rest, hl⟩, hlexemes⟩ := hstands
    rw [literalSource_cons, List.map_cons, literalSource_cons,
      unifyBreaks_append hl.getLast_ne_return, unifyBreaks_spaced hlexemes]
    rfl

-- Which line ends a text has does not matter.
theorem aloneTokens?_unifyBreaks (hgap : isGap c = false) (hnul : '\x00' ∉ c :: t) :
    aloneTokens? (unifyBreaks (c :: t)) = aloneTokens? (c :: t) := by
  have hnul' : '\x00' ∉ unifyBreaks (c :: t) := by
    rwa [mem_unifyBreaks (by decide) (by decide)]
  have hblanks {d : Char} {u : Text} (hd : isGap d = false) :
      (d :: u).dropWhile (fun c => c = ' ' || c = '\t') = d :: u := by
    simp only [isGap, Bool.or_eq_false_iff] at hd
    rw [List.dropWhile_cons, hd.1.1, hd.1.2]
    rfl
  have hhead : ∃ d u, unifyBreaks (c :: t) = d :: u ∧ isGap d = false := by
    by_cases hc : c = '\r'
    · subst hc
      by_cases hpair : ∃ rest, t = '\n' :: rest
      · obtain ⟨rest, rfl⟩ := hpair
        exact ⟨'\n', unifyBreaks rest, rfl, rfl⟩
      · refine ⟨'\n', unifyBreaks t, ?_, rfl⟩
        rw [unifyBreaks]
        · rfl
        · exact fun rest _ heq => hpair ⟨rest, heq⟩
    · exact ⟨c, unifyBreaks t, unifyBreaks_cons t hc, hgap⟩
  obtain ⟨d, u, hunified, hd⟩ := hhead
  have hagain : unifyBreaks (d :: u) = d :: u := by
    rw [← hunified]
    exact unifyBreaks_of_not_mem (return_not_mem_unifyBreaks _)
  simp only [aloneTokens?, hblanks hgap, hunified, hblanks hd, hagain]
  rw [hunified] at hnul'
  simp [hnul, hnul']

theorem run?_of_singleLine? (h : singleLine? t = some tokens) :
    ∃ marks last, RowState.start.run? t = some (marks, last) ∧ last.isSettled = true := by
  obtain ⟨lines, hlines, -⟩ := Option.bind_eq_some_iff.mp h
  obtain ⟨rows, hrows, -⟩ := Option.bind_eq_some_iff.mp hlines
  obtain ⟨marks, hmarks, -⟩ := Option.map_eq_some_iff.mp hrows
  unfold RowState.marks? at hmarks
  split at hmarks
  · cases hmarks
  · rename_i marks' last hrun
    by_cases hsettled : last.isSettled = true
    · exact ⟨marks', last, hrun, hsettled⟩
    · rw [if_neg hsettled] at hmarks
      cases hmarks

theorem dropRightWhile_spaced (hstands : ∀ l ∈ lexemes, ∃ rest, Stands rest l.kind l.text) :
    dropRightWhile isGap (spaced lexemes) = spaced lexemes := by
  induction lexemes with
  | nil => rfl
  | cons l lexemes ih =>
    rw [List.forall_mem_cons] at hstands
    obtain ⟨⟨rest, hl⟩, hlexemes⟩ := hstands
    have hlast : ∀ c, (' ' :: l.text).getLast? = some c → isGap c = false := by
      intro c hc
      obtain ⟨d, text, htext, -⟩ := exists_head hl
      refine isGap_getLast hl c ?_
      rw [htext] at hc ⊢
      exact hc
    rw [spaced_cons, ← List.cons_append, dropRightWhile_append (List.cons_ne_nil _ _) hlast,
      ih hlexemes]

theorem exists_head_literalSource (h : ∀ l ∈ lexemes, ∃ rest, Stands rest l.kind l.text)
    (hne : lexemes ≠ []) :
    ∃ c t, Directive.literalSource lexemes = c :: t ∧ isGap c = false := by
  obtain ⟨l, others, rfl⟩ := List.exists_cons_of_ne_nil hne
  obtain ⟨rest, hl⟩ := h l List.mem_cons_self
  obtain ⟨c, text, htext, hgap, -⟩ := exists_head hl
  exact ⟨c, text ++ spaced others, by rw [literalSource_cons, htext]; rfl, hgap⟩

-- A text of lexemes with a blank between neighbours.
structure ReadAs (lexemes : List Lexeme) (tokens : List Token) : Prop where
  fits : List.Forall₂ Fits lexemes tokens
  sound : ∀ l ∈ lexemes, '\x00' ∉ l.text
  nested : Directive.Nested 0 lexemes
  balanced : Directive.depth lexemes = 0
  some_read : tokens ≠ []
  matched : tokens.foldlM trackBrackets? [] = some []

theorem readAs_of_aloneTokens? (hne : lexemes ≠ [])
    (hstands : ∀ l ∈ lexemes, ∃ rest, Stands rest l.kind l.text)
    (hreturn : '\r' ∉ Directive.literalSource lexemes)
    (h : aloneTokens? (Directive.literalSource lexemes) = some tokens) (hsparse : Sparse tokens) :
    ReadAs lexemes tokens := by
  obtain ⟨c, t, hsource, hgap⟩ := exists_head_literalSource hstands hne
  have hspaced : spaced lexemes = ' ' :: c :: t := by
    obtain ⟨l, others, rfl⟩ := List.exists_cons_of_ne_nil hne
    rw [spaced_cons, ← literalSource_cons, hsource]
  rw [hsource] at h hreturn
  have hnul : '\x00' ∉ c :: t := by
    intro hmem
    rw [aloneTokens?, if_pos (List.contains_iff_mem.mpr hmem)] at h
    cases h
  have hsingle : singleLine? (c :: t) = some tokens := by
    have hblanks : (c :: t).dropWhile (fun c => c = ' ' || c = '\t') = c :: t := by
      simp only [isGap, Bool.or_eq_false_iff] at hgap
      rw [List.dropWhile_cons, hgap.1.1, hgap.1.2]
      rfl
    simpa [aloneTokens?, hnul, hblanks, unifyBreaks_of_not_mem hreturn] using h
  obtain ⟨marks, last, hrun, hsettled⟩ := run?_of_singleLine? hsingle
  have hblank : RowState.start.run? (spaced lexemes) = some (.keep ' ' :: marks, last) := by
    have hstep : RowState.start.step? ' ' = some (some (.keep ' '), .start) := rfl
    rw [hspaced]
    exact RowState.run?_cons hstep hrun
  obtain ⟨hmarks, hcode, hdepth, hfirm, hnested⟩ :=
    run?_spaced hstands (s := .start) trivial (by simp [RowState.start]) hblank
  rw [hspaced, List.map_cons, List.cons.injEq] at hmarks
  rw [hmarks.2, List.map_cons] at hrun
  obtain ⟨read, hread, rfl, hsome, hmatched⟩ :=
    (aloneTokens?_of_line hnul hreturn hgap hrun (by simp) hsettled hcode).mp h
  have hrow : Mark.lineRows (.keep c :: t.map .keep) = [c :: t] := by
    have hkeeps := @Mark.lineRows_keeps [] [] [] rfl (c :: t)
    simpa using hkeeps
  rw [hrow] at hread
  obtain ⟨row, htokens, rfl⟩ : ∃ row, rowTokens? (c :: t) = some row ∧ [row] = read := by
    simpa [Option.bind_eq_some_iff] using hread
  rw [List.flatten_singleton] at hmatched hsome hsparse ⊢
  rw [← rowTokens?_cons_gap (c :: t) (c := ' ') rfl, ← hspaced, rowTokens?,
    dropRightWhile_spaced hstands] at htokens
  refine ⟨fits_of_tokensUpTo hstands hfirm htokens hsparse, fun l hl hmem => hnul ?_, hnested, ?_,
    hsome, hmatched⟩
  · have hinside : '\x00' ∈ spaced lexemes :=
      List.mem_flatMap.mpr ⟨l, hl, List.mem_cons_of_mem _ hmem⟩
    rw [hspaced] at hinside
    exact (List.mem_cons.mp hinside).resolve_left (by decide)
  · have hzero : last.depth = 0 := by
      rw [RowState.isSettled, Bool.and_eq_true, decide_eq_true_eq] at hsettled
      exact hsettled.1
    rw [hzero] at hdepth
    simpa [RowState.start] using hdepth.symm

end

section

variable {l : Lexeme} {lexemes : List Lexeme} {token : Token} {tokens : List Token}
  {opened opened' : List Symbol} {below : Symbol} {u : Text}

-- The brackets that are open, and that one more is open below them makes no difference.
theorem trackBrackets?_of_fits (hfits : Fits l token)
    (h : trackBrackets? opened token = some opened') :
    (opened'.length : Int) = opened.length + l.depthChange ∧
      ((opened.length : Int) + l.depthChange < maxOpen →
        trackBrackets? (opened ++ [below]) token = some (opened' ++ [below])) := by
  cases hfits with
  | string hkind =>
    cases h
    rw [depthChange_of_kind (by simp [hkind])]
    exact ⟨by simp, fun _ => rfl⟩
  | int hkind =>
    cases h
    rw [depthChange_of_kind (by simp [hkind])]
    exact ⟨by simp, fun _ => rfl⟩
  | @symbol c symbol hkind htext hsimple =>
    have hchange : l.depthChange = changeOf .operator [c] := by
      rw [← hkind, ← htext]
      rfl
    rw [hchange]
    simp only [simpleSymbols, List.mem_cons, Prod.mk.injEq, List.not_mem_nil, or_false] at hsimple
    rcases hsimple with ⟨rfl, rfl⟩ | ⟨rfl, rfl⟩ | ⟨rfl, rfl⟩ | ⟨rfl, rfl⟩
    · have hone : changeOf .operator ['('] = 1 := rfl
      simp only [trackBrackets?, Symbol.closer?] at h ⊢
      by_cases hfull : maxOpen ≤ opened.length
      · rw [if_pos hfull] at h
        cases h
      rw [if_neg hfull] at h
      cases h
      refine ⟨by simp [hone], fun hroom => ?_⟩
      have hmore : ¬ maxOpen ≤ (opened ++ [below]).length := by
        rw [hone] at hroom
        rw [List.length_append, List.length_singleton]
        omega
      rw [if_neg hmore]
      rfl
    · have hless : changeOf .operator [')'] = -1 := rfl
      simp only [trackBrackets?, Symbol.closer?, Symbol.isCloser, if_true] at h ⊢
      cases opened with
      | nil => cases h
      | cons expected outer =>
        simp only at h
        by_cases hsame : Symbol.closeParen = expected
        · rw [if_pos hsame] at h
          cases h
          refine ⟨by simp [hless], fun _ => ?_⟩
          simp [hsame]
        · rw [if_neg hsame] at h
          cases h
    · cases h
      exact ⟨by simp [changeOf, Lexeme.depthChange, Lexeme.opens, Lexeme.closes,
        Lexeme.isOperator], fun _ => rfl⟩
    · cases h
      exact ⟨by simp [changeOf, Lexeme.depthChange, Lexeme.opens, Lexeme.closes,
        Lexeme.isOperator], fun _ => rfl⟩

theorem foldlM_trackBrackets? (hfits : List.Forall₂ Fits lexemes tokens)
    (h : tokens.foldlM trackBrackets? opened = some opened')
    (hdeep : ∀ before, before <+: lexemes →
      (opened.length : Int) + Directive.depth before < maxOpen) :
    tokens.foldlM trackBrackets? (opened ++ [below]) = some (opened' ++ [below]) := by
  induction hfits generalizing opened with
  | nil =>
    cases h
    rfl
  | @cons l token lexemes tokens hfit _ ih =>
    rw [List.foldlM_cons] at h ⊢
    obtain ⟨middle, hmiddle, hrest⟩ := Option.bind_eq_some_iff.mp h
    obtain ⟨hlength, hmore⟩ := @trackBrackets?_of_fits _ _ _ _ below hfit hmiddle
    have hroom : (opened.length : Int) + l.depthChange < maxOpen := by
      simpa using hdeep [l] (List.cons_prefix_cons.mpr ⟨rfl, List.nil_prefix⟩)
    rw [hmore hroom]
    refine ih hrest fun before hbefore => ?_
    have hwhole := hdeep (l :: before) (List.cons_prefix_cons.mpr ⟨rfl, hbefore⟩)
    rw [Directive.depth_cons] at hwhole
    omega

-- The parenthesis is an operator of its own, whatever is behind it.
theorem stands_paren (t : Text) : Stands t .operator ['('] := by
  have halone : ∀ operator ∈ Lexeme.operators, operator.head? = some '(' → operator = ['('] := by
    decide
  refine .operator (by decide) fun c _ hmem => ?_
  cases halone _ hmem rfl

-- In parentheses the text is read like the lexemes with blanks between them.
theorem aloneTokens?_enclosed (hread : ReadAs lexemes tokens) (hsparse : Sparse tokens)
    (hspelled : Spelled u lexemes) (hreturn : '\r' ∉ u)
    (hdeep : ∀ before, before <+: lexemes → Directive.depth before < maxOpen) :
    aloneTokens? ('(' :: (u ++ ['\n', ')'])) =
      some (.symbol .openParen :: (tokens ++ [.symbol .closeParen])) := by
  have hnul : '\x00' ∉ '(' :: (u ++ ['\n', ')']) := by
    simpa using hspelled.nul_not_mem hread.sound
  have hreturn' : '\r' ∉ '(' :: (u ++ ['\n', ')']) := by simpa using hreturn
  have hclosing : Yields [] [.cut, .keep ')'] [.symbol .closeParen] :=
    ⟨by decide, [], [[')']], [], [[.symbol .closeParen]], rfl, rfl, by decide, rfl, by simp⟩
  have hopening : Fits ⟨.operator, ['('], default, default⟩ (.symbol .openParen) :=
    .symbol rfl rfl (by decide)
  obtain ⟨marks, last, hrun, hdepth, hout, hyields⟩ :=
    @run?_spelled u tokens lexemes ⟨.code, 1⟩ [')'] _ _ hspelled trivial hread.nested hread.fits
      hsparse hclosing (by simp)
  have hone : last.depth = 1 := by
    rw [hread.balanced] at hdepth
    simpa using hdepth
  have hparen : RowState.start.step? '(' = some (some (.keep '('), ⟨.code, 1⟩) := rfl
  have hbreak : last.step? '\n' = some (some .cut, ⟨.code, 1⟩) := by
    rw [hout.step?_eq]
    simp [RowState.codeStep?, RowState.endRow, hone]
  have hclose : RowState.run? ⟨.code, 1⟩ [')'] = some ([.keep ')'], ⟨.code, 0⟩) := rfl
  have hwhole : RowState.start.run? ('(' :: (u ++ ['\n', ')'])) =
      some (.keep '(' :: (marks ++ [.cut, .keep ')']), ⟨.code, 0⟩) :=
    RowState.run?_cons hparen (RowState.run?_append hrun (RowState.run?_cons hbreak hclose))
  have hall := hyields.fits hopening (stands_paren u) (by simp)
  obtain ⟨hended, row, rows, read, others, hrows, hrow, hothers, htokens, -⟩ := hall
  refine (aloneTokens?_of_line hnul hreturn' rfl hwhole ?_ rfl (by simp)).mpr
    ⟨read :: others, ?_, htokens, by simp, ?_⟩
  · simpa using hended
  · have hlines : Mark.lineRows (.keep '(' :: (marks ++ [.cut, .keep ')'])) = row :: rows := hrows
    rw [hlines, List.mapM_cons, hrow, hothers]
    rfl
  · have hmiddle := @foldlM_trackBrackets? _ _ _ _ .closeParen hread.fits hread.matched
      (by simpa using hdeep)
    have hfirst : trackBrackets? [] (.symbol .openParen) = some [.closeParen] := by decide
    rw [List.nil_append] at hmiddle
    rw [List.foldlM_cons, hfirst, Option.bind_eq_bind, Option.bind_some, List.foldlM_append,
      hmiddle]
    rfl

end

end Ghostwriter.Grammar

namespace Ghostwriter.Value

open Ghostwriter.Grammar Ghostwriter.Lexeme Ghostwriter.Text

section

variable {before t : Text} {lexemes : List Lexeme} {v : Value}

theorem stands_unified (h : ∀ l ∈ lexemes, ∃ rest, Stands rest l.kind l.text) :
    ∀ l ∈ lexemes.map unified, ∃ rest, Stands rest l.kind l.text := by
  intro l hl
  obtain ⟨m, hm, rfl⟩ := List.mem_map.mp hl
  obtain ⟨rest, hstands⟩ := h m hm
  exact ⟨unifyBreaks rest, hstands.unifyBreaks⟩

theorem depth_unified (h : ∀ l ∈ lexemes, ∃ rest, Stands rest l.kind l.text) :
    Directive.depth (lexemes.map unified) = Directive.depth lexemes := by
  induction lexemes with
  | nil => rfl
  | cons l lexemes ih =>
    rw [List.forall_mem_cons] at h
    obtain ⟨⟨rest, hl⟩, hlexemes⟩ := h
    rw [List.map_cons, Directive.depth_cons, Directive.depth_cons, depthChange_unified hl,
      ih hlexemes]

theorem nested_of_unified {outer : Int}
    (hstands : ∀ l ∈ lexemes, ∃ rest, Stands rest l.kind l.text)
    (h : Directive.Nested outer (lexemes.map unified)) : Directive.Nested outer lexemes := by
  intro part hpart
  rw [← depth_unified fun l hl => hstands l (hpart.mem hl)]
  exact h _ (hpart.map unified)

-- How the lexemes of a text or an integer are read.
theorem exists_readAs {e : Expr} (hstands : ∀ l ∈ lexemes, ∃ rest, Stands rest l.kind l.text)
    (hne : lexemes ≠ []) (h : expressionAlone? (Directive.literalSource lexemes) = some e)
    (hplain : isPlain e = true) :
    ∃ tokens, Plain true tokens e ∧ Sparse tokens ∧ ReadAs (lexemes.map unified) tokens := by
  obtain ⟨tokens, htokens, hwritten⟩ := plain_of_expressionAlone? h hplain
  have hsparse : Sparse tokens := by
    simpa using @Plain.sparse [] _ _ _ hwritten trivial (.inl rfl)
  refine ⟨tokens, hwritten, hsparse, ?_⟩
  obtain ⟨c, u, hsource, hgap⟩ := exists_head_literalSource hstands hne
  have hunified : unifyBreaks (c :: u) = Directive.literalSource (lexemes.map unified) := by
    rw [← hsource, unifyBreaks_literalSource hstands]
  rw [hsource] at htokens
  have hnul : '\x00' ∉ c :: u := by
    intro hmem
    rw [aloneTokens?, if_pos (List.contains_iff_mem.mpr hmem)] at htokens
    cases htokens
  rw [← aloneTokens?_unifyBreaks hgap hnul, hunified] at htokens
  refine readAs_of_aloneTokens? (by simpa using hne) (stands_unified hstands) ?_ htokens hsparse
  rw [← hunified]
  exact return_not_mem_unifyBreaks _

-- A text or an integer has the same value in parentheses, whatever stands between its lexemes.
theorem ofText_enclosed (hcovers : Covers 1 before t lexemes) (hne : lexemes ≠ [])
    (hdeep : ∀ before, before <+: lexemes → Directive.depth before < maxOpen)
    (h : ofText (Directive.literalSource lexemes) = .ok v) (hsimple : isSimple v = true) :
    ofText ('(' :: (t ++ ['\n', ')'])) = .ok v := by
  have hstands := hcovers.stands
  unfold ofText at h
  split at h
  case h_2 => cases h
  rename_i e halone
  obtain ⟨tokens, hwritten, hsparse, hread⟩ :=
    exists_readAs hstands hne halone (isPlain_of_ofExpr h hsimple)
  have hinside : Directive.Nested ((1 : Int) - 1) lexemes := nested_of_unified hstands hread.nested
  have hspelled := hcovers.spelled hinside
  have hroom : ∀ part, part <+: lexemes.map unified → Directive.depth part < maxOpen := by
    intro part hpart
    obtain ⟨first, hfirst, rfl⟩ := List.prefix_map_iff.mp hpart
    rw [depth_unified fun l hl => hstands l (hfirst.mem hl)]
    exact hdeep first hfirst
  have henclosed :=
    aloneTokens?_enclosed hread hsparse hspelled (return_not_mem_unifyBreaks t) hroom
  have hwhole : unifyBreaks ('(' :: (t ++ ['\n', ')'])) =
      '(' :: (unifyBreaks t ++ ['\n', ')']) := by
    rw [unifyBreaks_cons _ (by decide), unifyBreaks_append (hcovers.getLast_ne_return hinside)]
    rfl
  have hnul : '\x00' ∉ '(' :: (t ++ ['\n', ')']) := by
    have hsound := hspelled.nul_not_mem hread.sound
    rw [mem_unifyBreaks (by decide) (by decide)] at hsound
    simpa using hsound
  rw [← hwhole, aloneTokens?_unifyBreaks rfl hnul] at henclosed
  have hparens : Plain false (.symbol .openParen :: (tokens ++ [.symbol .closeParen])) e :=
    .paren hwritten
  rw [ofText, expressionAlone?_of_plain henclosed hparens]
  exact h

end

end Ghostwriter.Value

import Ghostwriter.Proofs.Grammar.Lexed

/-!
The tokens of a text within brackets are those of its lexemes, whatever stands between them.
-/

namespace Ghostwriter.Grammar

open Ghostwriter.Lexeme Ghostwriter.Text

section

variable {t : Text} {p : Char → Bool} {c : Char} {tokens : List Token} {fuel more : Nat}

theorem dropRightWhile_append {text : Text} (hne : text ≠ [])
    (hlast : ∀ c, text.getLast? = some c → p c = false) (t : Text) :
    dropRightWhile p (text ++ t) = text ++ dropRightWhile p t := by
  induction text with
  | nil => exact absurd rfl hne
  | cons c text ih =>
    cases text with
    | nil => exact dropRightWhile_cons (hlast c rfl) t
    | cons d text =>
      have hrest := ih (List.cons_ne_nil d text) fun e he => hlast e (by simpa using he)
      rw [List.cons_append] at hrest ⊢
      rw [dropRightWhile, List.cons_append, hrest]
      rfl

theorem tokensUpTo_of_le (hle : fuel ≤ more) (h : tokensUpTo fuel t = some tokens) :
    tokensUpTo more t = some tokens := by
  induction fuel generalizing t more tokens with
  | zero =>
    cases t with
    | nil => rwa [tokensUpTo] at h ⊢
    | cons => cases h
  | succ fuel ih =>
    cases t with
    | nil => rwa [tokensUpTo] at h ⊢
    | cons c t =>
      obtain ⟨more, rfl⟩ : ∃ n, more = n + 1 := ⟨more - 1, by omega⟩
      have hle : fuel ≤ more := by omega
      rw [tokensUpTo] at h ⊢
      split_ifs at h ⊢
      · exact ih hle h
      · obtain ⟨⟨token, rest⟩, htoken, hothers⟩ := Option.bind_eq_some_iff.mp h
        obtain ⟨others, hothers, heq⟩ := Option.bind_eq_some_iff.mp hothers
        simp only [htoken, Option.bind_eq_bind, Option.bind_some, ih hle hothers]
        exact heq

end

namespace Mark

theorem lineRows_cut (marks : List Mark) : lineRows (.cut :: marks) = [] :: lineRows marks := by
  rw [lineRows, splitWhere_cons_pos marks (by decide)]
  rfl

theorem lineRows_keeps {marks : List Mark} {row : Text} {rows : List Text}
    (h : lineRows marks = row :: rows) (text : Text) :
    lineRows (text.map .keep ++ marks) = (text ++ row) :: rows := by
  induction text with
  | nil => exact h
  | cons c text ih =>
    obtain ⟨first, others, hsplit⟩ :=
      List.exists_cons_of_ne_nil (splitWhere_ne_nil (p := (· = Mark.cut)) (text.map .keep ++ marks))
    rw [lineRows, hsplit, List.map_cons, List.cons.injEq] at ih
    rw [List.map_cons, List.cons_append, lineRows, splitWhere_cons_neg (by simp) hsplit,
      List.map_cons, List.cons.injEq]
    exact ⟨congrArg (c :: ·) ih.1, ih.2⟩

end Mark

-- The rows that some marks come to have these tokens. The first row begins as the text does that
-- the marks come from, unless nothing of it is left.
structure Yields (t : Text) (marks : List Mark) (tokens : List Token) : Prop where
  goes_on : .ended ∉ marks
  rows : ∃ row rows read others, Mark.lineRows marks = row :: rows ∧ rowTokens? row = some read ∧
    rows.mapM rowTokens? = some others ∧ read ++ others.flatten = tokens ∧
    ∀ c ∈ row.head?, t.head? = some c ∧ c ≠ '\n'

section

variable {t t' : Text} {c : Char} {marks : List Mark} {token : Token} {tokens : List Token}
  {l : Lexeme}

theorem Yields.gap (hgap : isGap c = true) (h : Yields t marks tokens) :
    Yields (c :: t) (.keep c :: marks) tokens := by
  obtain ⟨hgoes, row, rows, read, others, hrows, hrow, hothers, htokens, -⟩ := h
  refine ⟨by simp [hgoes], c :: row, rows, read, others, ?_, ?_, hothers, htokens, ?_⟩
  · exact Mark.lineRows_keeps hrows [c]
  · rw [rowTokens?_cons_gap row hgap, hrow]
  · rintro d ⟨⟩
    refine ⟨rfl, ?_⟩
    rintro rfl
    cases hgap

theorem Yields.cut (h : Yields t marks tokens) : Yields t' (.cut :: marks) tokens := by
  obtain ⟨hgoes, row, rows, read, others, hrows, hrow, hothers, htokens, -⟩ := h
  refine ⟨by simp [hgoes], [], row :: rows, [], read :: others, ?_, rfl, ?_, htokens, by simp⟩
  · rw [Mark.lineRows_cut, hrows]
  · simp [hrow, hothers]

theorem Yields.comment (hended : ∀ c ∈ t.head?, c = '\n') (h : Yields t marks tokens) :
    Yields t' marks tokens := by
  obtain ⟨hgoes, row, rows, read, others, hrows, hrow, hothers, htokens, hhead⟩ := h
  refine ⟨hgoes, row, rows, read, others, hrows, hrow, hothers, htokens, fun c hc => ?_⟩
  exact absurd (hended c (hhead c hc).1) (hhead c hc).2

theorem ended_of_gap (h : isGap c = true) (t : Text) : Ended (c :: t) := by
  rintro d ⟨⟩
  have hgaps : ∀ d ∈ [' ', '\t', '\x0c'], continuesName d = false ∧ d ≠ '.' := by decide
  exact hgaps c (mem_gaps h)

-- Before a closing parenthesis a number ends.
theorem ended_of_closed {row : Text} {read : List Token} (h : rowTokens? row = some read)
    (hclosed : ∀ token ∈ read.head?, token = .symbol .closeParen) :
    Ended (dropRightWhile isGap row) := by
  rw [rowTokens?] at h
  generalize dropRightWhile isGap row = row' at h ⊢
  cases row' with
  | nil => simp [Ended]
  | cons c row' =>
    by_cases hgap : isGap c = true
    · exact ended_of_gap hgap row'
    · simp only [List.length_cons, tokensUpTo, hgap, Bool.false_eq_true, if_false] at h
      obtain ⟨⟨token, behind⟩, htoken, hothers⟩ := Option.bind_eq_some_iff.mp h
      obtain ⟨others, -, heq⟩ := Option.bind_eq_some_iff.mp hothers
      cases heq
      obtain rfl := hclosed token rfl
      have hparen := symbol?_simple (c := ')') (readBy_of_token? htoken) (by decide)
      rw [(List.cons.inj hparen).1]
      rintro d ⟨⟩
      decide

theorem head_dropRightWhile {p : Char → Bool} {t : Text} :
    ∀ c ∈ (dropRightWhile p t).head?, c ∈ t.head? := by
  cases t with
  | nil => exact fun c hc => hc
  | cons d t =>
    intro c hc
    rw [dropRightWhile] at hc
    split at hc
    · split_ifs at hc
      · cases hc
      · exact hc
    · exact hc

theorem Yields.fits (h : Yields t marks tokens) (hfits : Fits l token)
    (hstands : Stands t l.kind l.text)
    (hclosed : l.kind = .number → ∀ token ∈ tokens.head?, token = .symbol .closeParen) :
    Yields (l.text ++ t) (l.text.map .keep ++ marks) (token :: tokens) := by
  obtain ⟨hgoes, row, rows, read, others, hrows, hrow, hothers, rfl, hhead⟩ := h
  obtain ⟨c, text, htext, hgap, hbreak⟩ := exists_head hstands
  refine ⟨by simp [hgoes], l.text ++ row, rows, token :: read, others,
    Mark.lineRows_keeps hrows l.text, ?_, hothers, rfl, ?_⟩
  · have hrow' : Stands (dropRightWhile isGap row) l.kind l.text := by
      refine hstands.of_head ?_
      cases hnext : (dropRightWhile isGap row).head? with
      | none => exact .inl rfl
      | some d => exact .inr (hhead d (head_dropRightWhile d hnext)).1.symm
    have hended (hkind : l.kind = .number) : Ended (dropRightWhile isGap row) := by
      refine ended_of_closed hrow fun token htoken => hclosed hkind token ?_
      rw [List.head?_append, htoken]
      rfl
    have htoken := token?_of_fits hfits hrow' hended
    rw [rowTokens?] at hrow ⊢
    rw [dropRightWhile_append hstands.ne_nil (isGap_getLast hstands)]
    generalize dropRightWhile isGap row = row' at hrow htoken
    rw [htext] at htoken ⊢
    simp only [List.cons_append, List.length_cons, tokensUpTo, hgap, Bool.false_eq_true, if_false]
    rw [List.cons_append] at htoken
    have hbehind : tokensUpTo (text ++ row').length row' = some read :=
      tokensUpTo_of_le (by simp) hrow
    simp only [htoken, hbehind, Option.bind_eq_bind, Option.bind_some]
  · intro d hd
    rw [htext] at hd ⊢
    cases hd
    exact ⟨rfl, hbreak⟩

theorem run?_comment {u : Text} (hu : ∀ c ∈ u, c ≠ '\n') (depth : Nat) :
    RowState.run? ⟨.comment, depth⟩ u = some ([], ⟨.comment, depth⟩) := by
  induction u with
  | nil => rfl
  | cons c u ih =>
    rw [List.forall_mem_cons] at hu
    have hstep : RowState.step? ⟨.comment, depth⟩ c = some (none, ⟨.comment, depth⟩) := by
      simp [RowState.step?, hu.1]
    exact RowState.run?_cons hstep (ih hu.2)

-- The rows of a text within brackets have the tokens of its lexemes.
theorem run?_spelled {lexemes : List Lexeme} {s : RowState} {rest : Text}
    {marks' : List Mark} {tokens' : List Token} (h : Spelled t lexemes)
    (houtside : Outside s (t ++ '\n' :: rest))
    (hdeep : Directive.Nested ((s.depth : Int) - 1) lexemes)
    (hfits : List.Forall₂ Fits lexemes tokens) (hsparse : Sparse tokens)
    (hbehind : Yields [] marks' tokens')
    (hclosed : ∀ token ∈ tokens'.head?, token = .symbol .closeParen) :
    ∃ marks last, s.run? t = some (marks, last) ∧
      (last.depth : Int) = s.depth + Directive.depth lexemes ∧ Outside last ('\n' :: rest) ∧
      Yields t (marks ++ marks') (tokens ++ tokens') := by
  induction h generalizing s tokens with
  | nil =>
    cases hfits
    exact ⟨[], s, rfl, by simp, houtside, hbehind⟩
  | @gap c t lexemes hgap _ ih =>
    have hstep : s.step? c = some (some (.keep c), ⟨.code, s.depth⟩) := by
      rw [houtside.step?_eq, RowState.codeStep?_gap hgap]
    obtain ⟨marks, last, hrun, hdepth, hout, hyields⟩ :=
      @ih tokens ⟨.code, s.depth⟩ trivial hdeep hfits hsparse
    exact ⟨_, last, RowState.run?_cons hstep hrun, hdepth, hout, hyields.gap hgap⟩
  | @lineBreak t lexemes _ ih =>
    have hopen : s.depth ≠ 0 := by
      have hnonneg := hdeep.nonneg
      omega
    have hstep : s.step? '\n' = some (some .cut, ⟨.code, s.depth⟩) := by
      rw [houtside.step?_eq]
      simp [RowState.codeStep?, RowState.endRow, hopen]
    obtain ⟨marks, last, hrun, hdepth, hout, hyields⟩ :=
      @ih tokens ⟨.code, s.depth⟩ trivial hdeep hfits hsparse
    exact ⟨_, last, RowState.run?_cons hstep hrun, hdepth, hout, hyields.cut⟩
  | @joined t lexemes _ ih =>
    have hslash : s.step? '\\' = some (none, ⟨.backslash, s.depth⟩) := by
      rw [houtside.step?_eq]
      rfl
    have hbreak : RowState.step? ⟨.backslash, s.depth⟩ '\n' =
        some (some .cut, ⟨.joined, s.depth⟩) := rfl
    obtain ⟨marks, last, hrun, hdepth, hout, hyields⟩ :=
      @ih tokens ⟨.joined, s.depth⟩ trivial hdeep hfits hsparse
    exact ⟨_, last, RowState.run?_cons hslash (RowState.run?_cons hbreak hrun), hdepth, hout,
      hyields.cut⟩
  | @comment u t lexemes hinside hended _ ih =>
    have hhash : s.step? '#' = some (none, ⟨.comment, s.depth⟩) := by
      rw [List.cons_append, List.cons_append] at houtside
      rw [houtside.step?_eq]
      rfl
    have hcomment := run?_comment (fun c hc => (hinside c hc).1) s.depth
    have hbreak : ∀ c ∈ (t ++ '\n' :: rest).head?, c = '\n' := by
      intro c hc
      cases t with
      | nil => exact (Option.some.inj hc).symm
      | cons d t => exact hended c hc
    obtain ⟨marks, last, hrun, hdepth, hout, hyields⟩ :=
      @ih tokens ⟨.comment, s.depth⟩ hbreak hdeep hfits hsparse
    have hwhole := RowState.run?_cons hhash (RowState.run?_append hcomment hrun)
    exact ⟨marks, last, hwhole, hdepth, hout, hyields.comment hended⟩
  | @lexeme l t lexemes hstands _ ih =>
    cases hfits with
    | @cons _ token _ others hfit hfits =>
    have hfirm (hkind : l.kind = .string) : Firm l.text := by
      cases hfit with
      | string _ hfirm => exact hfirm
      | int hother => cases hkind.symm.trans hother
      | symbol hother => cases hkind.symm.trans hother
    have hnumber (hkind : l.kind = .number) :
        ∀ token ∈ (others ++ tokens').head?, token = .symbol .closeParen := by
      cases hfit with
      | string hother => cases hkind.symm.trans hother
      | symbol hother => cases hkind.symm.trans hother
      | int =>
        intro token htoken
        cases others with
        | nil => exact hclosed token htoken
        | cons next others => exact hsparse.1 token htoken
    have hnested : Directive.Nested ((s.depth : Int) + changeOf l.kind l.text - 1) lexemes :=
      @nested_behind s.depth l lexemes hdeep
    have hdepth : 0 ≤ (s.depth : Int) + changeOf l.kind l.text := by
      have hnonneg := hnested.nonneg
      omega
    obtain ⟨s', hs', -, hout', hrun'⟩ := run?_stands (stands_break hstands rest) hfirm hdepth
    have hsame : s.run? l.text = some (l.text.map .keep, s') := by
      obtain ⟨c, text, htext, -⟩ := exists_head hstands
      rw [List.append_assoc] at houtside
      rw [htext] at houtside hrun' ⊢
      rw [houtside.run?_eq, hrun']
    rw [← hs'] at hnested
    obtain ⟨marks, last, hrun, hlast, hout, hyields⟩ := ih hout' hnested hfits hsparse.tail
    refine ⟨_, last, RowState.run?_append hsame hrun, ?_, hout, ?_⟩
    · rw [hlast, hs', Directive.depth_cons]
      exact Int.add_assoc _ _ _
    · rw [List.append_assoc]
      exact hyields.fits hfit hstands hnumber

end

end Ghostwriter.Grammar

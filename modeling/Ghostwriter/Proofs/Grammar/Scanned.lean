import Ghostwriter.Proofs.Grammar.Piece

/-!
The tolerant scanner and the reader of rows, row by row: where the reader finds nothing wrong, both
are inside a string at the start of the same rows, which are those that a string of the scanner goes
on in.
-/

namespace Ghostwriter.Grammar

open Ghostwriter.Lexeme Ghostwriter.Splice Ghostwriter.Text

-- The reader and the scanner between two rows, or behind the last one.
inductive Agree : RowState → ScanState → Prop
  | outside {s : RowState} {state : ScanState} (string : ¬ s.InString) (slash : s.mode ≠ .backslash)
      (closed : state.openString = none) (free : state.mustContinue = false)
      (depth : s.depth = state.depth) (continued : state.continued = decide (s.mode = .joined)) :
      Agree s state
  | inside {s : RowState} {state : ScanState} {o : OpenString} (opened : state.openString = some o)
      (mode : s.mode = .string o.quote o.tripled 0) (bound : state.mustContinue = !o.tripled)
      (depth : s.depth = state.depth) (continued : state.continued = false) : Agree s state

theorem agree_start : Agree .start .start := .outside id (by decide) rfl rfl rfl rfl

section

variable {s last : RowState} {state final : ScanState} {row column : Nat}
  {rest line : List Char} {lexemes : List Lexeme}

theorem Reaches.isSound (h : Reaches s rest last) (hs : s.IsSound) : last.IsSound := by
  obtain ⟨marks, h⟩ := h
  exact RowState.run?_isSound hs h

theorem follows_of_outside (hstring : ¬ s.InString) (hslash : s.mode ≠ .backslash)
    (hbegins : BeginsRow s) (hreaches : Reaches s rest last) : Follows s.depth rest last := by
  refine ⟨s, rfl, ?_, hreaches⟩
  obtain ⟨mode, depth⟩ := s
  cases mode <;> simp_all [Outside, BeginsRow, RowState.InString]

theorem agree_missing (hend : RowEnds rest last) (hmissing : '\n' ∉ rest)
    (hdepth : last.depth = state.depth) (hclosed : state.openString = none)
    (hfree : state.mustContinue = false) (hcontinued : state.continued = false) :
    Agree last state := by
  obtain ⟨hstring, hslash, hjoined⟩ := hend.resolve_left hmissing
  exact .outside hstring hslash hclosed hfree hdepth (by simp [hjoined, hcontinued])

theorem agree_code (hmode : last.mode = .code) (hdepth : last.depth = state.depth)
    (hclosed : state.openString = none) (hfree : state.mustContinue = false)
    (hcontinued : state.continued = false) : Agree last state :=
  .outside (by simp [RowState.InString, hmode]) (by simp [hmode]) hclosed hfree hdepth
    (by simp [hmode, hcontinued])

-- Nothing is left of the row, or its line feed.
theorem agree_idle (hrest : rest = [] ∨ rest = ['\n']) (hend : RowEnds rest last)
    (hfollows : Follows state.depth rest last) (hclosed : state.openString = none)
    (hfree : state.mustContinue = false) (hcontinued : state.continued = false) :
    Agree last state := by
  rcases hrest with rfl | rfl
  · obtain ⟨s, hdepth, -, hreaches⟩ := hfollows
    exact agree_missing hend List.not_mem_nil (reaches_nil.mp hreaches ▸ hdepth) hclosed hfree
      hcontinued
  · exact agree_code hfollows.endRow.1 hfollows.endRow.2 hclosed hfree hcontinued

theorem RowEnds.of_append {u : Text} (h : RowEnds (u ++ rest) last) (hu : '\n' ∉ u) :
    RowEnds rest last := h.imp_left fun hmem => (List.mem_append.mp hmem).resolve_left hu

theorem agree_scansRest (h : ScansRest row column rest state lexemes final) (hrow : IsRow rest)
    (hend : RowEnds rest last) (hreturn : '\r' ∉ rest) (hfollows : Follows state.depth rest last)
    (hclosed : state.openString = none) (hfree : state.mustContinue = false)
    (hcontinued : state.continued = false) : Agree last final := by
  induction h with
  | nothing hpiece =>
    cases hpiece ▸ nextPiece hrow hend hreturn hfollows with
    | nothing hmissing hsame => exact agree_missing hend hmissing hsame hclosed hfree hcontinued
  | joined hpiece =>
    cases hpiece ▸ nextPiece hrow hend hreturn hfollows with
    | continuation hjoined hsame =>
      exact .outside (by simp [RowState.InString, hjoined]) (by simp [hjoined]) hclosed hfree hsame
        (by simp [hjoined])
  | opens _ hpiece =>
    cases hpiece ▸ nextPiece hrow hend hreturn hfollows with
    | openString hstring hsame => exact .inside rfl hstring (by simp [hfree]) hsame hcontinued
  | newline hpiece =>
    cases hpiece ▸ nextPiece hrow hend hreturn hfollows with
    | lexeme hother => exact absurd rfl hother
    | newline hcode hsame => exact agree_code hcode hsame hclosed hfree hcontinued
  | @lexeme _ gaps text behind kind state _ l _ _ hpiece _ hknown hinside hmade _ ih =>
    cases hpiece ▸ nextPiece hrow hend hreturn hfollows with
    | newline => exact absurd rfl (ne_newline_of_known hknown)
    | lexeme _ hbehind =>
      rw [← List.append_assoc] at hrow hend hreturn
      rw [← List.drop_drop, List.drop_left, List.drop_left, List.take_left] at hbehind
      have hchange : l.depthChange = changeOf kind text := hmade ▸ rfl
      refine ih hrow.of_append (hend.of_append hinside)
        (fun hmem => hreturn (List.mem_append_right _ hmem)) (hchange ▸ hbehind) ?_ ?_ ?_
      · exact hclosed
      · exact hfree
      · exact hcontinued

theorem drop_comment {t : Text} (hrow : IsRow ('#' :: t)) (hreturn : '\r' ∉ '#' :: t) :
    ('#' :: t).drop (commentLength ('#' :: t)) = [] ∨
      ('#' :: t).drop (commentLength ('#' :: t)) = ['\n'] := by
  have hrow' := hrow.drop (commentLength ('#' :: t))
  have hreturn' : '\r' ∉ ('#' :: t).drop (commentLength ('#' :: t)) :=
    fun hmem => hreturn (List.mem_of_mem_drop hmem)
  have hbreaks := breaksFirst_comment ('#' :: t)
  generalize ('#' :: t).drop (commentLength ('#' :: t)) = rest at *
  cases rest with
  | nil => exact .inl rfl
  | cons c rest =>
    rcases hbreaks c rfl with rfl | rfl
    · simp at hreturn'
    · exact .inr (eq_break_of_breakLength hrow' hreturn' (by simp [breakLength]))

theorem agree_scansFirst (h : ScansFirst row state line lexemes final) (hrow : IsRow line)
    (hend : RowEnds line last) (hreturn : '\r' ∉ line) (hfollows : Follows state.depth line last)
    (hclosed : state.openString = none) (hfree : state.mustContinue = false)
    (hcontinued : state.continued = false) : Agree last final := by
  have hplace {gaps : Text} (hblank : ∀ c ∈ gaps, isGap c = true) :
      '\n' ∉ gaps ∧ ∀ c ∈ gaps, c ∉ special :=
    ⟨fun hmem => absurd (hblank _ hmem) (by decide), fun c hc => not_special_of_isGap (hblank c hc)⟩
  cases h with
  | blank hblank =>
    rw [← List.append_nil line] at hend hfollows
    exact agree_idle (.inl rfl) (hend.of_append (hplace hblank).1)
      (by exact hfollows.plain (hplace hblank).2) hclosed hfree hcontinued
  | idle _ hblank hidle =>
    have hbehind := hfollows.plain (hplace hblank).2
    have hend' := hend.of_append (hplace hblank).1
    have hreturn' := fun hmem => hreturn (List.mem_append_right _ hmem)
    have hrow' := hrow.of_append
    rcases hidle with rfl | rfl | rfl
    · exact agree_idle (drop_comment hrow' hreturn') (hend'.drop (commentLength_within _))
        (follows_comment hreturn' hbehind) hclosed hfree hcontinued
    · simp at hreturn'
    · exact agree_idle (.inr (eq_break_of_breakLength hrow' hreturn' (by simp [breakLength]))) hend'
        hbehind hclosed hfree hcontinued
  | code _ hblank _ _ hothers =>
    exact agree_scansRest hothers hrow.of_append (hend.of_append (hplace hblank).1)
      (fun hmem => hreturn (List.mem_append_right _ hmem)) (hfollows.plain (hplace hblank).2) hclosed
      hfree hcontinued

-- A string that is not closed in its row goes on in the next one.
theorem goesOn_of_open {o : OpenString} (hrow : IsRow line) (hend : RowEnds line last)
    (hsound : s.IsSound) (hmode : s.mode = .string o.quote o.tripled 0)
    (hbound : state.mustContinue = !o.tripled) (hreaches : Reaches s line last)
    (hopen : o.closeLength? line = none) :
    last = ⟨.string o.quote o.tripled 0, s.depth⟩ ∧
      (state.mustContinue = true → endsContinued line = true) := by
  obtain ⟨mode, depth⟩ := s
  obtain rfl : mode = .string o.quote o.tripled 0 := hmode
  rw [hbound]
  unfold OpenString.closeLength? at hopen
  cases htripled : o.tripled <;> rw [htripled] at hopen hreaches
  · have hbreak := hend.mem (plain_unclosed hrow hopen hreaches)
    obtain ⟨rfl, hsuffix⟩ := plain_open hrow hbreak hopen hreaches
    simp [endsContinued, List.isSuffixOf_iff_suffix.mpr hsuffix]
  · have hbreak := hend.mem (tripled_unclosed (.inl rfl) hrow hopen hreaches)
    rw [tripled_open hsound (.inl rfl) hrow hbreak hopen hreaches]
    simp

theorem agree_scansString {o : OpenString} (h : ScansString row o state line lexemes final)
    (hrow : IsRow line) (hend : RowEnds line last) (hreturn : '\r' ∉ line) (hsound : s.IsSound)
    (hmode : s.mode = .string o.quote o.tripled 0) (hbound : state.mustContinue = !o.tripled)
    (hdepth : s.depth = state.depth) (hcontinued : state.continued = false)
    (hreaches : Reaches s line last) : Agree last final := by
  cases h with
  | @closed body rest _ _ hclose hothers =>
    obtain ⟨mode, depth⟩ := s
    obtain rfl : mode = .string o.quote o.tripled 0 := hmode
    have hquote : isQuote o.quote = true := hsound
    have hinside := (ends_of_closeLength (isQuote_ne_break hquote) hrow hclose).2
    have hbehind : Reaches ⟨.code, depth⟩ rest last := by
      unfold OpenString.closeLength? at hclose
      rw [← @List.drop_left _ body rest]
      cases htripled : o.tripled <;> rw [htripled] at hclose hreaches
      · exact plain_closed hquote hclose hreaches
      · exact tripled_closed (.inl rfl) hclose hreaches
    exact agree_scansRest hothers hrow.of_append (hend.of_append hinside)
      (fun hmem => hreturn (List.mem_append_right _ hmem)) (hdepth ▸ follows_of_code hbehind) rfl rfl
      hcontinued
  | broken hopen hmust hends =>
    have hgoes := (goesOn_of_open hrow hend hsound hmode hbound hreaches hopen).2 hmust
    cases hends.symm.trans hgoes
  | goesOn hopen =>
    obtain ⟨rfl, -⟩ := goesOn_of_open hrow hend hsound hmode hbound hreaches hopen
    exact .inside rfl rfl hbound hdepth hcontinued

theorem agree_scansLine (h : ScansLine row line state lexemes final) (hagree : Agree s state)
    (hbegins : BeginsRow s) (hsound : s.IsSound) (hrow : IsRow line) (hend : RowEnds line last)
    (hreturn : '\r' ∉ line) (hreaches : Reaches s line last) : Agree last final := by
  rcases hagree with ⟨hstring, hslash, hclosed, hfree, hdepth, hcontinued⟩ |
    ⟨hopened, hmode, hbound, hdepth, hcontinued⟩
  · have hfollows := hdepth ▸ follows_of_outside hstring hslash hbegins hreaches
    cases h with
    | string hopen => cases hclosed.symm.trans hopen
    | first _ _ hstraight hfirst =>
      exact agree_scansFirst hfirst hrow hend hreturn hfollows hclosed hfree hstraight
    | rest _ _ hrest => exact agree_scansRest hrest hrow hend hreturn hfollows hclosed hfree rfl
  · cases h with
    | string hopen hstring =>
      cases hopened.symm.trans hopen
      exact agree_scansString hstring hrow hend hreturn hsound hmode hbound hdepth hcontinued
        hreaches
    | first hclosed => cases hclosed.symm.trans hopened
    | rest hclosed => cases hclosed.symm.trans hopened

end

-- The lexemes of a row. Only that of a string that is open at its start begins before it.
structure FromRow (row : Nat) (state : ScanState) (lexemes : List Lexeme) : Prop where
  start : ∀ l ∈ lexemes, l.start.line = row ∨ ∃ o ∈ state.openString, l.start = o.start
  stop : ∀ l ∈ lexemes, l.stop.line = row

section

variable {s last : RowState} {state final : ScanState} {row column : Nat}
  {rest line : List Char} {lexemes others : List Lexeme}

theorem fromRow_nil : FromRow row state [] := ⟨by simp, by simp⟩

theorem FromRow.cons {l : Lexeme} (hstart : l.start.line = row) (hstop : l.stop.line = row)
    (h : FromRow row state lexemes) : FromRow row state (l :: lexemes) :=
  ⟨List.forall_mem_cons.mpr ⟨.inl hstart, h.start⟩, List.forall_mem_cons.mpr ⟨hstop, h.stop⟩⟩

theorem FromRow.append (h : FromRow row state lexemes) (hothers : FromRow row state others) :
    FromRow row state (lexemes ++ others) :=
  ⟨List.forall_mem_append.mpr ⟨h.start, hothers.start⟩,
    List.forall_mem_append.mpr ⟨h.stop, hothers.stop⟩⟩

theorem fromRow_scansRest (h : ScansRest row column rest state lexemes final) :
    (∀ other : ScanState, FromRow row other lexemes) ∧
      ∀ o ∈ final.openString, o.start.line = row ∨ o ∈ state.openString := by
  induction h with
  | nothing => exact ⟨fun _ => fromRow_nil, fun o ho => .inr ho⟩
  | joined => exact ⟨fun _ => fromRow_nil, fun o ho => .inr ho⟩
  | opens =>
    refine ⟨fun _ => fromRow_nil, ?_⟩
    rintro o ⟨⟩
    exact .inl rfl
  | newline _ _ _ hmade =>
    subst hmade
    exact ⟨fun _ => fromRow_nil.cons rfl rfl, fun o ho => .inr ho⟩
  | lexeme _ _ _ _ _ hmade _ ih =>
    subst hmade
    exact ⟨fun other => (ih.1 other).cons rfl rfl, ih.2⟩

theorem fromRow_idleLine {blanks : Nat} {body : List Char} :
    FromRow row state (idleLine row blanks body) := by
  unfold idleLine
  simp only
  generalize (if body.head? = some '#' then _ else []) = comment
  split
  · exact .cons rfl rfl fromRow_nil
  · exact .cons rfl rfl (.cons rfl rfl fromRow_nil)

theorem fromRow_indentation {blanks : Nat} {margins margins' : List Nat}
    (h : indentation row column blanks line margins = .ok (lexemes, margins')) :
    FromRow row state lexemes := by
  unfold indentation at h
  split_ifs at h
  · cases h
    exact fromRow_nil.cons rfl rfl
  · cases h
    refine ⟨fun l hl => .inl ?_, fun l hl => ?_⟩
    all_goals rw [(List.mem_replicate.mp hl).2]

-- What a row has, and the strings that are open behind it.
theorem fromRow_scansLine (h : ScansLine row line state lexemes final) :
    FromRow row state lexemes ∧ ∀ o ∈ final.openString, o.start.line = row ∨
      ∃ o' ∈ state.openString, o.start = o'.start := by
  have hinner {o : OpenString} (ho : o.start.line = row ∨ o ∈ state.openString) :
      o.start.line = row ∨ ∃ o' ∈ state.openString, o.start = o'.start :=
    ho.imp_right fun hmem => ⟨o, hmem, rfl⟩
  cases h with
  | @string s _ _ hs hstring =>
    cases hstring with
    | closed _ hothers =>
      obtain ⟨hfrom, hopen⟩ := fromRow_scansRest hothers
      refine ⟨⟨List.forall_mem_cons.mpr ⟨.inr ⟨s, hs, rfl⟩, (hfrom state).start⟩,
        List.forall_mem_cons.mpr ⟨rfl, (hfrom state).stop⟩⟩, fun o ho => .inl ?_⟩
      exact (hopen o ho).resolve_right (by simp)
    | broken => exact ⟨⟨by simpa using .inr ⟨s, hs, rfl⟩, by simp⟩, by simp⟩
    | goesOn =>
      refine ⟨fromRow_nil, ?_⟩
      rintro o ⟨⟩
      exact .inr ⟨s, hs, rfl⟩
  | first _ _ _ hfirst =>
    cases hfirst with
    | blank => exact ⟨fromRow_nil, fun o ho => hinner (.inr ho)⟩
    | idle => exact ⟨fromRow_idleLine, fun o ho => hinner (.inr ho)⟩
    | code _ _ _ hindents hothers =>
      obtain ⟨hfrom, hopen⟩ := fromRow_scansRest hothers
      exact ⟨(fromRow_indentation hindents).append (hfrom state), fun o ho => hinner (hopen o ho)⟩
  | rest _ _ hrest =>
    obtain ⟨hfrom, hopen⟩ := fromRow_scansRest hrest
    exact ⟨hfrom state, fun o ho => hinner (hopen o ho)⟩

-- The lexemes of further rows begin there as well, but for that of the open string.
theorem start_of_scansLines {rows : List (List Char)}
    (h : ScansLines row rows state lexemes final) :
    ∀ l ∈ lexemes, row ≤ l.start.line ∨ ∃ o ∈ state.openString, l.start = o.start := by
  induction h with
  | nil => simp
  | cons _ hfirst _ ih =>
    obtain ⟨hfrom, hopen⟩ := fromRow_scansLine hfirst
    refine List.forall_mem_append.mpr ⟨fun l hl => ?_, fun l hl => ?_⟩
    · exact (hfrom.start l hl).imp_left fun hstart => by omega
    · rcases ih l hl with hlater | ⟨o, ho, hstart⟩
      · exact .inl (by omega)
      · rw [hstart]
        exact (hopen o ho).imp_left fun hrow => by omega

end

section

variable {s middle last : RowState} {state final : ScanState} {row : Nat}
  {rows : List (List Char)} {lexemes : List Lexeme}

theorem Reaches.eq {t : Text} (h : Reaches s t middle) (h' : Reaches s t last) : middle = last := by
  obtain ⟨marks, h⟩ := h
  obtain ⟨marks', h'⟩ := h'
  rw [h] at h'
  cases h'
  rfl

-- A line feed ends no string.
theorem inString_break (hsound : s.IsSound) (hstring : s.InString) (h : Reaches s ['\n'] last) :
    last.InString := by
  obtain ⟨mark, next, hstep, hrest⟩ := reaches_cons.mp h
  rw [reaches_nil.mp hrest]
  obtain ⟨mode, depth⟩ := s
  have hne {quote : Char} (hquote : isQuote quote = true) : '\n' ≠ quote :=
    (isQuote_ne_break hquote).symm
  cases mode with
  | opened quote => simp [RowState.step?, RowState.stringMode?, hne hsound] at hstep
  | string quote tripled quotes =>
    cases tripled with
    | false => simp [RowState.step?, RowState.stringMode?, hne hsound] at hstep
    | true =>
      simp only [RowState.step?, RowState.stringMode?, hne hsound] at hstep
      cases hstep
      trivial
  | escape quote tripled =>
    cases hstep
    trivial
  | _ => cases hstring

-- A string that is open at the start of some rows is found in them if it is closed there.
theorem exists_string_scansLines {o : OpenString} (h : ScansLines row rows state lexemes final)
    (hrows : Rows rows) (hsound : s.IsSound) (hopened : state.openString = some o)
    (hmode : s.mode = .string o.quote o.tripled 0) (hbound : state.mustContinue = !o.tripled)
    (hreaches : Reaches s (rows.flatten ++ ['\n']) last) (hlast : ¬ last.InString)
    (hclosed : final.openString = none) :
    ∃ l ∈ lexemes, l.kind = .string ∧ l.start = o.start ∧ row ≤ l.stop.line := by
  induction h generalizing s o with
  | nil => cases hclosed.symm.trans hopened
  | @cons row line rows state next _ _ _ hrow hfirst hothers ih =>
    obtain ⟨-, hbreak, hrest⟩ := hrows
    rw [List.flatten_cons, List.append_assoc, reaches_append] at hreaches
    obtain ⟨middle, hline, hbehind⟩ := hreaches
    cases hfirst with
    | first hnone => cases hnone.symm.trans hopened
    | rest hnone => cases hnone.symm.trans hopened
    | string hopen hstring =>
      cases hopened.symm.trans hopen
      -- Only the last row may lack its line feed.
      have hnil (hmem : '\n' ∉ line) : rows = [] := by
        by_contra hne
        exact hmem (hbreak hne)
      cases hstring with
      | closed => exact ⟨_, List.mem_cons_self, rfl, rfl, le_rfl⟩
      | broken hclose hmust hends =>
        by_cases hmem : '\n' ∈ line
        · have hgoes := (goesOn_of_open hrow (.inl hmem) hsound hmode hbound hline hclose).2 hmust
          cases hends.symm.trans hgoes
        · obtain rfl := hnil hmem
          rw [hbound, Bool.not_eq_true'] at hmust
          obtain ⟨mode, depth⟩ := s
          obtain rfl : mode = .string o.quote o.tripled 0 := hmode
          rw [hmust] at hline
          rw [OpenString.closeLength?, hmust] at hclose
          exact absurd (inString_break (hline.isSound hsound)
            (plain_unclosed hrow hclose hline) hbehind) hlast
      | goesOn hclose =>
        by_cases hmem : '\n' ∈ line
        · obtain ⟨rfl, -⟩ := goesOn_of_open hrow (.inl hmem) hsound hmode hbound hline hclose
          obtain ⟨l, hl, hkind, hstart, hstop⟩ := ih (o := { o with text := o.text ++ line }) hrest
            (hline.isSound hsound) rfl rfl hbound hbehind hclosed
          exact ⟨l, hl, hkind, hstart, by omega⟩
        · obtain rfl := hnil hmem
          cases hothers
          cases hclosed

theorem isProtected_append {others : List Lexeme} {n : Nat} :
    isProtected (lexemes ++ others) n = (isProtected lexemes n || isProtected others n) :=
  List.any_append

theorem isProtected_iff {n : Nat} : isProtected lexemes n = true ↔
    ∃ l ∈ lexemes, l.kind = .string ∧ l.start.line < n ∧ n ≤ l.stop.line := by
  simp [isProtected, and_assoc]

-- Whether a string goes on in the first of some rows.
theorem isProtected_first (h : ScansLines row rows state lexemes final) (hagree : Agree s state)
    (hsound : s.IsSound) (hrows : Rows rows) (hbefore : ∀ o ∈ state.openString, o.start.line < row)
    (hreaches : Reaches s (rows.flatten ++ ['\n']) last) (hlast : ¬ last.InString)
    (hclosed : final.openString = none) : isProtected lexemes row = true ↔ s.InString := by
  rw [isProtected_iff]
  constructor
  · rintro ⟨l, hl, -, hstart, -⟩
    rcases start_of_scansLines h l hl with hlater | ⟨o, ho, -⟩
    · omega
    · rcases hagree with ⟨-, -, hnone, -⟩ | ⟨-, hmode, -⟩
      · rw [hnone] at ho
        cases ho
      · simp [RowState.InString, hmode]
  · intro hstring
    rcases hagree with ⟨hnone, -⟩ | ⟨hopened, hmode, hbound⟩
    · exact absurd hstring hnone
    · obtain ⟨l, hl, hkind, hstart, hstop⟩ := exists_string_scansLines h hrows hsound hopened hmode
        hbound hreaches hlast hclosed
      refine ⟨l, hl, hkind, ?_, hstop⟩
      rw [hstart]
      exact hbefore _ hopened

-- The rows that a string goes on in, by the lexemes of the rows and by the mode of the reader.
theorem isProtected_scansLines (h : ScansLines row rows state lexemes final)
    (hagree : Agree s state) (hbegins : BeginsRow s) (hsound : s.IsSound) (hrows : Rows rows)
    (hreturn : ∀ line ∈ rows, '\r' ∉ line) (hbefore : ∀ o ∈ state.openString, o.start.line < row)
    (hreaches : Reaches s (rows.flatten ++ ['\n']) last) (hlast : ¬ last.InString)
    (hclosed : final.openString = none) {n : Nat} (hn : n < rows.length)
    (hmiddle : Reaches s (rows.take n).flatten middle) :
    isProtected lexemes (row + n) = true ↔ middle.InString := by
  induction h generalizing s n with
  | nil => exact absurd hn (Nat.not_lt_zero n)
  | @cons row line rows _ _ _ here _ hrow hfirst hothers ih =>
    cases n with
    | zero =>
      obtain rfl : middle = s := reaches_nil.mp hmiddle
      exact isProtected_first (.cons hrow hfirst hothers) hagree hsound hrows hbefore hreaches hlast
        hclosed
    | succ n =>
      obtain ⟨-, hbreak, hrest⟩ := hrows
      have hmem : '\n' ∈ line := hbreak fun hnil => by simp [hnil] at hn
      rw [List.forall_mem_cons] at hreturn
      rw [List.flatten_cons, List.append_assoc, reaches_append] at hreaches
      obtain ⟨next, hline, hbehind⟩ := hreaches
      rw [List.take_succ_cons, List.flatten_cons, reaches_append] at hmiddle
      obtain ⟨next', hline', hmiddle⟩ := hmiddle
      obtain rfl := hline.eq hline'
      obtain ⟨hfrom, hopen⟩ := fromRow_scansLine hfirst
      have hnone : isProtected here (row + (n + 1)) = false := by
        rw [← Bool.not_eq_true, isProtected_iff]
        rintro ⟨l, hl, -, -, hstop⟩
        rw [hfrom.stop l hl] at hstop
        omega
      rw [isProtected_append, hnone, Bool.false_or, Nat.add_comm n 1, ← Nat.add_assoc]
      refine ih
        (agree_scansLine hfirst hagree hbegins hsound hrow (.inl hmem) hreturn.1 hline)
        (beginsRow_of_row hsound hrow hmem hline) (hline.isSound hsound) hrest hreturn.2
        (fun o ho => ?_) hbehind hclosed (Nat.lt_of_succ_lt_succ hn) hmiddle
      rcases hopen o ho with hstart | ⟨o', ho', hstart⟩
      · omega
      · have := hbefore o' ho'
        rw [hstart]
        omega

theorem not_mem_of_mem_lines {c : Char} {code line : Text} (h : c ∉ code)
    (hline : line ∈ lines code) : c ∉ line := by
  intro hmem
  rw [← lines_flatten code] at h
  exact h (List.mem_flatten.mpr ⟨line, hline, hmem⟩)

theorem lines_append_break (a b : Text) :
    ∃ before, lines (a ++ '\n' :: b) = before ++ lines b ∧ before.length = a.count '\n' + 1 ∧
      before.flatten = a ++ ['\n'] := by
  have hrows : ∃ before, lines (a ++ '\n' :: b) = before ++ lines b ∧
      before.length = a.count '\n' + 1 := by
    induction a with
    | nil => exact ⟨[['\n']], by simp [lines], rfl⟩
    | cons c a ih =>
      obtain ⟨before, hlines, hlength⟩ := ih
      rw [List.cons_append, lines, hlines]
      split_ifs with hc
      · exact ⟨[c] :: before, rfl, by simp [hc, hlength]⟩
      · obtain ⟨first, others, rfl⟩ := List.exists_cons_of_length_eq_add_one hlength
        exact ⟨(c :: first) :: others, rfl, by simpa [List.count_cons_of_ne hc] using hlength⟩
  obtain ⟨before, hlines, hlength⟩ := hrows
  refine ⟨before, hlines, hlength, (List.append_left_inj b).mp ?_⟩
  have hflat := lines_flatten (a ++ '\n' :: b)
  rw [hlines, List.flatten_append, lines_flatten] at hflat
  simpa using hflat

-- The row behind a line feed is protected just if the reader is inside a string there.
theorem isProtected_iff_inString {code a b : Text} (h : scan code = .ok lexemes)
    (hreturn : '\r' ∉ code) (hread : Reaches .start (code ++ ['\n']) .start)
    (hcode : code = a ++ '\n' :: b) (hb : b ≠ []) (hmiddle : Reaches .start (a ++ ['\n']) middle) :
    isProtected lexemes (a.count '\n' + 2) = true ↔ middle.InString := by
  obtain ⟨before, hlines, hlength, hflat⟩ := lines_append_break a b
  rw [← hcode] at hlines
  have hmore : lines b ≠ [] := fun hnil => hb (by rw [← lines_flatten b, hnil]; rfl)
  obtain ⟨found, final, rows, row, hscans, hclosed, -, -, rfl⟩ := scansLines_of_scan h
  have hclosing {n : Nat} {row : List Char} {margins : List Nat} :
      isProtected (closing n row margins) (a.count '\n' + 2) = false := by
    rw [← Bool.not_eq_true, isProtected_iff]
    rintro ⟨l, hl, hkind, -⟩
    exact closing_not_string l hl hkind
  rw [isProtected_append, hclosing, Bool.or_false, show a.count '\n' + 2 = 1 + before.length by omega]
  refine isProtected_scansLines hscans agree_start beginsRow_start RowState.start_isSound
    (rows_lines code) (fun _ hline => not_mem_of_mem_lines hreturn hline) (fun _ ho => by cases ho)
    (by rwa [lines_flatten]) id hclosed ?_ ?_
  · rw [hlines, List.length_append]
    have := List.length_pos_of_ne_nil hmore
    omega
  · rwa [hlines, List.take_left, hflat]

end

end Ghostwriter.Grammar

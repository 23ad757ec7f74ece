import Ghostwriter.Proofs.Lexeme.RowEnd
import Ghostwriter.Proofs.Lexeme.Tiled
import Ghostwriter.Proofs.Text.Breaks

/-!
A text with a carriage return before each line feed has the lexemes of the text without them, in the
same places. Only the lexemes that hold the end of a row have that end in its other form.
-/

namespace Ghostwriter.Lexeme

open Ghostwriter.Splice Ghostwriter.Text

-- The lexeme in the text with a carriage return before each line feed.
def returned (l : Lexeme) : Lexeme :=
  { l with
    text := withReturns l.text
    stop := if l.text.getLast? = some '\n' then ⟨l.stop.line, l.stop.column + 1⟩ else l.stop }

def OpenString.returned (s : OpenString) : OpenString := { s with text := withReturns s.text }

def ScanState.returned (state : ScanState) : ScanState :=
  { state with openString := state.openString.map OpenString.returned }

-- What a scan gives, in the text with a carriage return before each line feed.
def returnedScan (scanned : List Lexeme × ScanState) : List Lexeme × ScanState :=
  (scanned.1.map returned, scanned.2.returned)

section

variable {l : Lexeme} {t u : Text}

theorem returned_of_getLast (h : l.text.getLast? ≠ some '\n') :
    l.returned = { l with text := withReturns l.text } := by
  rw [returned, if_neg h]

theorem returned_of_not_mem (h : '\n' ∉ l.text) : l.returned = l := by
  rw [returned_of_getLast (getLast_of_not_mem h), withReturns_of_not_mem h]

theorem map_returned {lexemes : List Lexeme} (h : ∀ l ∈ lexemes, '\n' ∉ l.text) :
    lexemes.map returned = lexemes :=
  (List.map_congr_left fun l hl => returned_of_not_mem (h l hl)).trans (List.map_id lexemes)

theorem isOperator_returned (l : Lexeme) (h : '\n' ∉ t) :
    l.returned.isOperator t = l.isOperator t := by
  have htext : (withReturns l.text == t) = (l.text == t) := by
    rw [Bool.eq_iff_iff, beq_iff_eq, beq_iff_eq, withReturns_eq_iff h]
  rw [isOperator, isOperator, returned, htext]

theorem closes_returned (l : Lexeme) : l.returned.closes = l.closes := by
  simp [closes, isOperator_returned]

theorem depthChange_returned (l : Lexeme) : l.returned.depthChange = l.depthChange := by
  simp [depthChange, opens, closes, isOperator_returned]

end

section

variable {t u rest : Text} {n blanks : Nat} {kind : LexemeKind}

theorem Piece.returned_lexeme (h : kind ≠ .newline) :
    (Piece.lexeme blanks n kind).returned = .lexeme blanks n kind := by
  cases kind with
  | newline => exact absurd rfl h
  | _ => rfl

theorem take_withReturns (h : Within n t) : (withReturns t).take n = t.take n := by
  induction t generalizing n with
  | nil => rfl
  | cons c t ih =>
    cases n with
    | zero => rfl
    | succ n =>
      rw [Within, List.take_succ_cons, List.mem_cons, not_or] at h
      rw [withReturns_cons t (Ne.symm h.1), List.take_succ_cons, List.take_succ_cons, ih h.2]

theorem drop_withReturns (h : Within n t) : (withReturns t).drop n = withReturns (t.drop n) := by
  induction t generalizing n with
  | nil => simp
  | cons c t ih =>
    cases n with
    | zero => rfl
    | succ n =>
      rw [Within, List.take_succ_cons, List.mem_cons, not_or] at h
      rw [withReturns_cons t (Ne.symm h.1), List.drop_succ_cons, List.drop_succ_cons, ih h.2]

theorem Endless.withReturns (h : Endless u) : withReturns (u ++ ['\n']) = u ++ ['\r', '\n'] := by
  rw [withReturns_append, withReturns_of_not_mem fun hmem => h _ hmem (.inr rfl)]
  rfl

theorem row_cases (hrow : IsRow t) (hreturn : '\r' ∉ t) :
    '\n' ∉ t ∨ ∃ u, Endless u ∧ t = u ++ ['\n'] := by
  rcases List.eq_nil_or_concat t with rfl | ⟨u, c, rfl⟩
  · exact .inl List.not_mem_nil
  rw [List.concat_eq_append] at hrow hreturn ⊢
  rw [IsRow, List.dropLast_concat] at hrow
  rw [List.mem_append, not_or] at hreturn
  by_cases hc : c = '\n'
  · subst hc
    refine .inr ⟨u, fun d hd => ?_, rfl⟩
    rintro (rfl | rfl)
    · exact hreturn.1 hd
    · exact hrow hd
  · exact .inl (by simpa [hrow] using Ne.symm hc)

theorem isRow_withReturns (hrow : IsRow t) (hreturn : '\r' ∉ t) : IsRow (withReturns t) := by
  rcases row_cases hrow hreturn with hfeed | ⟨u, hu, rfl⟩
  · rwa [withReturns_of_not_mem hfeed]
  · have hsplit : u ++ ['\r', '\n'] = u ++ ['\r'] ++ ['\n'] := by simp
    rw [hu.withReturns, hsplit, IsRow, List.dropLast_concat, List.mem_append, not_or]
    exact ⟨fun hmem => hu _ hmem (.inr rfl), by decide⟩

theorem withReturns_gaps (h : ∀ c ∈ t, isGap c = true) (u : Text) :
    withReturns (t ++ u) = t ++ withReturns u := by
  rw [withReturns_append, withReturns_of_not_mem fun hmem => by cases h _ hmem]

theorem breaksFirst_withReturns (h : BreaksFirst t) : BreaksFirst (withReturns t) := by
  cases t with
  | nil => exact h
  | cons c t =>
    by_cases hc : c = '\n'
    · rw [hc, withReturns_newline]
      rintro d ⟨⟩
      exact .inl rfl
    · rw [withReturns_cons t hc]
      exact h

theorem piece_withReturns (hrow : IsRow rest) (hreturn : '\r' ∉ rest) :
    piece (withReturns rest) = (piece rest).returned := by
  rcases row_cases hrow hreturn with hfeed | ⟨u, hu, rfl⟩
  · rw [withReturns_of_not_mem hfeed]
    cases hpiece : piece rest with
    | lexeme blanks n kind =>
      refine (Piece.returned_lexeme ?_).symm
      rintro rfl
      obtain ⟨gaps, text, behind, rfl, -, -, -, hnewline⟩ := piece_split hrow hpiece
      rcases hnewline with ⟨-, hbreak, -⟩ | ⟨hknown, -⟩
      · exact hfeed (List.mem_append_right _
          (List.mem_append_left _ (List.mem_of_getLast? hbreak.getLast)))
      · exact ne_newline_of_known hknown rfl
    | _ => rfl
  · rw [hu.withReturns, piece_returned hu]

end

section

variable {row fuel fuel' column : Nat} {rest line : Text} {state final : ScanState}
  {s : OpenString} {lexemes : List Lexeme}

theorem scansRest_withReturns (h : ScansRest row column rest state lexemes final)
    (hrow : IsRow rest) (hreturn : '\r' ∉ rest) :
    ScansRest row column (withReturns rest) state.returned (lexemes.map returned) final.returned := by
  have hpiece' := piece_withReturns hrow hreturn
  have hrow' := isRow_withReturns hrow hreturn
  induction h with
  | nothing hpiece =>
    rw [hpiece] at hpiece'
    exact .nothing hpiece'
  | joined hpiece hgaps hwhole =>
    obtain rfl := hwhole.eq_newline fun hmem => hreturn (by simp [hmem])
    rw [hpiece, withReturns_gaps hgaps] at hpiece'
    rw [withReturns_gaps hgaps]
    exact .joined hpiece' hgaps (.inr rfl)
  | opens _ hpiece hgaps =>
    rw [hpiece, withReturns_gaps hgaps] at hpiece'
    rw [withReturns_gaps hgaps] at hrow' ⊢
    exact .opens hrow' hpiece' hgaps
  | @newline column gaps text state l hpiece hgaps hwhole hmade =>
    obtain rfl := hwhole.eq_newline fun hmem => hreturn (by simp [hmem])
    rw [hpiece, withReturns_gaps hgaps] at hpiece'
    rw [withReturns_gaps hgaps]
    exact .newline hpiece' hgaps (.inr rfl) (by rw [hmade]; rfl)
  | @lexeme column gaps text behind kind state final l lexemes _ hpiece hgaps hknown hinside hmade _
      ih =>
    have hends : withReturns (gaps ++ (text ++ behind)) =
        gaps ++ (text ++ withReturns behind) := by
      rw [← List.append_assoc, withReturns_append, withReturns_of_not_mem hinside,
        List.append_assoc]
    rw [hpiece, Piece.returned_lexeme (ne_newline_of_known hknown), hends] at hpiece'
    rw [hends] at hrow' ⊢
    simp only [List.mem_append, not_or] at hreturn hinside
    have hsame : l.returned = l := returned_of_not_mem (by simpa [hmade] using hinside.2)
    have hbehind := ih hrow.of_append.of_append hreturn.2.2
      (piece_withReturns hrow.of_append.of_append hreturn.2.2) hrow'.of_append.of_append
    rw [List.map_cons, hsame]
    exact .lexeme hrow' hpiece' hgaps (hknown.imp_right fun h => ⟨h.1, breaksFirst_withReturns h.2⟩)
      (by simp [hinside]) hmade hbehind

theorem scanRest_withReturns (hrow : IsRow rest) (hreturn : '\r' ∉ rest)
    (hfuel : rest.length ≤ fuel) (hfuel' : (withReturns rest).length ≤ fuel') :
    scanRest row fuel' column (withReturns rest) state.returned =
      returnedScan (scanRest row fuel column rest state) :=
  (scansRest_withReturns (scansRest_scanRest hrow hfuel) hrow hreturn).eq hfuel'

theorem endsContinued_withReturns (hrow : IsRow line) (hreturn : '\r' ∉ line) :
    endsContinued (withReturns line) = endsContinued line := by
  rcases row_cases hrow hreturn with hfeed | ⟨u, hu, rfl⟩
  · rw [withReturns_of_not_mem hfeed]
  · rw [hu.withReturns]
    cases hreverse : u.reverse with
    | nil => simp [endsContinued, List.isSuffixOf, List.isPrefixOf, hreverse]
    | cons c w =>
      have hc : c ≠ '\r' := fun h => hu c (List.mem_reverse.mp (by simp [hreverse])) (.inl h)
      simp [endsContinued, List.isSuffixOf, List.isPrefixOf, hreverse, hc.symm]

theorem closeLength_withReturns (hrow : IsRow line) (hreturn : '\r' ∉ line)
    (hquote : isQuote s.quote = true) :
    s.returned.closeLength? (withReturns line) = s.closeLength? line := by
  rcases row_cases hrow hreturn with hfeed | ⟨u, hu, rfl⟩
  · rw [withReturns_of_not_mem hfeed]
    rfl
  · rw [hu.withReturns]
    unfold OpenString.closeLength?
    rw [← closeTripleLength?_returned hquote hu, ← closeLength?_returned hquote hu]
    rfl

theorem scansString_withReturns (h : ScansString row s state line lexemes final)
    (hrow : IsRow line) (hreturn : '\r' ∉ line) (hne : line ≠ []) (hquote : isQuote s.quote = true) :
    ScansString row s.returned state.returned (withReturns line) (lexemes.map returned)
      final.returned := by
  have hsame := closeLength_withReturns hrow hreturn hquote
  have hends := endsContinued_withReturns hrow hreturn
  cases h with
  | @closed body rest lexemes _ hclose hothers =>
    obtain ⟨hends, hinside⟩ := ends_of_closeLength (isQuote_ne_break hquote) hrow hclose
    have hreturns : withReturns (body ++ rest) = body ++ withReturns rest := by
      rw [withReturns_append, withReturns_of_not_mem hinside]
    have hlexeme : returned ⟨.string, s.text ++ body, s.start, ⟨row, body.length⟩⟩ =
        ⟨.string, withReturns s.text ++ body, s.start, ⟨row, body.length⟩⟩ := by
      rw [returned_of_getLast, withReturns_append, withReturns_of_not_mem hinside]
      rw [List.getLast?_append_of_ne_nil _ hends.ne_nil]
      exact getLast_of_not_mem hinside
    rw [hclose, hreturns] at hsame
    rw [hreturns, List.map_cons, hlexeme]
    exact .closed hsame (scansRest_withReturns hothers hrow.of_append
      fun hmem => hreturn (List.mem_append_right _ hmem))
  | broken hclose hmust hbroken =>
    have hstray : returned ⟨.stray, s.text ++ line, s.start, ⟨row, line.length⟩⟩ =
        ⟨.stray, withReturns s.text ++ withReturns line, s.start,
          ⟨row, (withReturns line).length⟩⟩ := by
      rw [returned, withReturns_append, List.getLast?_append_of_ne_nil _ hne]
      rcases row_cases hrow hreturn with hfeed | ⟨u, hu, rfl⟩
      · rw [if_neg (getLast_of_not_mem hfeed), withReturns_of_not_mem hfeed]
      · rw [if_pos (by simp), hu.withReturns]
        simp
    rw [List.map_singleton, hstray]
    exact .broken (hsame.trans hclose) hmust (hends.trans hbroken)
  | goesOn hclose hwhole =>
    have hopen : ScanState.returned { state with
        openString := some { s with text := s.text ++ line } } = { state.returned with
        openString := some { s.returned with text := s.returned.text ++ withReturns line } } := by
      simp [ScanState.returned, OpenString.returned, withReturns_append]
    rw [List.map_nil, hopen]
    exact .goesOn (hsame.trans hclose) fun hmust => hends.trans (hwhole hmust)

theorem scanString_withReturns (hrow : IsRow line) (hreturn : '\r' ∉ line) (hne : line ≠ [])
    (hquote : isQuote s.quote = true) :
    scanString row (withReturns line) s.returned state.returned =
      returnedScan (scanString row line s state) := by
  have hscans : ScansString row s state line (scanString row line s state).1
      (scanString row line s state).2 := scansString_of_eq hrow rfl
  exact (scansString_withReturns hscans hrow hreturn hne hquote).eq

theorem leadingColumn_withReturns (column : Nat) (t : Text) :
    leadingColumn column (withReturns t) = leadingColumn column t := by
  fun_induction leadingColumn column t with
  | case1 => simp [withReturns_cons, leadingColumn, *]
  | case2 => simp [withReturns_cons, leadingColumn, *]
  | case3 => simp [withReturns_cons, leadingColumn, *]
  | case4 t column hblank htab hfeed =>
    cases t with
    | nil => rfl
    | cons c t =>
      by_cases hc : c = '\n'
      · rw [hc, withReturns_newline]
        rfl
      · have hne {d : Char} (h : ∀ rest, c :: t = d :: rest → False) (rest : Text) :
            c :: withReturns t = d :: rest → False :=
          fun heq => h t (by rw [(List.cons.inj heq).1])
        rw [withReturns_cons t hc]
        exact leadingColumn.eq_4 _ _ (hne hblank) (hne htab) (hne hfeed)

theorem idleLine_comment {comment ended : Text} (blanks : Nat) (hhead : comment.head? = some '#')
    (hlast : ∀ c ∈ comment.getLast?, ¬ IsEnd c) (hended : ∀ c ∈ ended, IsEnd c) :
    idleLine row blanks (comment ++ ended) =
      [⟨.comment, comment, ⟨row, blanks⟩, ⟨row, blanks + comment.length⟩⟩,
        ⟨.lineBreak, ended, ⟨row, blanks + comment.length⟩,
          ⟨row, blanks + comment.length + ended.length⟩⟩] := by
  have hkept : dropRightWhile (fun c => c = '\r' || c = '\n') (comment ++ ended) = comment := by
    induction ended using List.reverseRecOn with
    | nil =>
      rw [List.append_nil]
      refine dropRightWhile_of_getLast? fun c hc => ?_
      have hc := hlast c hc
      rw [IsEnd, not_or] at hc
      simp [hc]
    | append_singleton ended c ih =>
      rw [List.forall_mem_append] at hended
      have hc : IsEnd c := hended.2 c List.mem_cons_self
      rw [← List.append_assoc, dropRightWhile_concat _ (by simpa [IsEnd] using hc), ih hended.1]
  obtain ⟨comment, rfl⟩ := List.head?_eq_some_iff.mp hhead
  unfold idleLine
  simp only [List.cons_append, List.head?_cons, if_true] at hkept ⊢
  rw [hkept, ← List.cons_append, List.drop_left]
  rfl

theorem idleLine_bare {body : Text} (blanks : Nat) (hhead : body.head? ≠ some '#') :
    idleLine row blanks body =
      [⟨.lineBreak, body, ⟨row, blanks⟩, ⟨row, blanks + body.length⟩⟩] := by
  simp [idleLine, hhead]

theorem idleLine_returned {u : Text} (blanks : Nat) (hu : Endless u) :
    idleLine row blanks (u ++ ['\r', '\n']) = (idleLine row blanks (u ++ ['\n'])).map returned := by
  have hinside : '\n' ∉ u := fun hmem => hu _ hmem (.inr rfl)
  by_cases hhead : u.head? = some '#'
  · have hlast : ∀ c ∈ u.getLast?, ¬ IsEnd c := fun c hc => hu c (List.mem_of_getLast? hc)
    rw [idleLine_comment blanks hhead hlast (by simp [IsEnd]),
      idleLine_comment blanks hhead hlast (by simp [IsEnd]), List.map_cons,
      returned_of_not_mem hinside]
    rfl
  · have hbare (ended : Text) (hne : ended.head? ≠ some '#') :
        (u ++ ended).head? ≠ some '#' := by
      cases u with
      | nil => exact hne
      | cons c u => exact hhead
    rw [idleLine_bare blanks (hbare _ (by decide)), idleLine_bare blanks (hbare _ (by decide)),
      List.map_singleton, returned, hu.withReturns, if_pos (by simp)]
    simp [Nat.add_assoc]

theorem idleLine_withReturns (blanks : Nat) (hrow : IsRow rest) (hreturn : '\r' ∉ rest) :
    idleLine row blanks (withReturns rest) = (idleLine row blanks rest).map returned := by
  rcases row_cases hrow hreturn with hfeed | ⟨u, hu, rfl⟩
  · rw [withReturns_of_not_mem hfeed]
    obtain ⟨comment, ended, rfl, -, hidle⟩ := idleLine_split row blanks hrow
    rw [List.mem_append, not_or] at hfeed
    refine (map_returned fun l hl => ?_).symm
    rw [hidle, List.mem_append, List.mem_singleton] at hl
    rcases hl with hl | rfl
    · split at hl
      · cases hl
      · rw [List.mem_singleton.mp hl]
        exact hfeed.1
    · exact hfeed.2
  · rw [hu.withReturns, idleLine_returned blanks hu]

theorem indentation_withReturns {blanks : Nat} (hwithin : Within blanks line)
    (margins : List Nat) :
    indentation row column blanks (withReturns line) margins =
      (indentation row column blanks line margins).map fun i => (i.1.map returned, i.2) := by
  have hindent : returned ⟨.indent, line.take blanks, ⟨row, 0⟩, ⟨row, blanks⟩⟩ =
      ⟨.indent, line.take blanks, ⟨row, 0⟩, ⟨row, blanks⟩⟩ := returned_of_not_mem hwithin
  have hdedent : returned ⟨.dedent, [], ⟨row, blanks⟩, ⟨row, blanks⟩⟩ =
      ⟨.dedent, [], ⟨row, blanks⟩, ⟨row, blanks⟩⟩ := rfl
  unfold indentation
  rw [take_withReturns hwithin]
  split
  · simp only [Except.map, List.map_singleton, hindent]
  · split
    · simp only [Except.map, List.map_replicate, hdedent]
    · rfl

theorem scanFirst_withReturns (hrow : IsRow line) (hreturn : '\r' ∉ line) :
    scanFirst row (withReturns line) state.returned =
      (scanFirst row line state).map returnedScan := by
  have hwithin := leadingColumn_within 0 line
  unfold scanFirst
  simp only [leadingColumn_withReturns, drop_withReturns hwithin]
  generalize (leadingColumn 0 line).1 = column, (leadingColumn 0 line).2 = blanks at hwithin ⊢
  have hreturn' : '\r' ∉ line.drop blanks := fun h => hreturn (List.mem_of_mem_drop h)
  have hrow' := hrow.drop blanks
  cases hbody : line.drop blanks with
  | nil => rfl
  | cons c body =>
    rw [hbody] at hreturn' hrow'
    -- The first character is another one only where it is the end of the row.
    obtain ⟨d, rest, hends, hidle⟩ : ∃ d rest, withReturns (c :: body) = d :: rest ∧
        (d = '#' || d = '\r' || d = '\n') = (c = '#' || c = '\r' || c = '\n') := by
      by_cases hc : c = '\n'
      · exact ⟨_, _, by rw [withReturns, if_pos hc], by simp [hc]⟩
      · exact ⟨_, _, by rw [withReturns, if_neg hc], rfl⟩
    simp only [hends, hidle]
    split
    · rw [← hends, idleLine_withReturns blanks hrow' hreturn']
      rfl
    · have hmargins : state.returned.margins = state.margins := rfl
      rw [indentation_withReturns hwithin, hmargins]
      cases indentation row column blanks line state.margins with
      | error e => rfl
      | ok margin =>
        obtain ⟨margin, margins⟩ := margin
        have hfuel : (c :: body).length ≤ line.length := by
          rw [← hbody, List.length_drop]
          omega
        have hfuel' : (withReturns (c :: body)).length ≤ (withReturns line).length := by
          rw [← hbody, ← drop_withReturns hwithin, List.length_drop]
          omega
        have hrest := @scanRest_withReturns row line.length (withReturns line).length blanks
          (c :: body) { state with margins := margins } hrow' hreturn' hfuel hfuel'
        rw [hends] at hrest
        simp only [Except.map, returnedScan, List.map_append]
        exact congrArg Except.ok (congrArg (fun scanned : List Lexeme × ScanState =>
          (margin.map returned ++ scanned.1, scanned.2)) hrest)

theorem scanLine_withReturns (hopened : Opened row state) (hrow : IsRow line)
    (hreturn : '\r' ∉ line) (hne : line ≠ []) :
    scanLine row (withReturns line) state.returned = (scanLine row line state).map returnedScan := by
  unfold scanLine
  cases hopen : state.openString with
  | some s =>
    have hopen' : state.returned.openString = some s.returned := by
      rw [ScanState.returned, hopen, Option.map_some]
    rw [hopen']
    exact congrArg Except.ok (scanString_withReturns hrow hreturn hne (hopened s hopen).2)
  | none =>
    have hopen' : state.returned.openString = none := by
      rw [ScanState.returned, hopen, Option.map_none]
    rw [hopen']
    simp only
    have hsame : state.returned.depth = state.depth ∧
        state.returned.continued = state.continued := ⟨rfl, rfl⟩
    rw [hsame.1, hsame.2]
    split
    · exact scanFirst_withReturns hrow hreturn
    · exact congrArg Except.ok (@scanRest_withReturns row line.length (withReturns line).length 0 line
        { state with continued := false, openString := none } hrow hreturn le_rfl le_rfl)

-- A row of a text without carriage returns.
structure PlainRow (line : Text) : Prop where
  whole : IsRow line
  plain : '\r' ∉ line
  nonempty : line ≠ []

theorem scanLines_withReturns {rows : List Text} (hrows : ∀ line ∈ rows, PlainRow line)
    (hopened : Opened row state) :
    scanLines row (rows.map withReturns) state.returned =
      (scanLines row rows state).map returnedScan := by
  induction rows generalizing row state with
  | nil => rfl
  | cons line rows ih =>
    rw [List.forall_mem_cons] at hrows
    obtain ⟨hrow, hreturn, hne⟩ := hrows.1
    rw [List.map_cons, scanLines, scanLines, scanLine_withReturns hopened hrow hreturn hne]
    cases hline : scanLine row line state with
    | error e => rfl
    | ok scanned =>
      obtain ⟨lexemes, next⟩ := scanned
      have hrest := ih hrows.2 ((scansLine_of_eq hrow hline).opened hopened)
      simp only [Except.map, returnedScan]
      rw [hrest]
      cases scanLines (row + 1) rows next with
      | error e => rfl
      | ok scanned => simp only [Except.map, returnedScan, List.map_append]

theorem lacksBreak_withReturns (hrow : IsRow line) (hreturn : '\r' ∉ line) :
    lacksBreak (withReturns line) = lacksBreak line := by
  rcases row_cases hrow hreturn with hfeed | ⟨u, hu, rfl⟩
  · rw [withReturns_of_not_mem hfeed]
  · rw [hu.withReturns]
    simp [lacksBreak]

-- What stands at the end is not written.
theorem text_of_mem_closing {rows : Nat} {margins : List Nat} {l : Lexeme}
    (h : l ∈ closing rows line margins) : l.text = [] := by
  unfold closing at h
  rw [List.mem_append, List.mem_append, List.mem_singleton] at h
  rcases h with (h | h) | rfl
  · split_ifs at h
    · rw [List.mem_singleton.mp h]
    · cases h
  · rw [(List.mem_replicate.mp h).2]
  · rfl

theorem closing_withReturns (rows : Nat) (margins : List Nat) (hrow : IsRow line)
    (hreturn : '\r' ∉ line) :
    closing rows (withReturns line) margins = (closing rows line margins).map returned := by
  have htexts : ∀ l ∈ closing rows line margins, '\n' ∉ l.text := by
    intro l hl
    rw [text_of_mem_closing hl]
    exact List.not_mem_nil
  rw [map_returned htexts]
  unfold closing
  rw [lacksBreak_withReturns hrow hreturn]
  split
  · rename_i hlacks
    rcases row_cases hrow hreturn with hfeed | ⟨u, hu, rfl⟩
    · rw [withReturns_of_not_mem hfeed]
    · simp [lacksBreak] at hlacks
  · rfl

end

section

variable {t : Text}

theorem nil_not_mem_lines (t : Text) : [] ∉ lines t := by
  induction t with
  | nil => exact List.not_mem_nil
  | cons c t ih =>
    rw [lines]
    split
    · simpa using ih
    · cases hlines : lines t with
      | nil => simp
      | cons first others =>
        rw [hlines, List.mem_cons, not_or] at ih
        simpa using ih.2

theorem plainRow_of_mem_lines (hreturn : '\r' ∉ t) : ∀ line ∈ lines t, PlainRow line := by
  refine fun line hline => ⟨(rows_lines t).isRow line hline, fun hmem => hreturn ?_, ?_⟩
  · rw [← lines_flatten t]
    exact List.mem_flatten_of_mem hline hmem
  · rintro rfl
    exact nil_not_mem_lines t hline

-- The scan of the text with carriage returns.
theorem scan_withReturns (hreturn : '\r' ∉ t) :
    scan (withReturns t) = (scan t).map (List.map returned) := by
  have hrows := plainRow_of_mem_lines hreturn
  have hlines := @scanLines_withReturns 1 ScanState.start _ hrows (fun s hs => by cases hs)
  have hstart : ScanState.start.returned = ScanState.start := rfl
  rw [hstart] at hlines
  unfold scan
  simp only [lines_withReturns]
  rw [hlines]
  cases scanLines 1 (lines t) ScanState.start with
  | error e => rfl
  | ok scanned =>
    obtain ⟨lexemes, state⟩ := scanned
    have hsame : state.returned.depth = state.depth ∧ state.returned.continued = state.continued ∧
        state.returned.ended = state.ended ∧ state.returned.margins = state.margins :=
      ⟨rfl, rfl, rfl, rfl⟩
    simp only [Except.map, returnedScan, List.length_map, hsame]
    cases hopen : state.openString with
    | some s =>
      rw [ScanState.returned, hopen]
      rfl
    | none =>
      rw [ScanState.returned, hopen]
      simp only [Option.map_none]
      split
      · rfl
      · have hkept : (if state.ended then ((lines t).map withReturns).dropLast
            else (lines t).map withReturns) =
            (if state.ended then (lines t).dropLast else lines t).map withReturns := by
          split
          · exact List.map_dropLast.symm
          · rfl
        have hlast : ∀ line ∈ (if state.ended then (lines t).dropLast else lines t).getLast?,
            PlainRow line := by
          intro line hline
          have hmem := List.mem_of_getLast? hline
          split at hmem
          · exact hrows line (List.mem_of_mem_dropLast hmem)
          · exact hrows line hmem
        rw [hkept]
        generalize (if state.ended then (lines t).dropLast else lines t) = kept at hlast ⊢
        have hend : (kept.map withReturns).getLastD [] = withReturns (kept.getLastD []) :=
          @List.getLastD_map _ _ withReturns kept []
        have hplain : IsRow (kept.getLastD []) ∧ '\r' ∉ kept.getLastD [] := by
          rw [List.getLastD_eq_getLast?]
          cases hkept : kept.getLast? with
          | none => simp [IsRow]
          | some line => exact ⟨(hlast line hkept).whole, (hlast line hkept).plain⟩
        rw [hend, List.length_map, closing_withReturns _ _ hplain.1 hplain.2]
        simp only [List.map_append]

end

end Ghostwriter.Lexeme

import Ghostwriter.Proofs.Lexeme.Taken

/-!
The runs of the scanner. What each of its functions can do is said here once, by a relation with one
case for each way to go on, so that what a scan preserves is shown by induction over its run.
-/

namespace Ghostwriter.Lexeme

open Ghostwriter.Text

-- The rest of a row from `column` on, lexeme by lexeme.
inductive ScansRest (row : Nat) : Nat → Text → ScanState → List Lexeme → ScanState → Prop
  | nothing {column : Nat} {rest : Text} {state : ScanState} (piece : piece rest = .nothing) :
      ScansRest row column rest state [] state
  -- a backslash joins the next row
  | joined {column : Nat} {gaps ended : Text} {state : ScanState}
      (piece : piece (gaps ++ '\\' :: ended) = .continuation)
      (blank : ∀ c ∈ gaps, isGap c = true) (whole : IsBreak ended) :
      ScansRest row column (gaps ++ '\\' :: ended) state [] { state with continued := true }
  -- a string goes on in the next row
  | opens {column : Nat} {gaps body : Text} {state : ScanState} {o : Opening}
      (isRow : IsRow (gaps ++ body)) (piece : piece (gaps ++ body) = .openString gaps.length o)
      (blank : ∀ c ∈ gaps, isGap c = true) :
      ScansRest row column (gaps ++ body) state []
        { state with
          openString := some ⟨⟨row, column + gaps.length⟩, body, o.quote, o.tripled⟩
          mustContinue := state.mustContinue || !o.tripled }
  | newline {column : Nat} {gaps text : Text} {state : ScanState} {l : Lexeme}
      (piece : piece (gaps ++ text) = .lexeme gaps.length text.length .newline)
      (blank : ∀ c ∈ gaps, isGap c = true) (whole : IsBreak text)
      (made : l = ⟨settleKind state.depth .newline, text, ⟨row, column + gaps.length⟩,
        ⟨row, column + gaps.length + text.length⟩⟩) :
      ScansRest row column (gaps ++ text) state [l] state
  | lexeme {column : Nat} {gaps text behind : Text} {kind : LexemeKind} {state final : ScanState}
      {l : Lexeme} {lexemes : List Lexeme} (isRow : IsRow (gaps ++ (text ++ behind)))
      (piece : piece (gaps ++ (text ++ behind)) = .lexeme gaps.length text.length kind)
      (blank : ∀ c ∈ gaps, isGap c = true)
      (known : IsContent kind ∨ kind = .comment ∧ BreaksFirst behind) (inside : '\n' ∉ gaps ++ text)
      (made : l = ⟨kind, text, ⟨row, column + gaps.length⟩,
        ⟨row, column + gaps.length + text.length⟩⟩)
      (others : ScansRest row (column + gaps.length + text.length) behind
        { state with depth := state.depth + l.depthChange } lexemes final) :
      ScansRest row column (gaps ++ (text ++ behind)) state (l :: lexemes) final

-- The length of what a row has of an open string that it closes.
def OpenString.closeLength? (s : OpenString) (line : Text) : Option Nat :=
  if s.tripled then closeTripleLength? s.quote line else Lexeme.closeLength? s.quote line

theorem closeLength_of_open {s : OpenString} {line : Text} :
    (if s.tripled then closeTripleLength? s.quote line else Lexeme.closeLength? s.quote line) =
      s.closeLength? line := rfl

-- A further row of an open string.
inductive ScansString (row : Nat) (s : OpenString) (state : ScanState) :
    Text → List Lexeme → ScanState → Prop
  | closed {body rest : Text} {lexemes : List Lexeme} {final : ScanState}
      (close : s.closeLength? (body ++ rest) = some body.length)
      (others : ScansRest row body.length rest
        { state with openString := none, mustContinue := false } lexemes final) :
      ScansString row s state (body ++ rest)
        (⟨.string, s.text ++ body, s.start, ⟨row, body.length⟩⟩ :: lexemes) final
  | broken {line : Text} (close : s.closeLength? line = none) (must : state.mustContinue = true)
      (ends : endsContinued line = false) :
      ScansString row s state line [⟨.stray, s.text ++ line, s.start, ⟨row, line.length⟩⟩]
        { state with openString := none }
  | goesOn {line : Text} (close : s.closeLength? line = none)
      (ends : state.mustContinue = true → endsContinued line = true) :
      ScansString row s state line []
        { state with openString := some { s with text := s.text ++ line } }

-- A row that a statement may begin in.
inductive ScansFirst (row : Nat) (state : ScanState) : Text → List Lexeme → ScanState → Prop
  | blank {line : Text} (blank : ∀ c ∈ line, isGap c = true) :
      ScansFirst row state line [] { state with ended := true }
  | idle {gaps body : Text} {c : Char} (leads : (leadingColumn 0 (gaps ++ c :: body)).2 = gaps.length)
      (blank : ∀ c ∈ gaps, isGap c = true) (idle : c = '#' ∨ c = '\r' ∨ c = '\n') :
      ScansFirst row state (gaps ++ c :: body) (idleLine row gaps.length (c :: body)) state
  | code {gaps body : Text} {c : Char} {column : Nat} {margin lexemes : List Lexeme}
      {margins : List Nat} {final : ScanState}
      (leads : leadingColumn 0 (gaps ++ c :: body) = (column, gaps.length))
      (blank : ∀ c ∈ gaps, isGap c = true) (busy : ¬ (c = '#' ∨ c = '\r' ∨ c = '\n'))
      (indents : indentation row column gaps.length (gaps ++ c :: body) state.margins =
        .ok (margin, margins))
      (others : ScansRest row gaps.length (c :: body) { state with margins := margins } lexemes
        final) :
      ScansFirst row state (gaps ++ c :: body) (margin ++ lexemes) final

-- A row.
inductive ScansLine (row : Nat) (line : Text) (state : ScanState) :
    List Lexeme → ScanState → Prop
  | string {s : OpenString} {lexemes : List Lexeme} {final : ScanState}
      (isOpen : state.openString = some s) (string : ScansString row s state line lexemes final) :
      ScansLine row line state lexemes final
  | first {lexemes : List Lexeme} {final : ScanState} (closed : state.openString = none)
      (depth : state.depth = 0) (straight : state.continued = false)
      (first : ScansFirst row state line lexemes final) : ScansLine row line state lexemes final
  | rest {lexemes : List Lexeme} {final : ScanState} (closed : state.openString = none)
      (inside : state.depth = 0 → state.continued = true)
      (rest : ScansRest row 0 line { state with continued := false } lexemes final) :
      ScansLine row line state lexemes final

-- Rows, from number `row` on.
inductive ScansLines : Nat → List Text → ScanState → List Lexeme → ScanState → Prop
  | nil {row : Nat} {state : ScanState} : ScansLines row [] state [] state
  | cons {row : Nat} {line : Text} {rows : List Text} {state next final : ScanState}
      {here lexemes : List Lexeme} (isRow : IsRow line)
      (first : ScansLine row line state here next)
      (others : ScansLines (row + 1) rows next lexemes final) :
      ScansLines row (line :: rows) state (here ++ lexemes) final

section

variable {row fuel column : Nat} {rest line t : Text} {rows : List Text} {s : OpenString}
  {state final : ScanState} {lexemes : List Lexeme} {kind : LexemeKind}

theorem settleKind_of_ne {depth : Int} (h : kind ≠ .newline) : settleKind depth kind = kind := by
  cases kind <;> first | rfl | exact absurd rfl h

theorem settleKind_newline {depth : Int} : settleKind depth .newline ≠ .operator := by
  simp only [settleKind]
  split_ifs <;> simp

theorem depthChange_of_kind {l : Lexeme} (h : l.kind ≠ .operator) : l.depthChange = 0 := by
  simp [depthChange, opens, closes, isOperator, h]

theorem scanRest_nil : scanRest row fuel column [] state = ([], state) := by
  cases fuel <;> rfl

theorem ne_newline_of_known {behind : Text}
    (h : IsContent kind ∨ kind = .comment ∧ BreaksFirst behind) : kind ≠ .newline := by
  rintro rfl
  simp [IsContent] at h

theorem scansRest_scanRest (hrow : IsRow rest) (hfuel : rest.length ≤ fuel) :
    ScansRest row column rest state (scanRest row fuel column rest state).1
      (scanRest row fuel column rest state).2 := by
  induction fuel generalizing column rest state with
  | zero =>
    obtain rfl := List.length_eq_zero_iff.mp (Nat.le_zero.mp hfuel)
    exact .nothing rfl
  | succ fuel ih =>
    rw [scanRest]
    cases hpiece : piece rest with
    | nothing => exact .nothing hpiece
    | continuation =>
      obtain ⟨gaps, ended, rfl, hgaps, hwhole⟩ := piece_continuation hrow hpiece
      exact .joined hpiece hgaps hwhole
    | openString blanks o =>
      obtain ⟨gaps, body, rfl, hgaps, hbody⟩ := piece_gaps rest
      obtain rfl := pieceAfter_openString (hbody.symm.trans hpiece)
      simp only [List.drop_left]
      exact .opens hrow hpiece hgaps
    | lexeme blanks n kind =>
      obtain ⟨gaps, text, behind, rfl, rfl, rfl, hgaps, hparts⟩ := piece_split hrow hpiece
      have hpositive := (piece_lexeme hrow hpiece).1
      simp only [← List.drop_drop, List.drop_left, List.take_left]
      rcases hparts with ⟨rfl, hwhole, rfl⟩ | ⟨hknown, hinside⟩
      · have hflat {l : Lexeme} (hl : l.kind = settleKind state.depth .newline) :
            l.depthChange = 0 := depthChange_of_kind (hl ▸ settleKind_newline)
        rw [scanRest_nil, hflat rfl, Int.add_zero]
        simp only [List.append_nil] at hpiece ⊢
        exact .newline hpiece hgaps hwhole rfl
      · rw [settleKind_of_ne (ne_newline_of_known hknown)]
        refine .lexeme hrow hpiece hgaps hknown hinside rfl (ih hrow.of_append.of_append ?_)
        simp only [List.length_append] at hfuel
        omega

theorem scansRest_of_eq (hrow : IsRow rest) (hfuel : rest.length ≤ fuel)
    (h : scanRest row fuel column rest state = (lexemes, final)) :
    ScansRest row column rest state lexemes final := by
  have hscans := @scansRest_scanRest row fuel column rest state hrow hfuel
  rwa [h] at hscans

theorem exists_fuel (h : piece rest ≠ .nothing) (hfuel : rest.length ≤ fuel) :
    ∃ n, fuel = n + 1 := by
  have hne : rest ≠ [] := by
    rintro rfl
    exact h rfl
  have hpositive := List.length_pos_of_ne_nil hne
  exact ⟨fuel - 1, by omega⟩

theorem ScansRest.eq (h : ScansRest row column rest state lexemes final)
    (hfuel : rest.length ≤ fuel) : scanRest row fuel column rest state = (lexemes, final) := by
  induction h generalizing fuel with
  | nothing hpiece => cases fuel <;> simp [scanRest, hpiece]
  | joined hpiece =>
    obtain ⟨fuel, rfl⟩ := exists_fuel (by simp [hpiece]) hfuel
    simp [scanRest, hpiece]
  | opens _ hpiece =>
    obtain ⟨fuel, rfl⟩ := exists_fuel (by simp [hpiece]) hfuel
    simp [scanRest, hpiece]
  | @newline _ gaps text state l hpiece _ _ hmade =>
    obtain ⟨fuel, rfl⟩ := exists_fuel (by simp [hpiece]) hfuel
    have hflat : l.depthChange = 0 := depthChange_of_kind (hmade ▸ settleKind_newline)
    rw [scanRest, hpiece]
    simp [← List.drop_drop, scanRest_nil, ← hmade, hflat]
  | lexeme hrow hpiece _ hknown _ hmade _ ih =>
    obtain ⟨fuel, rfl⟩ := exists_fuel (by simp [hpiece]) hfuel
    have hpositive := (piece_lexeme hrow hpiece).1
    simp only [List.length_append] at hfuel
    rw [scanRest, hpiece]
    simp only [← List.drop_drop, List.drop_left, List.take_left,
      settleKind_of_ne (ne_newline_of_known hknown), ← hmade]
    rw [ih (by omega)]

-- What a row has of an open string up to its end.
theorem exists_closed {n : Nat} (h : s.closeLength? line = some n) :
    ∃ body rest, line = body ++ rest ∧ body.length = n ∧ Ends s.quote s.tripled body := by
  unfold OpenString.closeLength? at h
  split_ifs at h with htripled
  · rw [htripled]
    exact ends_of_closeTriple h
  · rw [Bool.eq_false_iff.mpr htripled]
    exact ends_of_close h

theorem ends_of_closeLength (hquote : s.quote ≠ '\n') {body rest : Text}
    (hrow : IsRow (body ++ rest)) (h : s.closeLength? (body ++ rest) = some body.length) :
    Ends s.quote s.tripled body ∧ '\n' ∉ body := by
  obtain ⟨body', rest', heq, hlength, hends, hinside⟩ := ends_of_closed hquote hrow h
  obtain ⟨rfl, rfl⟩ := List.append_inj heq hlength.symm
  exact ⟨hends, hinside⟩

theorem scansString_of_eq (hrow : IsRow line)
    (h : scanString row line s state = (lexemes, final)) :
    ScansString row s state line lexemes final := by
  simp only [scanString, closeLength_of_open] at h
  cases hclose : s.closeLength? line with
  | some n =>
    obtain ⟨body, rest, rfl, rfl, -⟩ := exists_closed hclose
    rw [hclose] at h
    simp only [List.take_left, List.drop_left] at h
    generalize hothers : scanRest row _ body.length rest _ = scanned at h
    obtain ⟨others, final'⟩ := scanned
    cases h
    exact .closed hclose (scansRest_of_eq hrow.of_append (by simp) hothers)
  | none =>
    rw [hclose] at h
    simp only at h
    split at h
    · rename_i hbroken
      cases h
      rw [Bool.and_eq_true, Bool.not_eq_true'] at hbroken
      exact .broken hclose hbroken.1 hbroken.2
    · rename_i hgoes
      cases h
      refine .goesOn hclose fun hmust => ?_
      simpa [hmust] using hgoes

theorem ScansString.eq (h : ScansString row s state line lexemes final) :
    scanString row line s state = (lexemes, final) := by
  simp only [scanString, closeLength_of_open]
  cases h with
  | closed hclose hothers =>
    simp only [hclose, List.take_left, List.drop_left]
    rw [hothers.eq (by simp)]
  | broken hclose hmust hends => simp [hclose, hmust, hends]
  | goesOn hclose hends =>
    have hwhole : ¬ (state.mustContinue && !endsContinued line) = true := by
      rw [Bool.and_eq_true, Bool.not_eq_true']
      exact fun h => Bool.false_ne_true (h.2.symm.trans (hends h.1))
    simp only [hclose, if_neg hwhole]

theorem scansFirst_of_eq (hrow : IsRow line) (h : scanFirst row line state = .ok (lexemes, final)) :
    ScansFirst row state line lexemes final := by
  have hmade := leadingColumn_made 0 line
  unfold scanFirst at h
  generalize hleads : leadingColumn 0 line = leads at h hmade
  obtain ⟨column, blanks⟩ := leads
  simp only at h hmade
  split at h
  · rename_i hnil
    cases h
    rw [Made, List.take_of_length_le (List.drop_eq_nil_iff.mp hnil)] at hmade
    exact .blank hmade
  · rename_i c body hbody
    obtain ⟨gaps, rfl, rfl⟩ : ∃ gaps, line = gaps ++ c :: body ∧ gaps.length = blanks := by
      refine ⟨line.take blanks, by rw [← hbody, List.take_append_drop], ?_⟩
      have hlength := congrArg List.length hbody
      rw [List.length_drop, List.length_cons] at hlength
      rw [List.length_take]
      omega
    rw [Made, List.take_left] at hmade
    split at h
    · rename_i hidle
      cases h
      refine .idle (congrArg Prod.snd hleads) hmade ?_
      simpa [or_assoc] using hidle
    · rename_i hbusy
      split at h
      · cases h
      · rename_i margin margins hindents
        generalize hothers : scanRest row _ gaps.length (c :: body) _ = scanned at h
        obtain ⟨others, final'⟩ := scanned
        cases h
        refine .code hleads hmade ?_ hindents (scansRest_of_eq hrow.of_append (by simp) hothers)
        simpa [or_assoc] using hbusy

theorem leadingColumn_blank (h : ∀ c ∈ line, isGap c = true) :
    (leadingColumn column line).2 = line.length := by
  fun_induction leadingColumn column line with
  | case1 => simp_all
  | case2 => simp_all
  | case3 => simp_all
  | case4 line column hblank htab hfeed =>
    cases line with
    | nil => rfl
    | cons c line =>
      have hc := h c List.mem_cons_self
      simp only [isGap, Bool.or_eq_true, decide_eq_true_eq] at hc
      rcases hc with (rfl | rfl) | rfl
      · exact absurd rfl (hblank line)
      · exact absurd rfl (htab line)
      · exact absurd rfl (hfeed line)

theorem ScansFirst.eq (h : ScansFirst row state line lexemes final) :
    scanFirst row line state = .ok (lexemes, final) := by
  unfold scanFirst
  cases h with
  | blank hblank => simp [leadingColumn_blank hblank]
  | idle hleads _ hidle =>
    simp only [hleads, List.drop_left]
    rw [if_pos (by simpa [or_assoc] using hidle)]
  | code hleads _ hbusy hindents hothers =>
    simp only [hleads, List.drop_left]
    rw [if_neg (by simpa [or_assoc] using hbusy), hindents]
    simp only
    rw [hothers.eq (by simp)]

theorem ScansLine.eq (h : ScansLine row line state lexemes final) :
    scanLine row line state = .ok (lexemes, final) := by
  unfold scanLine
  cases h with
  | string hopen hstring => simp only [hopen, hstring.eq]
  | first hclosed hdepth hstraight hfirst => simp [hclosed, hdepth, hstraight, hfirst.eq]
  | rest hclosed hinside hrest =>
    have hlater : ¬ (decide (state.depth = 0) && !state.continued) = true := by
      rw [Bool.and_eq_true, decide_eq_true_eq, Bool.not_eq_true']
      exact fun h => Bool.false_ne_true (h.2.symm.trans (hinside h.1))
    split
    · rename_i hopen
      cases hclosed.symm.trans hopen
    · rw [if_neg hlater, hrest.eq le_rfl]

theorem ScansLines.eq (h : ScansLines row rows state lexemes final) :
    scanLines row rows state = .ok (lexemes, final) := by
  induction h with
  | nil => rfl
  | cons _ hline _ ih => simp only [scanLines, hline.eq, ih]

theorem scansLine_of_eq (hrow : IsRow line) (h : scanLine row line state = .ok (lexemes, final)) :
    ScansLine row line state lexemes final := by
  unfold scanLine at h
  split at h
  · rename_i s hopen
    exact .string hopen (scansString_of_eq hrow (Except.ok.inj h))
  · rename_i hclosed
    split at h
    · rename_i hstart
      rw [Bool.and_eq_true, decide_eq_true_eq, Bool.not_eq_true'] at hstart
      exact .first hclosed hstart.1 hstart.2 (scansFirst_of_eq hrow h)
    · rename_i hinside
      refine .rest hclosed (fun hdepth => ?_) (scansRest_of_eq hrow le_rfl (Except.ok.inj h))
      simpa [hdepth] using hinside

theorem scansLines_of_eq (hrows : ∀ line ∈ rows, IsRow line)
    (h : scanLines row rows state = .ok (lexemes, final)) :
    ScansLines row rows state lexemes final := by
  induction rows generalizing row state lexemes with
  | nil =>
    cases h
    exact .nil
  | cons line rows ih =>
    rw [List.forall_mem_cons] at hrows
    unfold scanLines at h
    split at h
    · cases h
    · rename_i here next hline
      split at h
      · cases h
      · rename_i others final' hothers
        cases h
        exact .cons hrows.1 (scansLine_of_eq hrows.1 hline) (ih hrows.2 hothers)

end

-- The rows of a text: all but the last have a line feed at their end.
def Rows : List (List Char) → Prop
  | [] => True
  | row :: rows => IsRow row ∧ (rows ≠ [] → '\n' ∈ row) ∧ Rows rows

theorem rows_lines (t : Text) : Rows (lines t) := by
  induction t with
  | nil => trivial
  | cons c t ih =>
    unfold lines
    split_ifs with hc
    · exact ⟨by simp [IsRow], fun _ => by simp [hc], ih⟩
    · split
      · exact ⟨by simp [IsRow], fun h => absurd rfl h, trivial⟩
      · rename_i first others hlines
        rw [hlines] at ih
        obtain ⟨hfirst, hothers, hrest⟩ := ih
        refine ⟨?_, fun h => List.mem_cons_of_mem c (hothers h), hrest⟩
        cases first with
        | nil => simp [IsRow]
        | cons d first =>
          rw [IsRow, List.dropLast_cons_of_ne_nil (by simp), List.mem_cons, not_or]
          exact ⟨fun heq => hc heq.symm, hfirst⟩

theorem Rows.isRow {rows : List Text} (h : Rows rows) : ∀ line ∈ rows, IsRow line := by
  induction rows with
  | nil => simp
  | cons line rows ih => exact List.forall_mem_cons.mpr ⟨h.1, ih h.2.2⟩

-- The lexemes of a text are those of its rows, with the ends of line, blocks and text behind them.
theorem scansLines_of_scan {t : Text} {lexemes : List Lexeme} (h : scan t = .ok lexemes) :
    ∃ found final n last, ScansLines 1 (lines t) .start found final ∧ final.openString = none ∧
      final.depth = 0 ∧ final.continued = false ∧
      lexemes = found ++ closing n last final.margins := by
  unfold scan at h
  simp only at h
  split at h
  · cases h
  · rename_i found final hscan
    split at h
    · cases h
    · rename_i hclosed
      split at h
      · cases h
      · rename_i hends
        cases h
        rw [Bool.or_eq_true, not_or, decide_eq_true_eq, not_not, Bool.not_eq_true] at hends
        exact ⟨found, final, _, _, scansLines_of_eq (rows_lines t).isRow hscan, hclosed, hends.1,
          hends.2, rfl⟩

end Ghostwriter.Lexeme

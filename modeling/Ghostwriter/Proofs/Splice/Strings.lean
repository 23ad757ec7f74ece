import Ghostwriter.Proofs.Lexeme.Layout
import Ghostwriter.Proofs.Splice.Indent

/-!
Strings: each one that the tolerant scanner finds stands in the text where it says, over as many
rows as it says. Reindenting takes it to its new place as it is.
-/

namespace Ghostwriter.Splice

open Ghostwriter.Lexeme Ghostwriter.Text

-- Each string among the lexemes stands in the text where it says.
def StringsIn (t : Text) (lexemes : List Lexeme) : Prop :=
  ∀ l ∈ lexemes, l.kind = .string → Between t l.start l.stop l.text

-- An open string is the end of the text so far.
def OpenIn (t : Text) (state : ScanState) : Prop :=
  ∀ s ∈ state.openString, s.quote ≠ '\n' ∧ ∃ before, t = before ++ s.text ∧
    positionOf before = s.start

section

variable {row column : Nat} {before line rest : Text} {state final : ScanState}
  {lexemes : List Lexeme}

-- A place further on in a row.
theorem positionOf_within {t : Text} (hplace : positionOf before = ⟨row, column⟩)
    (ht : '\n' ∉ t) : positionOf (before ++ t) = ⟨row, column + t.length⟩ := by
  rw [positionOf_append, List.count_eq_zero_of_not_mem ht, positionOf_of_not_mem ht, hplace]
  simp

theorem stringsIn_nil {t : Text} : StringsIn t [] := by simp [StringsIn]

theorem stringsIn_scansRest (h : ScansRest row column rest state lexemes final)
    (hplace : positionOf before = ⟨row, column⟩) (hopen : OpenIn (before ++ rest) state) :
    StringsIn (before ++ rest) lexemes ∧ OpenIn (before ++ rest) final := by
  induction h generalizing before with
  | nothing => exact ⟨stringsIn_nil, hopen⟩
  | joined => exact ⟨stringsIn_nil, hopen⟩
  | @opens _ gaps body _ _ _ hpiece hblank =>
    refine ⟨stringsIn_nil, ?_⟩
    rintro s ⟨⟩
    have hinside : '\n' ∉ gaps := fun hmem => by cases hblank _ hmem
    exact ⟨isQuote_ne_break (piece_openString hpiece), before ++ gaps, by simp,
      positionOf_within hplace hinside⟩
  | newline _ _ _ hmade =>
    refine ⟨fun l hl hkind => ?_, hopen⟩
    rw [List.mem_singleton.mp hl, hmade] at hkind
    simp only [settleKind] at hkind
    split_ifs at hkind
  | @lexeme _ gaps text behind _ _ _ _ _ _ _ _ _ hinside hmade _ ih =>
    rw [List.mem_append, not_or] at hinside
    have hstart := positionOf_within hplace hinside.1
    have hstop := positionOf_within hstart hinside.2
    have htext : before ++ (gaps ++ (text ++ behind)) = before ++ gaps ++ text ++ behind := by simp
    rw [htext] at hopen ⊢
    obtain ⟨hothers, hfinal⟩ := ih hstop hopen
    refine ⟨List.forall_mem_cons.mpr ⟨fun _ => ?_, hothers⟩, hfinal⟩
    rw [hmade]
    exact ⟨before ++ gaps, behind, rfl, hstart, hstop⟩

theorem stringsIn_scansString {s : OpenString} (h : ScansString row s state line lexemes final)
    (hrow : positionOf before = ⟨row, 0⟩) (hline : IsRow line) (hquote : s.quote ≠ '\n')
    {opening : Text} (hbefore : before = opening ++ s.text) (hstart : positionOf opening = s.start) :
    StringsIn (before ++ line) lexemes ∧ OpenIn (before ++ line) final := by
  cases h with
  | @closed body rest _ _ hclose hothers =>
    have hinside := (ends_of_closeLength hquote hline hclose).2
    have hstop : positionOf (before ++ body) = ⟨row, body.length⟩ := by
      simpa using positionOf_within hrow hinside
    have hrest := stringsIn_scansRest hothers hstop fun _ hmem => by cases hmem
    rw [List.append_assoc] at hrest
    refine ⟨List.forall_mem_cons.mpr ⟨fun _ => ⟨opening, rest, ?_, hstart, ?_⟩, hrest.1⟩, hrest.2⟩
    · rw [hbefore]
      simp
    · rw [← List.append_assoc, ← hbefore, hstop]
  | broken =>
    refine ⟨fun l hl hkind => ?_, fun _ hmem => by cases hmem⟩
    rw [List.mem_singleton.mp hl] at hkind
    cases hkind
  | goesOn =>
    refine ⟨stringsIn_nil, ?_⟩
    rintro s' ⟨⟩
    exact ⟨hquote, opening, by rw [hbefore, List.append_assoc], hstart⟩

theorem stringsIn_of_not_mem {t : Text} (h : ∀ l ∈ lexemes, l.kind ≠ .string) :
    StringsIn t lexemes := fun l hl hkind => absurd hkind (h l hl)

theorem StringsIn.append {t : Text} {others : List Lexeme} (h : StringsIn t lexemes)
    (hothers : StringsIn t others) : StringsIn t (lexemes ++ others) :=
  List.forall_mem_append.mpr ⟨h, hothers⟩

theorem stringsIn_scansFirst (h : ScansFirst row state line lexemes final)
    (hrow : positionOf before = ⟨row, 0⟩) (hopen : OpenIn (before ++ line) state) :
    StringsIn (before ++ line) lexemes ∧ OpenIn (before ++ line) final := by
  cases h with
  | blank => exact ⟨stringsIn_nil, hopen⟩
  | idle =>
    refine ⟨stringsIn_of_not_mem ?_, hopen⟩
    unfold idleLine
    simp only
    split_ifs <;> simp
  | @code gaps _ _ _ _ _ _ _ _ hblank _ hindents hothers =>
    have hinside : '\n' ∉ gaps := fun hmem => by cases hblank _ hmem
    have hplace : positionOf (before ++ gaps) = ⟨row, gaps.length⟩ := by
      simpa using positionOf_within hrow hinside
    rw [← List.append_assoc] at hopen ⊢
    obtain ⟨hrest, hfinal⟩ := stringsIn_scansRest hothers hplace hopen
    refine ⟨(stringsIn_of_not_mem ?_).append hrest, hfinal⟩
    unfold indentation at hindents
    split_ifs at hindents
    · cases hindents
      simp
    · cases hindents
      intro l hl
      simp [(List.mem_replicate.mp hl).2]

theorem stringsIn_scansLine (h : ScansLine row line state lexemes final)
    (hrow : positionOf before = ⟨row, 0⟩) (hline : IsRow line) (hopen : OpenIn before state) :
    StringsIn (before ++ line) lexemes ∧ OpenIn (before ++ line) final := by
  have hnone (hclosed : state.openString = none) : OpenIn (before ++ line) state := fun s hs => by
    rw [hclosed] at hs
    cases hs
  cases h with
  | string hs hstring =>
    obtain ⟨hquote, opening, hbefore, hstart⟩ := hopen _ hs
    exact stringsIn_scansString hstring hrow hline hquote hbefore hstart
  | first hclosed _ _ hfirst => exact stringsIn_scansFirst hfirst hrow (hnone hclosed)
  | rest hclosed _ hrest => exact stringsIn_scansRest hrest hrow (hnone hclosed)

-- Behind a whole row the next one begins.
theorem positionOf_append_row (hrow : positionOf before = ⟨row, 0⟩) (hline : IsRow line)
    (hbreak : '\n' ∈ line) : positionOf (before ++ line) = ⟨row + 1, 0⟩ := by
  have hne : line ≠ [] := List.ne_nil_of_mem hbreak
  have hlast : line.getLast hne = '\n' := by
    by_contra hlast
    rw [← List.dropLast_append_getLast hne, List.mem_append] at hbreak
    rcases hbreak with hmem | hmem
    · exact hline hmem
    · exact hlast (List.mem_singleton.mp hmem).symm
  rw [← List.dropLast_append_getLast hne, hlast, ← List.append_assoc, positionOf_append,
    positionOf_append, hrow, List.count_eq_zero_of_not_mem hline]
  rfl

theorem Between.append {t part : Text} {start stop : Position} (h : Between t start stop part)
    (more : Text) : Between (t ++ more) start stop part := by
  obtain ⟨before, behind, rfl, hstart, hstop⟩ := h
  exact ⟨before, behind ++ more, by simp, hstart, hstop⟩

theorem stringsIn_scansLines {rows : List Text} (h : ScansLines row rows state lexemes final)
    (hrows : Rows rows) (hrow : positionOf before = ⟨row, 0⟩) (hopen : OpenIn before state) :
    StringsIn (before ++ rows.flatten) lexemes := by
  induction h generalizing before with
  | nil => exact stringsIn_nil
  | cons hline hfirst hothers ih =>
    obtain ⟨hhere, hnext⟩ := stringsIn_scansLine hfirst hrow hline hopen
    rw [List.flatten_cons, ← List.append_assoc]
    refine StringsIn.append (fun l hl hkind => (hhere l hl hkind).append _) ?_
    cases hothers with
    | nil => exact stringsIn_nil
    | cons =>
      have hbreak := hrows.2.1 (List.cons_ne_nil _ _)
      exact ih hrows.2.2 (positionOf_append_row hrow hline hbreak) hnext

theorem closing_not_string {n : Nat} {last : Text} {margins : List Nat} :
    ∀ l ∈ closing n last margins, l.kind ≠ .string := by
  intro l hl
  unfold closing at hl
  simp only [List.mem_append, List.mem_replicate, List.mem_singleton] at hl
  rcases hl with (hl | ⟨-, rfl⟩) | rfl
  · split_ifs at hl
    · rw [List.mem_singleton.mp hl]
      simp
    · cases hl
  · simp
  · simp

theorem stringsIn_scan {t : Text} (h : scan t = .ok lexemes) : StringsIn t lexemes := by
  obtain ⟨found, final, n, last, hscans, -, -, -, rfl⟩ := scansLines_of_scan h
  have hfound := @stringsIn_scansLines 1 [] _ _ _ _ hscans (rows_lines t) rfl
    fun _ hmem => by cases hmem
  rw [List.nil_append, lines_flatten] at hfound
  exact hfound.append (stringsIn_of_not_mem closing_not_string)

end

section

variable {code indent out : Text} {lexemes : List Lexeme}

-- Whether a row differs between two texts. Rows are numbered from 1.
def differs (t u : Text) (row : Nat) : Bool := (pieces t)[row - 1]? ≠ (pieces u)[row - 1]?

theorem moves_eq_true_iff {n : Nat} {line : Text} (h : (pieces code)[n]? = some line) :
    moves lexemes (pieces code) (n + 1) = true ↔
      ¬ (n = 0 ∨ isBlankLine line = true ∨
        ∃ l ∈ lexemes, l.kind = .string ∧ l.start.line < n + 1 ∧ n + 1 ≤ l.stop.line) := by
  have hprotected : isProtected lexemes (n + 1) = true ↔
      ∃ l ∈ lexemes, l.kind = .string ∧ l.start.line < n + 1 ∧ n + 1 ≤ l.stop.line := by
    simp [isProtected, and_assoc]
  have hget : (pieces code).getD (n + 1 - 1) [] = line := by
    rw [Nat.add_sub_cancel, List.getD_eq_getElem?_getD, h, Option.getD_some]
  rw [moves, hget, ← hprotected]
  cases isProtected lexemes (n + 1) <;> cases isBlankLine line <;> simp

theorem differs_indentFrom {moved : Nat → Bool} (hindent : '\n' ∉ indent) (hne : indent ≠ [])
    (hfirst : moved 1 = false) (n : Nat) (hmoved : (pieces code)[n]? = none → moved (n + 1) = false) :
    differs code (indentFrom moved indent 1 code) (n + 1) = moved (n + 1) := by
  rw [differs, Nat.add_sub_cancel, pieces_indentFrom hindent, List.getElem?_mapIdx, Nat.add_comm 1]
  cases hline : (pieces code)[n]? with
  | none => simp [hmoved hline]
  | some line =>
    cases n with
    | zero => simp [hfirst]
    | succ n => cases moved (n + 1 + 1) <;> simp [hne]

theorem movePosition_differs {moved : Nat → Bool} (hindent : '\n' ∉ indent)
    (hfirst : moved 1 = false)
    (hmoved : ∀ n, (pieces code)[n]? = none → moved (n + 1) = false) {p : Position}
    (hp : 1 ≤ p.line) :
    movePosition (differs code (indentFrom moved indent 1 code)) indent p =
      movePosition moved indent p := by
  by_cases hne : indent = []
  · simp [movePosition, hne]
  · obtain ⟨n, hn⟩ : ∃ n, p.line = n + 1 := ⟨p.line - 1, by omega⟩
    rw [movePosition, movePosition, hn, differs_indentFrom hindent hne hfirst n (hmoved n)]

-- Reindenting takes each row as it is or puts the indent before it, and each string keeps its text:
-- what stands between its two ends, which move with their rows. A row stays if it is the first one,
-- if it is blank, or if a string goes on in it. The indent is part of a line.
theorem reindent_keeps_strings (h : scan code = .ok lexemes) (hindent : '\n' ∉ indent) :
    ∃ out, reindent code indent = .ok out ∧
      (pieces out).length = (pieces code).length ∧
      (∀ n line, (pieces code)[n]? = some line → ∃ line', (pieces out)[n]? = some line' ∧
        (line' = line ∨ line' = indent ++ line) ∧
        (line' = line ↔ n = 0 ∨ isBlankLine line = true ∨
          (∃ l ∈ lexemes, l.kind = .string ∧ l.start.line < n + 1 ∧ n + 1 ≤ l.stop.line) ∨
          indent = [])) ∧
      ∀ l ∈ lexemes, l.kind = .string →
        Between out (movePosition (differs code out) indent l.start)
          (movePosition (differs code out) indent l.stop) l.text := by
  have hfirst : moves lexemes (pieces code) 1 = false := rfl
  have hbeyond (n : Nat) (hnone : (pieces code)[n]? = none) :
      moves lexemes (pieces code) (n + 1) = false := by
    have hget : (pieces code).getD (n + 1 - 1) [] = [] := by
      rw [Nat.add_sub_cancel, List.getD_eq_getElem?_getD, hnone, Option.getD_none]
    rw [moves, hget]
    simp [isBlankLine]
  refine ⟨_, reindent_eq h, ?_, fun n line hline => ?_, fun l hl hkind => ?_⟩
  · rw [pieces_indentFrom hindent, List.length_mapIdx]
  · refine ⟨_, by rw [pieces_indentFrom hindent, List.getElem?_mapIdx, hline]; rfl, ?_, ?_⟩
    · split_ifs <;> simp
    · have hmoves := @moves_eq_true_iff code lexemes n line hline
      simp only [Nat.add_comm 1, List.append_left_eq_self, ← or_assoc] at hmoves ⊢
      split_ifs with hmoved
      · exact ⟨.inr, fun hstays => hstays.resolve_left (hmoves.mp hmoved.2)⟩
      · refine iff_of_true rfl (.inl ?_)
        by_contra hmoved'
        exact hmoved ⟨fun hn => hmoved' (.inl (.inl hn)), hmoves.mpr hmoved'⟩
  · have hplace := stringsIn_scan h l hl hkind
    have hstart : 1 ≤ l.start.line := by
      obtain ⟨before, -, -, hstart, -⟩ := hplace
      exact hstart ▸ line_positionOf_pos before
    have hstop : 1 ≤ l.stop.line := by
      obtain ⟨before, -, -, -, hstop⟩ := hplace
      exact hstop ▸ line_positionOf_pos _
    rw [movePosition_differs hindent hfirst hbeyond hstart,
      movePosition_differs hindent hfirst hbeyond hstop]
    refine hplace.indentFrom hindent hfirst fun n hn hle => ?_
    have hprotected : isProtected lexemes n = true :=
      List.any_eq_true.mpr ⟨l, hl, by simp [hkind, hn, hle]⟩
    simp [moves, hprotected]

end

-- The second string begins in the row in which the first one ends.
def twoStrings : Text := "x = 1\ny = \'\'\'a\n\n\'\'\' + \"\"\"b\n  c\"\"\"".toList

def movedStrings : Text := "x = 1\n\ty = \'\'\'a\n\n\'\'\' + \"\"\"b\n  c\"\"\"".toList

theorem between_movedStrings :
    reindent twoStrings ['\t'] = .ok movedStrings ∧
      Between movedStrings ⟨2, 5⟩ ⟨4, 3⟩ "\'\'\'a\n\n\'\'\'".toList ∧
      Between movedStrings ⟨4, 6⟩ ⟨5, 6⟩ "\"\"\"b\n  c\"\"\"".toList := by
  have hscan : scan twoStrings = .ok ((scan twoStrings).toOption.getD []) :=
    ok_of_toOption (by decide +kernel)
  have hmoved : reindent twoStrings ['\t'] = .ok movedStrings := ok_of_toOption (by decide +kernel)
  obtain ⟨out, hout, -, -, hstrings⟩ := reindent_keeps_strings hscan
    (show '\n' ∉ ['\t'] by decide)
  obtain rfl : movedStrings = out := Except.ok.inj (hmoved.symm.trans hout)
  refine ⟨hmoved, ?_, ?_⟩
  · exact hstrings ⟨.string, "\'\'\'a\n\n\'\'\'".toList, ⟨2, 4⟩, ⟨4, 3⟩⟩ (by decide +kernel) rfl
  · exact hstrings ⟨.string, "\"\"\"b\n  c\"\"\"".toList, ⟨4, 6⟩, ⟨5, 6⟩⟩ (by decide +kernel) rfl

-- A line feed in the indent makes further lines.
theorem reindent_not_in_rows :
    reindent "a = 1\nb = 2".toList "\n".toList = .ok "a = 1\n\nb = 2".toList ∧
      (pieces "a = 1\nb = 2".toList).length = 2 ∧
      (pieces "a = 1\n\nb = 2".toList).length = 3 := by
  exact ⟨ok_of_toOption (by decide +kernel), by decide, by decide⟩

end Ghostwriter.Splice

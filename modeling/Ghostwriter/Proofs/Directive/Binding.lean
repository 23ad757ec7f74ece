import Ghostwriter.Proofs.Directive.Statement
import Mathlib.Data.List.TakeWhile

/-!
Which entry points a text binds. A name is bound by a definition, an import or an assignment. The
search looks for the last two at the start of each row, not only at the start of each line, so that
a row within brackets can withdraw a name too.
-/

namespace Ghostwriter.Directive

open Ghostwriter.Lexeme Ghostwriter.Text

def isNamed (e : Text) (l : Lexeme) : Bool := l.kind = .name && l.text = e

-- The name stands behind the word for a definition.
def isDefined (e : Text) (lexemes : List Lexeme) : Bool :=
  (lexemes.zip lexemes.tail).any fun (word, name) => isWord ["def", "class"] word && isNamed e name

-- These lexemes begin with an import that names it, or with an assignment to it.
def isBoundBy (e : Text) : List Lexeme → Bool
  | [] => false
  | word :: rest =>
    word.kind = .name && (isWord ["import", "from"] word && rest.any (isNamed e) ||
      word.text = e && rest.head?.any (·.isOperator ['=']))

def isBound (e : Text) (lexemes : List Lexeme) : Bool :=
  isDefined e lexemes ||
    (logicalLines lexemes).any fun line => isBoundBy e (line.dropWhile isLeading)

-- Behind these lexemes of a line a row begins that goes on with the line.
structure GoesOn (before : List Lexeme) : Prop where
  begun : ∃ l ∈ before, l.isLeading = false
  atRow : startsLine before.getLast? = true

instance (before : List Lexeme) : Decidable (GoesOn before) :=
  decidable_of_iff ((∃ l ∈ before, l.isLeading = false) ∧ startsLine before.getLast? = true)
    ⟨fun h => ⟨h.1, h.2⟩, fun h => ⟨h.begun, h.atRow⟩⟩

-- A row that goes on with a line begins like an import or an assignment.
def Misread (e : Text) (line : List Lexeme) : Prop :=
  ∃ before row, line = before ++ row ∧ GoesOn before ∧ isBoundBy e row = true

instance (e : Text) (line : List Lexeme) : Decidable (Misread e line) :=
  decidable_of_iff
    (∃ n < line.length, GoesOn (line.take n) ∧ isBoundBy e (line.drop n) = true) <| by
    constructor
    · rintro ⟨n, -, hgoes, hbound⟩
      exact ⟨line.take n, line.drop n, (List.take_append_drop n line).symm, hgoes, hbound⟩
    · rintro ⟨before, row, rfl, hgoes, hbound⟩
      have hne : row ≠ [] := by
        rintro rfl
        cases hbound
      have hpos := List.length_pos_iff.mpr hne
      refine ⟨before.length, by simpa using hpos, ?_, ?_⟩
      · rwa [List.take_left]
      · rwa [List.drop_left]

section

variable {e : Text} {l : Lexeme} {lexemes rest line : List Lexeme} {outer : Int}

-- The lines that newlines end, whatever is open before them.
def linesUnder (outer : Int) (lexemes : List Lexeme) : List (List Lexeme) :=
  linesFrom (fun _ l _ => l.kind = .newline) outer lexemes

theorem linesUnder_newline (h : l.kind = .newline) :
    linesUnder outer (l :: rest) = [l] :: linesUnder (outer + l.depthChange) rest := by
  simp [linesUnder, linesFrom, h]

-- A lexeme that ends no line belongs to the first of the lines behind it.
theorem linesUnder_cons (h : l.kind ≠ .newline) :
    linesUnder outer (l :: rest) =
      (l :: (linesUnder (outer + l.depthChange) rest).headD []) ::
        (linesUnder (outer + l.depthChange) rest).tail := by
  simp only [linesUnder, linesFrom, h, decide_false, Bool.false_eq_true, if_false]
  split
  · rename_i hlines
    rw [hlines]
    rfl
  · rename_i hlines
    rw [hlines]
    rfl

theorem head?_linesUnder : ((linesUnder outer rest).headD []).head? = rest.head? := by
  cases rest with
  | nil => rfl
  | cons l rest =>
    by_cases hkind : l.kind = .newline
    · rw [linesUnder_newline hkind]
      rfl
    · rw [linesUnder_cons hkind]
      rfl

-- Some row begins with a binding. The flag says whether the first one begins here.
def BoundInRow (e : Text) (fresh : Bool) (line : List Lexeme) : Prop :=
  ∃ before row, line = before ++ row ∧
    (before.getLast?.map (precedesLine ·.kind)).getD fresh = true ∧ isBoundBy e row = true

theorem not_boundInRow_nil {fresh : Bool} : ¬ BoundInRow e fresh [] := by
  rintro ⟨before, row, hnil, -, hbound⟩
  obtain ⟨rfl, rfl⟩ := List.append_eq_nil_iff.mp hnil.symm
  cases hbound

theorem boundInRow_cons {fresh : Bool} :
    BoundInRow e fresh (l :: line) ↔
      (fresh = true ∧ isBoundBy e (l :: line) = true) ∨
        BoundInRow e (precedesLine l.kind) line := by
  have hlast (before : List Lexeme) :
      ((l :: before).getLast?.map (precedesLine ·.kind)).getD fresh =
        (before.getLast?.map (precedesLine ·.kind)).getD (precedesLine l.kind) := by
    cases before with
    | nil => rfl
    | cons next before =>
      rw [List.getLast?_cons_cons, List.getLast?_eq_getLast_of_ne_nil (by simp)]
      rfl
  constructor
  · rintro ⟨before, row, hline, hstart, hbound⟩
    cases before with
    | nil =>
      obtain rfl : l :: line = row := hline
      exact .inl ⟨hstart, hbound⟩
    | cons first before =>
      obtain ⟨rfl, rfl⟩ := List.cons.inj hline
      exact .inr ⟨before, row, rfl, (hlast before).symm.trans hstart, hbound⟩
  · rintro (⟨hstart, hbound⟩ | ⟨before, row, rfl, hstart, hbound⟩)
    · exact ⟨[], l :: line, rfl, hstart, hbound⟩
    · exact ⟨l :: before, row, rfl, (hlast before).trans hstart, hbound⟩

theorem exists_boundInRow {lines : List (List Lexeme)} :
    (BoundInRow e true (lines.headD []) ∨ ∃ line ∈ lines.tail, BoundInRow e true line) ↔
      ∃ line ∈ lines, BoundInRow e true line := by
  cases lines with
  | nil => simp [not_boundInRow_nil]
  | cons first others => simp

theorem isDefined_cons (before : Option Lexeme) :
    isDefined e (before.toList ++ l :: rest) =
      (before.any (isWord ["def", "class"]) && isNamed e l || isDefined e (l :: rest)) := by
  cases before with
  | none => simp
  | some word => simp [isDefined]

theorem isBoundBy_of_kind (h : l.kind ≠ .name) : isBoundBy e (l :: line) = false := by
  simp [isBoundBy, h]

theorem isNamed_of_kind (h : l.kind ≠ .name) : isNamed e l = false := by
  simp [isNamed, h]

-- The words of an import are no entry points.
theorem ne_of_isWord (hname : EntryPoint.isName e = true)
    (hword : isWord ["import", "from"] l = true) : l.text ≠ e := by
  have hnone : ∀ word ∈ ["import", "from"], EntryPoint.isName word.toList = false := by
    decide +kernel
  rintro rfl
  obtain ⟨word, hmem, htext⟩ := List.any_eq_true.mp hword
  rw [← of_decide_eq_true htext, hnone word hmem] at hname
  exact absurd hname (by decide)

-- What is bound from some place on: by a definition, in the rest of an import, by a row of the line
-- that has begun, or in a line behind it.
def BoundFrom (e : Text) (inImport : Bool) (before : Option Lexeme) (lexemes : List Lexeme)
    (lines : List (List Lexeme)) : Prop :=
  isDefined e (before.toList ++ lexemes) = true ∨
    (inImport = true ∧ (lines.headD []).any (isNamed e) = true) ∨
    BoundInRow e (startsLine before) (lines.headD []) ∨
    ∃ line ∈ lines.tail, BoundInRow e true line

theorem boundFrom_newline {inImport : Bool} {before : Option Lexeme} (h : l.kind = .newline) :
    BoundFrom e inImport before (l :: rest) (linesUnder outer (l :: rest)) ↔
      BoundFrom e false (some l) rest (linesUnder (outer + l.depthChange) rest) := by
  have hkind : l.kind ≠ .name := by simp [h]
  have hstart : startsLine (some l) = true := by simp [startsLine, precedesLine, h]
  have hline : ¬ BoundInRow e (startsLine before) [l] := by
    rw [boundInRow_cons, isBoundBy_of_kind hkind]
    simp [not_boundInRow_nil]
  simp only [BoundFrom, isDefined_cons, linesUnder_newline h, hstart, exists_boundInRow]
  simp [isNamed_of_kind hkind, hline]

theorem boundFrom_cons {inImport : Bool} {before : Option Lexeme} (h : l.kind ≠ .newline) :
    BoundFrom e inImport before (l :: rest) (linesUnder outer (l :: rest)) ↔
      (isNamed e l = true ∧ (inImport = true ∨ before.any (isWord ["def", "class"]) = true)) ∨
      (startsLine before = true ∧
        isBoundBy e (l :: (linesUnder (outer + l.depthChange) rest).headD []) = true) ∨
      BoundFrom e inImport (some l) rest (linesUnder (outer + l.depthChange) rest) := by
  simp only [BoundFrom, isDefined_cons, linesUnder_cons h, List.headD_cons, List.tail_cons,
    boundInRow_cons, List.any_cons, Bool.or_eq_true, Bool.and_eq_true, Option.toList_some,
    List.singleton_append]
  have hstart : startsLine (some l) = precedesLine l.kind := rfl
  rw [hstart]
  grind

-- The rest of an import.
theorem boundFrom_import (inImport : Bool) {before : Option Lexeme}
    {lines : List (List Lexeme)} :
    BoundFrom e true before lexemes lines ↔
      (lines.headD []).any (isNamed e) = true ∨ BoundFrom e inImport before lexemes lines := by
  simp only [BoundFrom, true_and]
  grind

theorem isBoundBy_of_isWord (hname : EntryPoint.isName e = true) (hkind : l.kind = .name)
    (hword : isWord ["import", "from"] l = true) :
    isBoundBy e (l :: line) = line.any (isNamed e) := by
  simp [isBoundBy, hkind, hword, ne_of_isWord hname hword]

theorem isBoundBy_of_not_isWord (hkind : l.kind = .name)
    (hword : isWord ["import", "from"] l = false) :
    isBoundBy e (l :: line) = (isNamed e l && line.head?.any (·.isOperator ['='])) := by
  simp [isBoundBy, isNamed, hkind, hword]

-- A name that begins no import binds itself or nothing.
theorem mem_boundNamesFrom_name {inImport : Bool} {before : Option Lexeme}
    (hname : EntryPoint.isName e = true) (hkind : l.kind = .name)
    (himport : (startsLine before && isWord ["import", "from"] l) = false) :
    e ∈ boundNamesFrom inImport before (l :: rest) ↔
      (isNamed e l = true ∧ binds inImport before rest.head? = true) ∨
        e ∈ boundNamesFrom inImport (some l) rest := by
  have hnamed : isNamed e l = true ↔ l.text = e := by simp [isNamed, hkind]
  rw [boundNamesFrom, hkind, hnamed]
  simp only [himport, Bool.false_eq_true, if_false]
  split_ifs with hbinds
  · rw [Bool.and_eq_true] at hbinds
    simp [hbinds.2, eq_comm]
  · constructor
    · exact .inr
    · rintro (⟨rfl, hbind⟩ | hrest)
      · exact absurd (Bool.and_eq_true_iff.mpr ⟨hname, hbind⟩) hbinds
      · exact hrest

theorem mem_boundNamesFrom_iff {inImport : Bool} {before : Option Lexeme}
    (hname : EntryPoint.isName e = true) :
    e ∈ boundNamesFrom inImport before lexemes ↔
      BoundFrom e inImport before lexemes (linesUnder outer lexemes) := by
  induction lexemes generalizing inImport before outer with
  | nil =>
    have hlines : linesUnder outer [] = [] := rfl
    cases before with
    | none => simp [boundNamesFrom, BoundFrom, hlines, isDefined, not_boundInRow_nil]
    | some l => simp [boundNamesFrom, BoundFrom, hlines, isDefined, not_boundInRow_nil]
  | cons l rest ih =>
    by_cases hnewline : l.kind = .newline
    · rw [boundFrom_newline hnewline, ← ih]
      simp [boundNamesFrom, hnewline]
    rw [boundFrom_cons hnewline]
    have hrest {inImport : Bool} := @ih (outer + l.depthChange) inImport (some l)
    by_cases hkind : l.kind = .name
    · cases himport : startsLine before && isWord ["import", "from"] l with
      | true =>
        obtain ⟨hstart, hword⟩ := Bool.and_eq_true_iff.mp himport
        have hself : isNamed e l = false := by simp [isNamed, ne_of_isWord hname hword]
        have hsame : boundNamesFrom inImport before (l :: rest) =
            boundNamesFrom true (some l) rest := by
          rw [boundNamesFrom, hkind]
          simp only [himport, if_true]
        rw [hsame, hrest, boundFrom_import inImport, isBoundBy_of_isWord hname hkind hword, hself,
          hstart]
        simp
      | false =>
        have hrow : (startsLine before = true ∧
            isBoundBy e (l :: (linesUnder (outer + l.depthChange) rest).headD []) = true) ↔
            isNamed e l = true ∧ startsLine before = true ∧
              rest.head?.any (·.isOperator ['=']) = true := by
          cases hstart : startsLine before with
          | false => simp
          | true =>
            rw [hstart, Bool.true_and] at himport
            rw [isBoundBy_of_not_isWord hkind himport, head?_linesUnder, Bool.and_eq_true]
            simp
        rw [mem_boundNamesFrom_name hname hkind himport, hrest, hrow]
        simp only [binds, Bool.or_eq_true, Bool.and_eq_true]
        grind
    · have hsame : boundNamesFrom inImport before (l :: rest) =
          boundNamesFrom inImport (some l) rest := by
        rw [boundNamesFrom]
        split <;> simp_all
      rw [hsame, isNamed_of_kind hkind, isBoundBy_of_kind hkind, hrest]
      simp

theorem mem_boundNames_iff (hname : EntryPoint.isName e = true) :
    e ∈ boundNames lexemes ↔
      isDefined e lexemes = true ∨ ∃ line ∈ logicalLines lexemes, BoundInRow e true line := by
  have hlines : logicalLines lexemes = linesUnder 0 lexemes := rfl
  have hstart : startsLine none = true := rfl
  have hfrom := @mem_boundNamesFrom_iff e lexemes 0 false none hname
  rw [boundNames, hfrom, hlines, ← exists_boundInRow]
  simp [BoundFrom, hstart]

-- No comment stands directly before a name.
def Spaced (lexemes : List Lexeme) : Prop :=
  lexemes.IsChain fun l next => l.kind = .comment → next.kind ≠ .name

theorem spaced_of_laid {fresh : Bool} (h : Laid outer fresh lexemes) : Spaced lexemes := by
  have hcons {l : Lexeme} {rest : List Lexeme} (hkind : l.kind ≠ .comment) (hrest : Spaced rest) :
      Spaced (l :: rest) :=
    List.isChain_cons.mpr ⟨fun _ _ hcomment => absurd hcomment hkind, hrest⟩
  induction h with
  | comment _ hnext _ ih => exact List.isChain_cons.mpr ⟨fun next hmem _ => (hnext next hmem).1, ih⟩
  | newline hkind _ _ ih | lineBreak hkind _ _ ih | close hkind _ _ ih =>
    exact hcons (by simp [hkind]) ih
  | indent hkind _ ih | dedent hkind _ ih => exact hcons (by simp [hkind]) ih
  | content hkind _ ih =>
    refine hcons ?_ ih
    rcases hkind with h | h | h | h | h <;> simp [h]
  | endMarker => exact List.isChain_singleton _

theorem exists_name_of_isBoundBy {row : List Lexeme} (h : isBoundBy e row = true) :
    ∃ name rest, row = name :: rest ∧ name.kind = .name := by
  cases row with
  | nil => cases h
  | cons name rest =>
    simp only [isBoundBy, Bool.and_eq_true, decide_eq_true_eq] at h
    exact ⟨name, rest, rfl, h.1⟩

-- The layout at the start of a line leads up to a row.
theorem startsLine_takeWhile (h : Spaced line)
    (hbound : isBoundBy e (line.dropWhile isLeading) = true) :
    startsLine (line.takeWhile isLeading).getLast? = true := by
  obtain ⟨name, rest, hrow, hname⟩ := exists_name_of_isBoundBy hbound
  cases hlast : (line.takeWhile isLeading).getLast? with
  | none => rfl
  | some l =>
    obtain ⟨before, hbefore⟩ := List.getLast?_eq_some_iff.mp hlast
    have hleading : l.isLeading = true :=
      List.mem_takeWhile_imp (hbefore ▸ List.mem_append_right before List.mem_cons_self)
    have hsplit : line = before ++ l :: name :: rest := by
      have := List.takeWhile_append_dropWhile (p := isLeading) (l := line)
      rw [hbefore, hrow] at this
      simpa using this.symm
    have hnext : l.kind ≠ .comment := by
      intro hcomment
      rw [Spaced, hsplit] at h
      exact (List.isChain_cons_cons.mp (List.isChain_append.mp h).2.1).1 hcomment hname
    unfold isLeading at hleading
    unfold startsLine precedesLine
    split at hleading <;> simp_all

-- The first row of a line is the line, but for the layout before it.
theorem boundInRow_iff (h : Spaced line) :
    BoundInRow e true line ↔
      isBoundBy e (line.dropWhile isLeading) = true ∨ Misread e line := by
  have hstarts (before : List Lexeme) :
      (before.getLast?.map (precedesLine ·.kind)).getD true = startsLine before.getLast? := by
    cases before.getLast? <;> rfl
  simp only [BoundInRow, hstarts]
  constructor
  · rintro ⟨before, row, rfl, hstart, hbound⟩
    by_cases hbegun : ∃ l ∈ before, l.isLeading = false
    · exact .inr ⟨before, row, rfl, ⟨hbegun, hstart⟩, hbound⟩
    · have hleading : ∀ l ∈ before, l.isLeading = true := by simpa using hbegun
      obtain ⟨name, rest, rfl, hname⟩ := exists_name_of_isBoundBy hbound
      have hstop : ¬ name.isLeading = true := by simp [isLeading, hname]
      rw [List.dropWhile_append_of_pos hleading, List.dropWhile_cons_of_neg hstop]
      exact .inl hbound
  · rintro (hbound | ⟨before, row, rfl, hgoes, hbound⟩)
    · exact ⟨_, _, List.takeWhile_append_dropWhile.symm, startsLine_takeWhile h hbound, hbound⟩
    · exact ⟨before, row, rfl, hgoes.atRow, hbound⟩

-- The lexemes behind some others are laid at the depth that these leave.
theorem exists_laid_behind {fresh : Bool} {before : List Lexeme}
    (h : Laid outer fresh (before ++ rest)) (hne : rest ≠ []) :
    ∃ fresh, Laid (outer + depth before) fresh rest := by
  induction before generalizing outer fresh with
  | nil => exact ⟨fresh, by simpa using h⟩
  | cons l before ih =>
    rw [depth_cons, ← Int.add_assoc]
    rw [List.cons_append] at h
    generalize hbehind : before ++ rest = behind at h
    have hlaid : ∃ fresh, Laid (outer + l.depthChange) fresh behind := by
      cases h with
      | newline hkind _ hrest | lineBreak hkind _ hrest | comment hkind _ hrest
      | close hkind _ hrest | indent hkind hrest | dedent hkind hrest =>
        rw [depthChange_of_kind (by simp [hkind]), Int.add_zero]
        exact ⟨_, hrest⟩
      | content _ hrest => exact ⟨_, hrest⟩
      | endMarker => exact absurd (List.append_eq_nil_iff.mp hbehind).2 hne
    obtain ⟨fresh, hlaid⟩ := hlaid
    exact ih (hbehind ▸ hlaid)

-- A row that goes on with a line stands within brackets, where no string is broken off before it.
theorem inside_of_goesOn {fresh : Bool} {before : List Lexeme}
    (h : Laid outer fresh (before ++ l :: rest)) (hname : l.kind = .name)
    (hbegun : fresh = false ∨ ∃ l ∈ before, l.isLeading = false) (hne : before ≠ [])
    (hstart : startsLine before.getLast? = true) (hnewline : ∀ l ∈ before, l.kind ≠ .newline)
    (hbroken : ∀ l ∈ before, l.isBroken = false) : 0 < outer + depth before := by
  induction before generalizing outer fresh with
  | nil => exact absurd rfl hne
  | cons b before ih =>
    rw [depth_cons, ← Int.add_assoc]
    obtain ⟨hb, hothers⟩ := List.forall_mem_cons.mp hnewline
    obtain ⟨hwhole, hwholes⟩ := List.forall_mem_cons.mp hbroken
    -- what is left of the line when `b` is layout
    have hlater (hleading : b.isLeading = true) :
        fresh = false ∨ ∃ l ∈ before, l.isLeading = false := by
      rcases hbegun with hfresh | ⟨first, hmem, hfirst⟩
      · exact .inl hfresh
      · rcases List.mem_cons.mp hmem with rfl | hmem
        · rw [hleading] at hfirst
          cases hfirst
        · exact .inr ⟨first, hmem, hfirst⟩
    rw [List.cons_append] at h
    cases before with
    | nil =>
      have hstart : precedesLine b.kind = true := hstart
      have hfresh (hleading : b.isLeading = true) : fresh = false := by
        simpa using hlater hleading
      cases h with
      | newline hkind => exact absurd hkind hb
      | lineBreak hkind hdepth =>
        have hfalse := hfresh (by simp [isLeading, hkind])
        have hpos := hdepth.resolve_right (by simp [hfalse])
        rw [depthChange_of_kind (by simp [hkind]), depth_nil]
        omega
      | comment hkind => simp [hkind, precedesLine] at hstart
      | indent hkind | dedent hkind => cases hfresh (by simp [isLeading, hkind])
      | close hkind hnext => rcases hnext l rfl with h | h <;> simp [hname] at h
      | content hkind =>
        rcases hkind with h | h | h | h | h <;> simp [h, precedesLine] at hstart
    | cons next before =>
      have hlast : startsLine (next :: before).getLast? = true := by
        rwa [List.getLast?_cons_cons] at hstart
      cases h with
      | newline hkind => exact absurd hkind hb
      | lineBreak hkind _ hrest | comment hkind _ hrest | close hkind _ hrest
      | indent hkind hrest | dedent hkind hrest =>
        rw [depthChange_of_kind (by simp [hkind]), Int.add_zero]
        exact ih hrest (hlater (by simp [isLeading, hkind])) (by simp) hlast hothers hwholes
      | content hkind hrest =>
        rw [hwhole, Bool.false_and] at hrest
        exact ih hrest (.inl rfl) (by simp) hlast hothers hwholes

-- Where the lines of lexemes stand among them: the first one at the start, each other one behind a
-- newline.
theorem exists_around_line :
    (∃ behind, lexemes = (linesUnder outer lexemes).headD [] ++ behind) ∧
      ∀ line ∈ (linesUnder outer lexemes).tail, ∃ front newline behind,
        newline.kind = .newline ∧ lexemes = front ++ newline :: (line ++ behind) := by
  induction lexemes generalizing outer with
  | nil => exact ⟨⟨[], rfl⟩, by simp [linesUnder, linesFrom]⟩
  | cons l rest ih =>
    obtain ⟨⟨behind, hfirst⟩, hothers⟩ := @ih (outer + l.depthChange)
    have hlater : ∀ line ∈ (linesUnder (outer + l.depthChange) rest).tail,
        ∃ front newline behind, newline.kind = .newline ∧
          l :: rest = front ++ newline :: (line ++ behind) := by
      intro line hline
      obtain ⟨front, newline, behind, hkind, hrest⟩ := hothers line hline
      exact ⟨l :: front, newline, behind, hkind, by rw [hrest]; rfl⟩
    by_cases hkind : l.kind = .newline
    · rw [linesUnder_newline hkind]
      refine ⟨⟨rest, rfl⟩, fun line hline => ?_⟩
      cases hlines : linesUnder (outer + l.depthChange) rest with
      | nil => simp [hlines] at hline
      | cons first others =>
        rw [List.tail_cons, hlines] at hline
        rw [hlines] at hfirst hlater
        rcases List.mem_cons.mp hline with rfl | hline
        · exact ⟨[], l, behind, hkind, congrArg (l :: ·) hfirst⟩
        · exact hlater line hline
    · rw [linesUnder_cons hkind]
      exact ⟨⟨behind, congrArg (l :: ·) hfirst⟩, hlater⟩

theorem not_newline_of_mem_line {before row : List Lexeme}
    (h : before ++ row ∈ linesUnder outer lexemes) (hne : row ≠ []) :
    ∀ l ∈ before, l.kind ≠ .newline := by
  induction lexemes generalizing outer before with
  | nil => cases h
  | cons l rest ih =>
    cases before with
    | nil => simp
    | cons b before =>
      by_cases hkind : l.kind = .newline
      · rw [linesUnder_newline hkind] at h
        rcases List.mem_cons.mp h with hline | hline
        · have := (List.append_eq_nil_iff.mp (List.cons.inj hline).2).2
          exact absurd this hne
        · exact ih hline
      · rw [linesUnder_cons hkind] at h
        rcases List.mem_cons.mp h with hline | hline
        · obtain ⟨rfl, hfirst⟩ := List.cons.inj hline
          refine List.forall_mem_cons.mpr ⟨hkind, ?_⟩
          cases hlines : linesUnder (outer + b.depthChange) rest with
          | nil =>
            rw [hlines] at hfirst
            exact absurd (List.append_eq_nil_iff.mp hfirst).2 hne
          | cons first others =>
            have hmem : before ++ row ∈ linesUnder (outer + b.depthChange) rest := by
              rw [hlines] at hfirst ⊢
              exact List.mem_cons.mpr (.inl hfirst)
            exact ih hmem
        · exact ih (List.mem_of_mem_tail hline)

-- Each logical line begins where no bracket is open.
theorem exists_laid_line {line : List Lexeme} (hlaid : Laid 0 true lexemes)
    (hnested : Nested 0 lexemes) (hline : line ∈ logicalLines lexemes) (hne : line ≠ []) :
    ∃ behind, Laid 0 true (line ++ behind) := by
  obtain ⟨⟨behind, hfirst⟩, hothers⟩ := @exists_around_line lexemes 0
  have hlines : line = (linesUnder 0 lexemes).headD [] ∨ line ∈ (linesUnder 0 lexemes).tail := by
    rw [logicalLines] at hline
    change line ∈ linesUnder 0 lexemes at hline
    cases hcases : linesUnder 0 lexemes with
    | nil => simp [hcases] at hline
    | cons first others => simpa [hcases] using hline
  rcases hlines with rfl | hline
  · exact ⟨behind, hfirst ▸ hlaid⟩
  · obtain ⟨front, newline, behind, hkind, rfl⟩ := hothers line hline
    obtain ⟨fresh, hnewline⟩ := exists_laid_behind hlaid (by simp)
    have hnonneg := hnested.behind.nonneg
    rw [Int.zero_add] at hnewline hnonneg
    generalize depth front = outer at hnewline hnonneg
    generalize hmore : line ++ behind = more at hnewline
    cases hnewline with
    | newline _ hdepth hrest =>
      obtain rfl : outer = 0 := by omega
      exact ⟨behind, hmore ▸ hrest⟩
    | lineBreak h | comment h | indent h | dedent h | close h | endMarker h =>
      rw [hkind] at h
      cases h
    | content h => rcases h with h | h | h | h | h <;> simp [hkind] at h

end

-- The names that a text binds: all that it defines, imports or assigns, and those that a row within
-- brackets or behind a broken string seems to import or assign.
theorem mem_boundNames_iff_isBound {t e : Text} {lexemes : List Lexeme}
    (hscan : scan t = .ok lexemes) (hnested : Nested 0 lexemes)
    (hname : EntryPoint.isName e = true) :
    (e ∈ boundNames lexemes ↔
        isBound e lexemes = true ∨ ∃ line ∈ logicalLines lexemes, Misread e line) ∧
      (∀ line ∈ logicalLines lexemes, ∀ before row, line = before ++ row → GoesOn before →
        isBoundBy e row = true → 0 < depth before ∨ ∃ l ∈ before, l.isBroken = true) ∧
      ((∀ line ∈ logicalLines lexemes, ¬ Misread e line) →
        (e ∈ boundNames lexemes ↔ isBound e lexemes = true)) := by
  have hlaid := laid_scan hscan
  have hspaced : ∀ line ∈ logicalLines lexemes, Spaced line := by
    intro line hline
    have hinfix := List.infix_of_mem_flatten hline
    rw [logicalLines, linesFrom_flatten] at hinfix
    exact List.IsChain.infix (spaced_of_laid hlaid) hinfix
  have hbound : e ∈ boundNames lexemes ↔
      isBound e lexemes = true ∨ ∃ line ∈ logicalLines lexemes, Misread e line := by
    rw [mem_boundNames_iff hname, isBound, Bool.or_eq_true, List.any_eq_true, or_assoc,
      ← exists_or]
    refine or_congr_right (exists_congr fun line => ?_)
    rw [← and_or_left]
    exact and_congr_right fun hline => boundInRow_iff (hspaced line hline)
  refine ⟨hbound, ?_, fun hnone => ?_⟩
  · rintro line hline before row rfl hgoes hrow
    by_contra hout
    simp only [not_or, not_exists, not_and, Bool.not_eq_true] at hout
    obtain ⟨name, rest, rfl, hkind⟩ := exists_name_of_isBoundBy hrow
    obtain ⟨behind, hline'⟩ := exists_laid_line hlaid hnested hline (by simp)
    have hne : before ≠ [] := by
      obtain ⟨l, hmem, -⟩ := hgoes.begun
      exact List.ne_nil_of_mem hmem
    rw [List.append_assoc, List.cons_append] at hline'
    have hpos := inside_of_goesOn hline' hkind (.inr hgoes.begun) hne hgoes.atRow
      (not_newline_of_mem_line hline (by simp)) hout.2
    exact hout.1 (by simpa using hpos)
  · rw [hbound]
    exact or_iff_left fun ⟨line, hline, hmisread⟩ => hnone line hline hmisread

-- A definition and an assignment bind, and a parameter without a default does not.
example : (scan "def magic(do_it):\n    try_it = 1\n".toList).toOption.map boundNames =
    some ["magic".toList, "try_it".toList] := by decide +kernel

-- An import over two rows, an argument with a name in a row with others, and an assignment.
def bindingText : Text :=
  "from m import (magic,\n do_it)\nif f(\n a, try_it=1):\n # c\n\n help_me = 2\n".toList

theorem mem_boundNames_binding :
    ∃ lexemes, scan bindingText = .ok lexemes ∧ Nested 0 lexemes ∧
      EntryPoint.isName "do_it".toList = true ∧
      (∀ line ∈ logicalLines lexemes, ¬ Misread "do_it".toList line) ∧
      ("do_it".toList ∈ boundNames lexemes ↔ isBound "do_it".toList lexemes = true) ∧
      boundNames lexemes = ["magic".toList, "do_it".toList, "help_me".toList] := by
  have hname : EntryPoint.isName "do_it".toList = true := by decide
  obtain ⟨lexemes, hscan, hnested, hnone, hnames⟩ : ∃ lexemes, scan bindingText = .ok lexemes ∧
      Nested 0 lexemes ∧ (∀ line ∈ logicalLines lexemes, ¬ Misread "do_it".toList line) ∧
      boundNames lexemes = ["magic".toList, "do_it".toList, "help_me".toList] :=
    ⟨(scan bindingText).toOption.getD [], by decide +kernel⟩
  exact ⟨lexemes, hscan, hnested, hname, hnone,
    (mem_boundNames_iff_isBound hscan hnested hname).2.2 hnone, hnames⟩

-- An argument with a name in a row of its own.
def argumentText : Text := "f(\n    magic=1\n)\nmagic()\n".toList

-- An assignment in the line that a broken string begins.
def brokenAssignment : Text := "'a\\\nb\n\nmagic = 1\nmagic()\n".toList

-- Names that are not bound, and are taken for bound, so that the directive with the name is lost.
theorem boundNames_ne_isBound :
    (∃ lexemes, scan argumentText = .ok lexemes ∧ Nested 0 lexemes ∧
      EntryPoint.isName "magic".toList = true ∧ "magic".toList ∈ boundNames lexemes ∧
      isBound "magic".toList lexemes = false ∧
      (find modulePath argumentText).toOption = some []) ∧
    ∃ lexemes, scan brokenAssignment = .ok lexemes ∧ Nested 0 lexemes ∧
      "magic".toList ∈ boundNames lexemes ∧ isBound "magic".toList lexemes = false ∧
      (find modulePath brokenAssignment).toOption = some [] := by
  refine ⟨⟨(scan argumentText).toOption.getD [], ?_⟩,
    ⟨(scan brokenAssignment).toOption.getD [], ?_⟩⟩ <;> decide +kernel

end Ghostwriter.Directive

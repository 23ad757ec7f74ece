import Ghostwriter.Proofs.Grammar.Line

/-!
What a text comes to next to another one: a row that starts anew, a line that is continued, and the
blanks behind a snippet.
-/

namespace Ghostwriter.Grammar

open Ghostwriter.Text Ghostwriter.Lexeme

namespace RowState

variable {s s' last : RowState} {c : Char} {mark : Option Mark} {t a b : Text}
  {marks marks' : List Mark}

-- A mode of a string holds the quote of the string.
def IsSound (s : RowState) : Prop :=
  match s.mode with
  | .opened quote | .emptied quote | .string quote _ _ | .escape quote _ => isQuote quote = true
  | _ => True

-- In a string, behind its first quote.
def InString (s : RowState) : Prop :=
  match s.mode with
  | .opened _ | .string _ _ _ | .escape _ _ => True
  | _ => False

theorem start_isSound : start.IsSound := trivial

theorem codeStep?_isSound (h : s.codeStep? c = some (mark, s')) : s'.IsSound := by
  unfold codeStep? at h
  split at h
  case isTrue hquote =>
    cases h
    simpa [IsSound, isQuote] using hquote
  case isFalse =>
    repeat' split at h
    all_goals cases h
    all_goals trivial

theorem stringMode?_isSound {quote : Char} {tripled : Bool} {quotes depth : Nat} {mode : Mode}
    (hquote : isQuote quote = true) (h : stringMode? quote tripled quotes c = some mode) :
    (RowState.mk mode depth).IsSound := by
  unfold stringMode? at h
  repeat' split at h
  all_goals cases h
  all_goals first | exact hquote | trivial

theorem step?_isSound (hs : s.IsSound) (h : s.step? c = some (mark, s')) : s'.IsSound := by
  obtain ⟨mode, depth⟩ := s
  cases mode with
  | code => exact codeStep?_isSound h
  | joined => exact codeStep?_isSound h
  | backslash =>
    simp only [step?] at h
    split at h
    · cases h
      trivial
    · cases h
  | comment =>
    simp only [step?, endRow] at h
    split at h <;> cases h <;> trivial
  | opened quote =>
    simp only [step?] at h
    split at h
    · cases h
      exact hs
    · obtain ⟨mode, hmode, heq⟩ := Option.map_eq_some_iff.mp h
      cases heq
      exact stringMode?_isSound hs hmode
  | emptied quote =>
    simp only [step?] at h
    split at h
    · cases h
      exact hs
    · exact codeStep?_isSound h
  | string quote tripled quotes =>
    obtain ⟨mode, hmode, heq⟩ := Option.map_eq_some_iff.mp h
    cases heq
    exact stringMode?_isSound hs hmode
  | escape quote tripled =>
    cases h
    exact hs

theorem run?_isSound (hs : s.IsSound) (h : s.run? t = some (marks, last)) : last.IsSound := by
  induction t generalizing s marks with
  | nil =>
    cases h
    exact hs
  | cons c t ih =>
    obtain ⟨mark, next, others, hstep, hrest, rfl⟩ := exists_of_run?_cons h
    exact ih (step?_isSound hs hstep) hrest

-- A backslash alone leads behind a backslash, and only from there a row is joined.
theorem step?_mode_backslash (h : s.step? c = some (mark, s')) (hslash : s'.mode = .backslash) :
    c = '\\' := by
  obtain ⟨mode, depth⟩ := s
  cases mode <;> simp only [step?, codeStep?, stringMode?, endRow] at h <;>
    repeat' split at h
  all_goals simp_all
  all_goals
    obtain ⟨_, rfl⟩ := h
    cases hslash

theorem step?_mode_joined (h : s.step? c = some (mark, s')) (hjoined : s'.mode = .joined) :
    c = '\n' ∧ s.mode = .backslash := by
  obtain ⟨mode, depth⟩ := s
  cases mode <;> simp only [step?, codeStep?, stringMode?, endRow] at h <;>
    repeat' split at h
  all_goals simp_all
  all_goals
    obtain ⟨_, rfl⟩ := h
    cases hjoined

-- A row that ends outside strings, brackets and comments, and without a backslash, ends its line.
theorem step?_eq_start (hs : s.IsSound) (h : s.step? '\n' = some (mark, start)) :
    mark = some .ended := by
  obtain ⟨mode, depth⟩ := s
  cases mode with
  | string quote tripled quotes =>
    have hquote : '\n' ≠ quote := by
      rintro rfl
      cases hs
    simp only [step?, stringMode?, start, hquote, Option.map_eq_some_iff] at h
    obtain ⟨mode, hmode, heq⟩ := h
    cases heq
    repeat' split at hmode
    all_goals first | contradiction | cases hmode
  | _ =>
    simp [step?, codeStep?, stringMode?, endRow, start] at h ⊢
    repeat' split at h
    all_goals simp_all

-- Blanks outside strings and comments stay.
theorem codeStep?_gap (hc : isGap c = true) :
    s.codeStep? c = some (some (.keep c), ⟨.code, s.depth⟩) := by
  simp only [isGap, Bool.or_eq_true, decide_eq_true_eq] at hc
  rcases hc with (rfl | rfl) | rfl <;> rfl

theorem run?_gaps {depth : Nat} (h : ∀ c ∈ t, isGap c = true) :
    (RowState.mk .code depth).run? t = some (t.map .keep, ⟨.code, depth⟩) := by
  induction t with
  | nil => rfl
  | cons c t ih =>
    rw [List.forall_mem_cons] at h
    simp [run?, step?, codeStep?_gap h.1, ih h.2]

-- What a text comes to that begins with the end of a line: nothing but blanks, then the end.
theorem codeStep?_cases (h : s.codeStep? c = some (mark, s')) :
    (isGap c = true ∧ mark = some (.keep c) ∧ s' = ⟨.code, s.depth⟩) ∨
      (c = '\n' ∧ (mark, s') = s.endRow) ∨ (c = '#' ∧ mark = none ∧ s' = ⟨.comment, s.depth⟩) ∨
      (c = '\\' ∧ mark = none ∧ s' = ⟨.backslash, s.depth⟩) ∨
      (isGap c = false ∧ mark = some (.keep c)) := by
  by_cases hgap : isGap c = true
  · rw [codeStep?_gap hgap] at h
    cases h
    exact .inl ⟨hgap, rfl, rfl⟩
  · rw [Bool.not_eq_true] at hgap
    unfold codeStep? at h
    repeat' split at h
    all_goals cases h
    all_goals simp_all [endRow]

theorem endRow_start : start.endRow = (some .ended, start) := rfl

theorem marks?_start_nil : start.marks? [] = some [] := rfl

theorem marks?_joined {depth : Nat} (h : (RowState.mk .joined depth).marks? t = some marks) :
    (RowState.mk .code depth).marks? t = some marks := by
  cases t with
  | nil => simp [marks?, run?, isSettled] at h
  | cons c t => exact h

theorem marks?_comment_cons {depth : Nat} (hc : c ≠ '\n') :
    (RowState.mk .comment depth).marks? (c :: t) = (RowState.mk .comment depth).marks? t := by
  have hstep : (RowState.mk .comment depth).step? c = some (none, ⟨.comment, depth⟩) := by
    simp [step?, hc]
  rw [marks?_cons hstep]
  simp

theorem marks?_comment_start : ∀ {t : Text} {marks : List Mark},
    (RowState.mk .comment 0).marks? t = some marks → ∃ behind, marks = .ended :: behind
  | [], marks, h => by
    cases h
    exact ⟨[], rfl⟩
  | c :: t, marks, h => by
    by_cases hc : c = '\n'
    · subst hc
      rw [@marks?_cons _ start _ _ (some .ended) rfl] at h
      obtain ⟨behind, _, rfl⟩ := Option.map_eq_some_iff.mp h
      exact ⟨behind, rfl⟩
    · rw [marks?_comment_cons hc] at h
      exact marks?_comment_start h

theorem cons_append_ended {m : Mark} {blanks behind behind' : List Mark} (hm : m ≠ .ended)
    (hblank : ∀ m ∈ blanks, m.isBlank = true)
    (h : m :: behind = blanks ++ .ended :: behind') :
    m.isBlank = true ∧ ∃ blanks', (∀ m ∈ blanks', m.isBlank = true) ∧ blanks = m :: blanks' ∧
      behind = blanks' ++ .ended :: behind' := by
  cases blanks with
  | nil => exact absurd (List.cons.inj h).1 hm
  | cons m' blanks =>
    rw [List.cons_append, List.cons.injEq] at h
    obtain ⟨rfl, rfl⟩ := h
    rw [List.forall_mem_cons] at hblank
    exact ⟨hblank.1, blanks, hblank.2, rfl, rfl⟩

-- A comment takes the blanks before the end of a line, and the row that a backslash there would
-- join becomes a blank line of its own.
theorem marks?_comment_of_blank {t : Text} {blanks behind : List Mark}
    (hblank : ∀ m ∈ blanks, m.isBlank = true)
    (h : start.marks? t = some (blanks ++ .ended :: behind)) :
    ∃ between, (RowState.mk .comment 0).marks? t = some (.ended :: (between ++ behind)) ∧
      (between = [] ∨ ∃ blanks', (∀ m ∈ blanks', m.isBlank = true) ∧
        between = blanks' ++ [.ended]) := by
  induction t generalizing blanks with
  | nil =>
    rw [marks?_start_nil] at h
    exact absurd (Option.some.inj h) (by simp)
  | cons c t ih =>
    cases hstep : start.codeStep? c with
    | none =>
      rw [marks?_cons_none (s := start) hstep] at h
      cases h
    | some result =>
      obtain ⟨mark, next⟩ := result
      rw [marks?_cons (s := start) hstep] at h
      obtain ⟨rest, hrest, hmarks⟩ := Option.map_eq_some_iff.mp h
      rcases codeStep?_cases hstep with ⟨hgap, rfl, rfl⟩ | ⟨rfl, heq⟩ | ⟨rfl, rfl, rfl⟩ |
        ⟨rfl, rfl, rfl⟩ | ⟨hgap, rfl⟩
      · obtain ⟨_, blanks', hblank', rfl, rfl⟩ := cons_append_ended (by simp) hblank hmarks
        have hne : c ≠ '\n' := by
          rintro rfl
          cases hgap
        rw [marks?_comment_cons hne]
        exact ih hblank' hrest
      · rw [endRow_start, Prod.mk.injEq] at heq
        obtain ⟨rfl, rfl⟩ := heq
        rw [@marks?_cons _ start _ _ (some .ended) rfl, hrest]
        cases blanks with
        | nil =>
          cases hmarks
          exact ⟨[], rfl, .inl rfl⟩
        | cons m blanks =>
          cases hmarks
          exact absurd (hblank .ended (by simp)) (by decide)
      · rw [marks?_comment_cons (by decide)]
        obtain ⟨behind', rfl⟩ := marks?_comment_start hrest
        change (.ended :: behind' : List Mark) = _ at hmarks
        cases blanks with
        | nil =>
          cases hmarks
          exact ⟨[], hrest, .inl rfl⟩
        | cons m blanks =>
          cases hmarks
          exact absurd (hblank .ended (by simp)) (by decide)
      · rw [marks?_comment_cons (by decide)]
        cases t with
        | nil => cases hrest
        | cons d t =>
          by_cases hd : d = '\n'
          · subst hd
            rw [@marks?_cons _ ⟨.joined, 0⟩ _ _ (some .cut) rfl] at hrest
            obtain ⟨others, hothers, rfl⟩ := Option.map_eq_some_iff.mp hrest
            obtain ⟨_, blanks', hblank', rfl, rfl⟩ := cons_append_ended (by simp) hblank hmarks
            have hstart : start.marks? t = some (blanks' ++ .ended :: behind) :=
              marks?_joined hothers
            rw [@marks?_cons _ start _ _ (some .ended) rfl, hstart]
            exact ⟨blanks' ++ [.ended], by simp, .inr ⟨blanks', hblank', rfl⟩⟩
          · rw [marks?_cons_none (by simp [step?, hd])] at hrest
            cases hrest
      · obtain ⟨hkeep, _⟩ := cons_append_ended (by simp) hblank hmarks
        rw [Mark.isBlank, hgap] at hkeep
        cases hkeep

-- Behind a text that may end anywhere, a blank end of a line only adds blanks.
theorem marks?_of_settled {blanks behind : List Mark} (hs : s.IsSound) (hsettled : s.isSettled = true)
    (hblank : ∀ m ∈ blanks, m.isBlank = true)
    (h : start.marks? t = some (blanks ++ .ended :: behind)) :
    ∃ blanks' between, (∀ m ∈ blanks', m.isBlank = true) ∧
      s.marks? t = some (blanks' ++ .ended :: (between ++ behind)) ∧
      (between = [] ∨ ∃ blanks', (∀ m ∈ blanks', m.isBlank = true) ∧
        between = blanks' ++ [.ended]) := by
  obtain ⟨mode, depth⟩ := s
  simp only [isSettled, Bool.and_eq_true, decide_eq_true_eq] at hsettled
  obtain ⟨rfl, hmode⟩ := hsettled
  cases mode with
  | code => exact ⟨blanks, [], hblank, h, .inl rfl⟩
  | comment =>
    obtain ⟨between, hmarks, hbetween⟩ := marks?_comment_of_blank hblank h
    exact ⟨[], between, by simp, hmarks, hbetween⟩
  | emptied quote =>
    refine ⟨blanks, [], hblank, ?_, .inl rfl⟩
    cases t with
    | nil =>
      rw [marks?_start_nil] at h
      exact absurd (Option.some.inj h) (by simp)
    | cons c t =>
      by_cases hc : c = quote
      · -- A quote would stand on the line.
        subst hc
        have hstep : start.step? c = some (some (.keep c), ⟨.opened c, 0⟩) := by
          change isQuote c = true at hs
          simp only [isQuote, Bool.or_eq_true, decide_eq_true_eq] at hs
          rcases hs with rfl | rfl <;> rfl
        rw [marks?_cons hstep] at h
        obtain ⟨rest, _, hmarks⟩ := Option.map_eq_some_iff.mp h
        obtain ⟨hkeep, _⟩ := cons_append_ended (by simp) hblank hmarks
        change isQuote c = true at hs
        simp only [isQuote, Bool.or_eq_true, decide_eq_true_eq] at hs
        rcases hs with rfl | rfl <;> cases hkeep
      · have hstep : (RowState.mk (.emptied quote) 0).step? c = start.step? c := by
          simp [step?, hc, start, codeStep?, endRow]
        rw [List.nil_append, ← h, marks?, marks?, run?, run?, hstep]
  | _ => cases hmode

theorem run?_mode_joined (h : start.run? t = some (marks, last)) (hbreak : t.getLast? ≠ some '\n') :
    last.mode ≠ .joined := by
  intro hjoined
  rcases List.eq_nil_or_concat t with rfl | ⟨before, c, rfl⟩
  · cases h
    cases hjoined
  · rw [List.concat_eq_append] at h hbreak
    obtain ⟨marks₁, middle, marks₂, _, hlast, _⟩ := run?_split h
    obtain ⟨mark, next, others, hstep, ⟨⟩, rfl⟩ := exists_of_run?_cons hlast
    obtain ⟨rfl, -⟩ := step?_mode_joined hstep hjoined
    simp at hbreak

-- Where one more line end makes a text complete, the text may end before it.
theorem isSettled_of_break (hs : s.IsSound) (hjoined : s.mode ≠ .joined)
    (h : s.marks? ['\n'] = some marks) : s.isSettled = true ∧ marks = [.ended] := by
  obtain ⟨mode, depth⟩ := s
  cases mode with
  | joined => exact absurd rfl hjoined
  | string quote tripled quotes =>
    have hquote : '\n' ≠ quote := by
      rintro rfl
      cases hs
    cases tripled <;>
      simp [marks?, run?, step?, stringMode?, isSettled, hquote] at h
  | emptied quote =>
    have hquote : '\n' ≠ quote := by
      rintro rfl
      cases hs
    by_cases hdepth : depth = 0
    · simp_all [marks?, run?, step?, codeStep?, endRow, isSettled]
    · simp_all [marks?, run?, step?, codeStep?, endRow, isSettled]
  | opened quote =>
    have hquote : '\n' ≠ quote := by
      rintro rfl
      cases hs
    simp [marks?, run?, step?, stringMode?, hquote] at h
  | _ =>
    by_cases hdepth : depth = 0
    · simp_all [marks?, run?, step?, codeStep?, endRow, isSettled]
    · simp_all [marks?, run?, step?, codeStep?, endRow, isSettled]

end RowState

end Ghostwriter.Grammar

import Ghostwriter.Proofs.Directive.Statement
import Ghostwriter.Proofs.Grammar.Context
import Ghostwriter.Proofs.Grammar.Spelled
import Ghostwriter.Proofs.Lexeme.Passage

/-!
What is left of a logical line: blanks, backslashes that join rows, a comment, and the end. Where
the scanner finds nothing else behind a directive, the reader does not either.
-/

namespace Ghostwriter.Splice

open Ghostwriter.Directive Ghostwriter.Grammar Ghostwriter.Lexeme Ghostwriter.Text

-- Nothing but blanks and a comment, up to the end of a logical line.
def Trails (t : Text) : Prop :=
  ∃ blanks, (∀ m ∈ blanks, m.isBlank = true) ∧
    RowState.start.run? (t ++ ['\n']) = some (blanks ++ [.ended], .start)

-- A text in which nothing but that is left of a line.
def Trailing (t : Text) : Prop :=
  ∃ tail, Trails tail ∧ (t = tail ∨ ∃ rest, t = tail ++ '\n' :: rest)

section

variable {gaps t u w : Text} {marks : List Mark}

theorem isBlank_keep (hgaps : ∀ c ∈ gaps, isGap c = true) :
    ∀ m ∈ gaps.map Mark.keep, m.isBlank = true := by
  simpa [Mark.isBlank] using hgaps

theorem trails_of_gaps (hgaps : ∀ c ∈ gaps, isGap c = true) : Trails gaps :=
  ⟨_, isBlank_keep hgaps, RowState.run?_append (RowState.run?_gaps hgaps) rfl⟩

theorem trails_of_comment (hgaps : ∀ c ∈ gaps, isGap c = true) (ht : ∀ c ∈ t, c ≠ '\n') :
    Trails (gaps ++ '#' :: t) := by
  have hcomment : RowState.start.run? ('#' :: t) = some ([], ⟨.comment, 0⟩) :=
    @RowState.run?_cons .start ⟨.comment, 0⟩ _ [] '#' t none rfl (run?_comment ht 0)
  refine ⟨_, isBlank_keep hgaps, ?_⟩
  rw [List.append_assoc]
  exact RowState.run?_append (RowState.run?_gaps hgaps) (RowState.run?_append hcomment rfl)

-- A backslash that joins one more row.
theorem Trails.join (hgaps : ∀ c ∈ gaps, isGap c = true) (h : Trails t) :
    Trails (gaps ++ '\\' :: '\n' :: t) := by
  obtain ⟨blanks, hblank, hrun⟩ := h
  have hjoined : RowState.run? ⟨.joined, 0⟩ (t ++ ['\n']) = some (blanks ++ [.ended], .start) := by
    cases t <;> exact hrun
  have hbreak : RowState.run? ⟨.backslash, 0⟩ ('\n' :: (t ++ ['\n'])) =
      some (.cut :: (blanks ++ [.ended]), .start) :=
    @RowState.run?_cons ⟨.backslash, 0⟩ ⟨.joined, 0⟩ _ _ '\n' _ (some .cut) rfl hjoined
  have hslash : RowState.start.run? ('\\' :: '\n' :: (t ++ ['\n'])) =
      some (.cut :: (blanks ++ [.ended]), .start) :=
    @RowState.run?_cons .start ⟨.backslash, 0⟩ _ _ '\\' _ none rfl hbreak
  refine ⟨gaps.map .keep ++ .cut :: blanks, ?_, ?_⟩
  · rw [List.forall_mem_append, List.forall_mem_cons]
    exact ⟨isBlank_keep hgaps, rfl, hblank⟩
  · have hwhole : RowState.start.run? _ = _ :=
      RowState.run?_append (RowState.run?_gaps hgaps) hslash
    simpa using hwhole

theorem Trailing.join (hgaps : ∀ c ∈ gaps, isGap c = true) (h : Trailing t) :
    Trailing (gaps ++ '\\' :: '\n' :: t) := by
  obtain ⟨tail, htrails, rfl | ⟨rest, rfl⟩⟩ := h
  · exact ⟨_, htrails.join hgaps, .inl rfl⟩
  · exact ⟨_, htrails.join hgaps, .inr ⟨rest, by simp⟩⟩

-- No logical line ends within what is left of one.
theorem not_trails_of_endsLine (h : EndsLine u marks) (hne : u ≠ []) (w : Text) :
    ¬ Trails (u ++ w) := by
  rintro ⟨blanks, hblank, hrun⟩
  obtain ⟨before, rfl⟩ := h.eq_append hne
  rw [List.append_assoc] at hrun
  obtain ⟨marks₁, middle, marks₂, hu, hw, hmarks⟩ := RowState.run?_split hrun
  rw [h.read] at hu
  cases hu
  -- The line feed at the end leaves a mark of its own.
  obtain ⟨marks₃, last, marks₄, hfront, hbreak, rfl⟩ := RowState.run?_split hw
  obtain ⟨mark, next, others, hstep, ⟨⟩, rfl⟩ := RowState.exists_of_run?_cons hbreak
  obtain ⟨m, rfl⟩ : ∃ m, mark = some m := by
    rcases step?_break (RowState.run?_isSound RowState.start_isSound hfront) hstep with
      ⟨rfl, -⟩ | ⟨rfl, -⟩ | ⟨rfl, -⟩ | ⟨rfl, -⟩ <;> exact ⟨_, rfl⟩
  have hsplit : blanks ++ [.ended] = before ++ [.ended] ++ marks₃ ++ [m] := by
    rw [hmarks]
    simp
  have hblanks := (List.append_inj' hsplit rfl).1
  cases hblank .ended (by simp [hblanks])

-- What is left of a line ends at the latest where the line does, whatever follows.
theorem Trailing.of_endsLine (h : Trailing (u ++ w)) (hu : EndsLine u marks) (hne : u ≠ [])
    (more : Text) : Trailing (u ++ more) := by
  obtain ⟨tail, htrails, heq | ⟨rest, heq⟩⟩ := h
  · exact absurd (heq ▸ htrails) (not_trails_of_endsLine hu hne w)
  · rcases append_eq_append_cons heq with ⟨front, rfl, -⟩ | ⟨behind, rfl, -⟩
    · exact absurd htrails (not_trails_of_endsLine hu hne front)
    · exact ⟨tail, htrails, .inr ⟨behind ++ more, by simp⟩⟩

end

section

variable {row column : Nat} {rest : Text} {rows : List Text} {state next final : ScanState}
  {lexemes more there behind : List Lexeme}

-- A string that is open comes to an end in a lexeme of its own.
theorem exists_string (h : ScansLines row rows state lexemes final) (hopen : state.openString ≠ none)
    (hclosed : final.openString = none) :
    ∃ l others, lexemes = l :: others ∧ (l.kind = .string ∨ l.kind = .stray) := by
  induction h with
  | nil => exact absurd hclosed hopen
  | cons _ hline _ ih =>
    cases hline with
    | string _ hstring =>
      cases hstring with
      | closed => exact ⟨_, _, rfl, .inl rfl⟩
      | broken => exact ⟨_, _, rfl, .inr rfl⟩
      | goesOn => exact ih (by simp) hclosed
    | first hnone => exact absurd hnone hopen
    | rest hnone => exact absurd hnone hopen

theorem not_isContent_of_endsStatement {l : Lexeme} (h : endsStatement (l :: lexemes) = true) :
    ¬ IsContent l.kind := by
  intro hkind
  have hnone : endsStatement (l :: lexemes) = false := by
    rcases hkind with h | h | h | h | h <;>
      exact endsStatement_of_kind (by simp [h]) (by simp [h]) (by simp [isTrivia, h])
  rw [hnone] at h
  cases h

-- Only the last row lacks a line feed.
theorem eq_nil_of_rows (h : Rows (rest :: rows)) (hbreak : '\n' ∉ rest) : rows = [] := by
  by_contra hne
  exact hbreak (h.2.1 hne)

-- Blanks and a comment, up to the end of the row.
theorem trailing_of_comment {gaps t after : Text} (hgaps : ∀ c ∈ gaps, isGap c = true)
    (hinside : ∀ c ∈ t, c ≠ '\r' ∧ c ≠ '\n') (hbreaks : BreaksFirst after)
    (hreturn : '\r' ∉ gaps ++ ('#' :: t ++ after))
    (hrows : Rows ((gaps ++ ('#' :: t ++ after)) :: rows)) :
    Trailing (gaps ++ ('#' :: t ++ after) ++ rows.flatten) := by
  have htrails := trails_of_comment hgaps fun c hc => (hinside c hc).2
  cases after with
  | nil =>
    have hgap : '\n' ∉ gaps := fun hmem => by cases hgaps _ hmem
    have ht : '\n' ∉ t := fun hmem => (hinside _ hmem).2 rfl
    obtain rfl := eq_nil_of_rows hrows (by simp [hgap, ht])
    exact ⟨_, htrails, .inl (by simp)⟩
  | cons c after =>
    rcases hbreaks c rfl with rfl | rfl
    · simp at hreturn
    · exact ⟨_, htrails, .inr ⟨after ++ rows.flatten, by simp⟩⟩

-- Where the statement ends, the line ends in this row, or a backslash joins the next one to it.
theorem trailing_or_joined (h : ScansRest row column rest state more next)
    (hrows : Rows (rest :: rows)) (hreturn : '\r' ∉ rest)
    (hbelow : ScansLines (row + 1) rows next there final) (hclosed : final.openString = none)
    (hends : endsStatement (more ++ (there ++ behind)) = true) :
    Trailing (rest ++ rows.flatten) ∨ ∃ gaps, rest = gaps ++ ['\\', '\n'] ∧
      (∀ c ∈ gaps, isGap c = true) ∧ more = [] ∧ next = { state with continued := true } := by
  cases h with
  | nothing hpiece =>
    obtain rfl := eq_nil_of_rows hrows (piece_nothing hpiece)
    exact .inl ⟨rest, trails_of_gaps (isGap_of_nothing hpiece), .inl (by simp)⟩
  | joined _ hgaps hwhole =>
    obtain rfl := hwhole.eq_newline fun hmem => hreturn (by simp [hmem])
    exact .inr ⟨_, rfl, hgaps, rfl, rfl⟩
  | opens =>
    obtain ⟨l, others, rfl, hkind⟩ := exists_string hbelow (by simp) hclosed
    exact absurd (by rcases hkind with h | h <;> simp [IsContent, h])
      (not_isContent_of_endsStatement hends)
  | newline _ hgaps hwhole =>
    obtain rfl := hwhole.eq_newline fun hmem => hreturn (by simp [hmem])
    exact .inl ⟨_, trails_of_gaps hgaps, .inr ⟨rows.flatten, by simp⟩⟩
  | lexeme hrow hpiece hgaps hknown _ hmade =>
    rcases hknown with hcontent | ⟨rfl, hbreaks⟩
    · exact absurd (by rwa [hmade]) (not_isContent_of_endsStatement hends)
    · cases taken_of_piece hrow hpiece (by decide) with
      | content hstands => exact absurd rfl hstands.kind_ne.2.1
      | comment hmarked hinside =>
        subst hmarked
        exact .inl (trailing_of_comment hgaps hinside hbreaks hreturn hrows)

-- Where the scanner finds that the statement ends, the reader does, and nothing stands before.
theorem trailing_scansRest (h : ScansRest row column rest state more next)
    (hrows : Rows (rest :: rows)) (hreturn : ∀ line ∈ rest :: rows, '\r' ∉ line)
    (hstate : state.openString = none) (hbelow : ScansLines (row + 1) rows next there final)
    (hclosed : final.openString = none) (hcontinued : final.continued = false)
    (hends : endsStatement (more ++ (there ++ behind)) = true) :
    Trailing (rest ++ rows.flatten) := by
  induction rows generalizing row column rest state next more there with
  | nil =>
    rcases trailing_or_joined h hrows (hreturn _ (by simp)) hbelow hclosed hends with
      htrailing | ⟨gaps, rfl, hgaps, rfl, rfl⟩
    · exact htrailing
    · cases hbelow
      cases hcontinued
  | cons line rows ih =>
    rcases trailing_or_joined h hrows (hreturn _ (by simp)) hbelow hclosed hends with
      htrailing | ⟨gaps, rfl, hgaps, rfl, rfl⟩
    · exact htrailing
    · -- The next row is scanned from its start, as more of this one.
      cases hbelow with
      | cons _ hline hothers =>
        cases hline with
        | string hopen => cases hstate.symm.trans hopen
        | first _ _ hstraight => cases hstraight
        | rest _ _ hrest =>
          have htrailing := ih hrest hrows.2.2 (List.forall_mem_cons.mp hreturn).2 hstate hothers
            (by simpa using hends)
          have htext : gaps ++ ['\\', '\n'] ++ (line :: rows).flatten =
              gaps ++ '\\' :: '\n' :: (line ++ rows.flatten) := by simp
          rw [htext]
          exact htrailing.join hgaps

end

end Ghostwriter.Splice

import Ghostwriter.Proofs.Directive.Statement
import Ghostwriter.Proofs.Lexeme.Cover
import Ghostwriter.Proofs.Text.Breaks
import Mathlib.Data.Bool.AllAny

/-!
Texts that are written with the same lexemes, whatever stands between these within brackets. It does
not matter which line ends they have.
-/

namespace Ghostwriter.Lexeme

open Ghostwriter.Text

section

variable {quote : Char} {tripled : Bool} {t rest text : Text} {kind : LexemeKind}

theorem take_unifyBreaks (hquote : quote ≠ '\n')
    (h : (unifyBreaks t).take 2 = [quote, quote]) : t.take 2 = [quote, quote] := by
  match hunify : unifyBreaks t with
  | [] => simp [hunify] at h
  | [c] => simp [hunify] at h
  | c :: d :: others =>
    rw [hunify] at h
    obtain ⟨rfl, rfl⟩ : c = quote ∧ d = quote := by simpa using h
    obtain ⟨behind, rfl, hbehind⟩ := exists_of_unifyBreaks hquote hunify
    obtain ⟨behind', rfl, -⟩ := exists_of_unifyBreaks hquote hbehind.symm
    rfl

theorem Ends.getLast (h : Ends quote tripled t) : t.getLast? = some quote := by
  induction h with
  | plain => rfl
  | triple => rfl
  | @escape tripled d t h ih =>
    obtain ⟨c, t, rfl⟩ := List.exists_cons_of_ne_nil h.ne_nil
    simpa using ih
  | @other tripled c t _ _ h ih =>
    obtain ⟨c, t, rfl⟩ := List.exists_cons_of_ne_nil h.ne_nil
    simpa using ih

theorem Ends.behind_break (hquote : quote ≠ '\n') (h : Ends quote tripled ('\n' :: t)) :
    Ends quote tripled t := by
  cases h with
  | plain => exact absurd rfl hquote
  | triple => exact absurd rfl hquote
  | other _ _ h => exact h

theorem Ends.unifyBreaks (hquote : isQuote quote = true) (h : Ends quote tripled t) :
    Ends quote tripled (unifyBreaks t) := by
  have hreturn : quote ≠ '\r' := by
    rintro rfl
    cases hquote
  have hbreak := isQuote_ne_break hquote
  have hcons {c : Char} (hc : c ≠ '\r') (rest : Text) := unifyBreaks_cons rest hc
  induction h with
  | plain => simpa [hcons hreturn, Text.unifyBreaks] using Ends.plain
  | triple => simpa [hcons hreturn, Text.unifyBreaks] using Ends.triple
  | @escape tripled d t h ih =>
    rw [hcons (by decide)]
    by_cases hd : d = '\r'
    · subst hd
      by_cases hpair : ∃ behind, t = '\n' :: behind
      · obtain ⟨behind, rfl⟩ := hpair
        rw [hcons (by decide)] at ih
        exact .escape (ih.behind_break hbreak)
      · rw [Text.unifyBreaks]
        · exact .escape ih
        · exact fun behind _ heq => hpair ⟨behind, heq⟩
    · rw [hcons hd]
      exact .escape ih
  | @other tripled c t hslash hinside h ih =>
    by_cases hc : c = '\r'
    · subst hc
      by_cases hpair : ∃ behind, t = '\n' :: behind
      · obtain ⟨behind, rfl⟩ := hpair
        rw [hcons (by decide)] at ih
        exact ih
      · rw [Text.unifyBreaks]
        · exact .other (by decide) (fun heq => absurd heq.symm hbreak) ih
        · exact fun behind _ heq => hpair ⟨behind, heq⟩
    · rw [hcons hc]
      refine .other hslash (fun heq => ⟨(hinside heq).1, fun htwo => ?_⟩) ih
      exact (hinside heq).2 (take_unifyBreaks hbreak htwo)

theorem return_not_mem_openingText {letters : Text} (hletters : isStringPrefix letters = true)
    (hquote : isQuote quote = true) : '\r' ∉ openingText letters quote tripled := by
  have hreturn : quote ≠ '\r' := by
    rintro rfl
    cases hquote
  have hinside : '\r' ∉ letters := fun hmem =>
    absurd (isAsciiLetter_of_isStringPrefix hletters _ hmem) (by decide)
  cases tripled <;> simp [openingText, hinside, hreturn.symm]

theorem Stands.parts (h : Stands rest .string text) : ∃ letters quote tripled body,
    text = openingText letters quote tripled ++ body ∧ isStringPrefix letters = true ∧
      isQuote quote = true ∧ Ends quote tripled body ∧
      (tripled = false → (body ++ rest).take 2 ≠ [quote, quote]) := by
  generalize hkind : LexemeKind.string = kind at h
  cases h with
  | string hletters hquote hends hplain =>
    exact ⟨_, _, _, _, rfl, hletters, hquote, hends, hplain⟩
  | number => cases hkind
  | operator => cases hkind
  | word hworded => rcases hworded with rfl | rfl <;> cases hkind

-- Only strings have line ends.
theorem Stands.return_not_mem (h : Stands rest kind text) (hkind : kind ≠ .string) :
    '\r' ∉ text := by
  cases h with
  | string => exact absurd rfl hkind
  | number _ hmade => exact fun hmem => absurd (hmade _ hmem) (by decide)
  | operator hknown =>
    have hnone : ∀ operator ∈ operators, '\r' ∉ operator :=
      List.all_iff_forall_prop.mp (by decide)
    exact hnone text hknown
  | word _ _ hmade => exact fun hmem => absurd (hmade _ hmem) (by decide)

theorem Stands.getLast_ne_return (h : Stands rest kind text) : text.getLast? ≠ some '\r' := by
  by_cases hkind : kind = .string
  · subst hkind
    obtain ⟨letters, quote, tripled, body, rfl, -, hquote, hends, -⟩ := h.parts
    rw [List.getLast?_append_of_ne_nil _ hends.ne_nil, hends.getLast]
    rintro ⟨⟩
    cases hquote
  · exact fun hlast => h.return_not_mem hkind (List.mem_of_getLast? hlast)

theorem Stands.unifyBreaks (h : Stands rest kind text) :
    Stands (unifyBreaks rest) kind (unifyBreaks text) := by
  have hlast := h.getLast_ne_return
  by_cases hkind : kind = .string
  · subst hkind
    obtain ⟨letters, quote, tripled, body, rfl, hletters, hquote, hends, hplain⟩ := h.parts
    rw [unifyBreaks_append_of_not_mem (return_not_mem_openingText hletters hquote)]
    refine .string hletters hquote (hends.unifyBreaks hquote) fun htripled htwo => ?_
    rw [List.getLast?_append_of_ne_nil _ hends.ne_nil] at hlast
    rw [← unifyBreaks_append hlast] at htwo
    exact hplain htripled (take_unifyBreaks (isQuote_ne_break hquote) htwo)
  · rw [unifyBreaks_of_not_mem (h.return_not_mem hkind)]
    cases h with
    | string => exact absurd rfl hkind
    | number hhead hmade => exact .number hhead hmade
    | word hworded hdigit hmade => exact .word hworded hdigit hmade
    | operator hknown hlongest =>
      refine .operator hknown fun c hc hmem => ?_
      obtain ⟨others, hrest⟩ := List.head?_eq_some_iff.mp hc
      by_cases hbreak : c = '\n'
      · subst hbreak
        have hnone : ∀ operator ∈ operators, '\n' ∉ operator :=
          List.all_iff_forall_prop.mp (by decide)
        exact hnone _ hmem (by simp)
      · obtain ⟨behind, rfl, -⟩ := exists_of_unifyBreaks hbreak hrest
        exact hlongest c rfl hmem

end

-- A text within brackets is written with these lexemes: between them are blanks, line ends and
-- comments. Its line ends are line feeds.
inductive Spelled : Text → List Lexeme → Prop
  | nil : Spelled [] []
  | gap {c : Char} {t : Text} {lexemes : List Lexeme} (blank : isGap c = true)
      (behind : Spelled t lexemes) : Spelled (c :: t) lexemes
  | lineBreak {t : Text} {lexemes : List Lexeme} (behind : Spelled t lexemes) :
      Spelled ('\n' :: t) lexemes
  | joined {t : Text} {lexemes : List Lexeme} (behind : Spelled t lexemes) :
      Spelled ('\\' :: '\n' :: t) lexemes
  | comment {u t : Text} {lexemes : List Lexeme} (inside : ∀ c ∈ u, c ≠ '\n' ∧ c ≠ '\x00')
      (ended : ∀ c ∈ t.head?, c = '\n') (behind : Spelled t lexemes) :
      Spelled ('#' :: u ++ t) lexemes
  | lexeme {l : Lexeme} {t : Text} {lexemes : List Lexeme} (stands : Stands t l.kind l.text)
      (behind : Spelled t lexemes) : Spelled (l.text ++ t) (l :: lexemes)

-- A lexeme with its line ends made line feeds.
def unified (l : Lexeme) : Lexeme := { l with text := unifyBreaks l.text }

section

variable {depth : Int} {before t : Text} {l : Lexeme} {lexemes : List Lexeme}

theorem isBreak_unifyBreaks {u : Text} (h : IsBreak u) :
    unifyBreaks (u ++ t) = '\n' :: unifyBreaks t := by
  rcases h with rfl | rfl
  · exact unifyBreaks_cons t (by decide)
  · rfl

theorem breaksFirst_unifyBreaks (h : BreaksFirst t) : ∀ c ∈ (unifyBreaks t).head?, c = '\n' := by
  intro c hc
  by_contra hbreak
  obtain ⟨others, hrest⟩ := List.head?_eq_some_iff.mp hc
  obtain ⟨behind, rfl, -⟩ := exists_of_unifyBreaks hbreak hrest
  rcases h c rfl with rfl | rfl
  · exact return_not_mem_unifyBreaks _ (hrest ▸ List.mem_cons_self)
  · exact hbreak rfl

theorem nested_behind (h : Directive.Nested (depth - 1) (l :: lexemes)) :
    Directive.Nested (depth + l.depthChange - 1) lexemes := by
  have hsame : depth + l.depthChange - 1 = depth - 1 + l.depthChange := by omega
  rw [hsame]
  exact h.tail

theorem Covers.spelled (h : Covers depth before t lexemes)
    (hdeep : Directive.Nested (depth - 1) lexemes) :
    Spelled (unifyBreaks t) (lexemes.map unified) := by
  induction h with
  | nil => exact .nil
  | @skip depth before part rest lexemes hskips _ ih =>
    have hbehind := ih hdeep
    cases hskips with
    | @gap c hblank =>
      have hreturn : c ≠ '\r' := by
        rintro rfl
        cases hblank
      rw [List.singleton_append, unifyBreaks_cons _ hreturn]
      exact .gap hblank hbehind
    | lineBreak hwhole =>
      rw [isBreak_unifyBreaks hwhole]
      exact .lineBreak hbehind
    | joined hwhole =>
      rw [List.cons_append, unifyBreaks_cons _ (by decide), isBreak_unifyBreaks hwhole]
      exact .joined hbehind
    | @comment u hinside hended =>
      have hreturn : '\r' ∉ '#' :: u := by
        rw [List.mem_cons, not_or]
        exact ⟨by decide, fun hmem => (hinside _ hmem).1 rfl⟩
      rw [unifyBreaks_append_of_not_mem hreturn]
      exact .comment (fun c hc => (hinside c hc).2) (breaksFirst_unifyBreaks hended) hbehind
    | idle houtside =>
      have hnonneg := hdeep.nonneg
      omega
  | @lexeme depth before rest l lexemes hstands _ _ _ ih =>
    rw [unifyBreaks_append hstands.getLast_ne_return]
    exact Spelled.lexeme (l := l.unified) hstands.unifyBreaks (ih (nested_behind hdeep))

theorem Skips.getLast_ne_return {part rest : Text} (h : Skips depth rest part) (hopen : depth ≠ 0) :
    part.getLast? ≠ some '\r' := by
  have hbreak {u : Text} (hu : IsBreak u) : u.getLast? = some '\n' := by
    rcases hu with rfl | rfl <;> rfl
  cases h with
  | gap hblank =>
    rintro ⟨⟩
    cases hblank
  | lineBreak hwhole => simp [hbreak hwhole]
  | @joined u hwhole =>
    have hne : u ≠ [] := by
      rintro rfl
      simpa using hbreak hwhole
    rw [← List.singleton_append, List.getLast?_append_of_ne_nil _ hne, hbreak hwhole]
    simp
  | comment hinside =>
    intro hlast
    rcases List.mem_cons.mp (List.mem_of_getLast? hlast) with heq | hmem
    · cases heq
    · exact (hinside _ hmem).1 rfl
  | idle houtside => exact absurd houtside hopen

-- Within brackets a carriage return alone is nowhere but in strings.
theorem Covers.getLast_ne_return (h : Covers depth before t lexemes)
    (hdeep : Directive.Nested (depth - 1) lexemes) : t.getLast? ≠ some '\r' := by
  have happend {a b : Text} (ha : a.getLast? ≠ some '\r') (hb : b.getLast? ≠ some '\r') :
      (a ++ b).getLast? ≠ some '\r' := by
    cases b with
    | nil => rwa [List.append_nil]
    | cons c b => rwa [List.getLast?_append_of_ne_nil _ (List.cons_ne_nil c b)]
  induction h with
  | nil => simp
  | skip hskips _ ih =>
    have hnonneg := hdeep.nonneg
    exact happend (hskips.getLast_ne_return (by omega)) (ih hdeep)
  | @lexeme depth before rest l lexemes hstands _ _ _ ih =>
    exact happend hstands.getLast_ne_return (ih (nested_behind hdeep))

-- What is written has no character that no source may have, if its lexemes have none.
theorem Spelled.nul_not_mem (h : Spelled t lexemes) (hnul : ∀ l ∈ lexemes, '\x00' ∉ l.text) :
    '\x00' ∉ t := by
  induction h with
  | nil => exact List.not_mem_nil
  | gap hblank _ ih =>
    rw [List.mem_cons, not_or]
    refine ⟨?_, ih hnul⟩
    rintro rfl
    cases hblank
  | lineBreak _ ih => simpa using ih hnul
  | joined _ ih => simpa using ih hnul
  | comment hinside _ _ ih =>
    rw [List.cons_append, List.mem_cons, List.mem_append, not_or, not_or]
    exact ⟨by decide, fun hmem => (hinside _ hmem).2 rfl, ih hnul⟩
  | lexeme _ _ ih =>
    rw [List.forall_mem_cons] at hnul
    rw [List.mem_append, not_or]
    exact ⟨hnul.1, ih hnul.2⟩

theorem depthChange_unified {rest : Text} (h : Stands rest l.kind l.text) :
    l.unified.depthChange = l.depthChange := by
  by_cases hkind : l.kind = .string
  · rw [depthChange_of_kind (by simp [unified, hkind]), depthChange_of_kind (by simp [hkind])]
  · rw [unified, unifyBreaks_of_not_mem (h.return_not_mem hkind)]

end

end Ghostwriter.Lexeme

import Ghostwriter.Directive.Find
import Ghostwriter.Proofs.Failure.Result
import Mathlib.Data.List.Basic

/-!
What the sites that are found have in common, and why none are found. The path of a text is written
on each of them and decides nothing else.
-/

namespace Ghostwriter

-- The same site in a file with another name.
def Site.under (site : Site) (path : Path) : Site := { site with path := path }

namespace Directive

open Ghostwriter.Lexeme Ghostwriter.Text

theorem closing?_spec {depth : Int} {lexemes behind : List Lexeme} {closer : Lexeme}
    (h : closing? depth lexemes = some (closer, behind)) :
    closer.closes = true ∧ ∃ within, lexemes = within ++ closer :: behind := by
  induction lexemes generalizing depth with
  | nil => cases h
  | cons l lexemes ih =>
    unfold closing? at h
    split_ifs at h with hcloses
    · cases h
      exact ⟨(Bool.and_eq_true_iff.mp hcloses).1, [], rfl⟩
    · obtain ⟨hclosing, within, rfl⟩ := ih h
      exact ⟨hclosing, l :: within, rfl⟩

theorem closes_cases {l : Lexeme} (h : l.closes = true) :
    l.kind = .operator ∧ ∃ c ∈ [')', ']', '\x7d'], l.text = [c] := by
  simp only [Lexeme.closes, Lexeme.isOperator, Bool.or_eq_true, Bool.and_eq_true, beq_iff_eq] at h
  rcases h with (⟨hkind, htext⟩ | ⟨hkind, htext⟩) | ⟨hkind, htext⟩
  · exact ⟨hkind, ')', by decide, htext⟩
  · exact ⟨hkind, ']', by decide, htext⟩
  · exact ⟨hkind, '\x7d', by decide, htext⟩

-- A name that begins a directive among lexemes that come behind `previous`, the parenthesis behind
-- it, what is within, and the bracket that closes what is open then. The statement ends there.
structure Begun (bound : List Text) (previous : Option Lexeme) (lexemes : List Lexeme)
    (name opener : Lexeme) (within : List Lexeme) (closer : Lexeme) (behind : List Lexeme) :
    Prop where
  split : ∃ before, lexemes = before ++ name :: opener :: (within ++ closer :: behind) ∧
    Directive.begins bound (before.getLast?.or previous) name (some opener) = true
  closes : closing? 1 (within ++ closer :: behind) = some (closer, behind)
  ends : endsStatement behind = true

theorem Begun.append {bound : List Text} {previous : Option Lexeme}
    {lexemes within behind : List Lexeme} {name opener closer : Lexeme} (front : List Lexeme)
    (h : Begun bound (front.getLast?.or previous) lexemes name opener within closer behind) :
    Begun bound previous (front ++ lexemes) name opener within closer behind := by
  obtain ⟨⟨before, rfl, hbegins⟩, hcloses, hends⟩ := h
  refine ⟨⟨front ++ before, (List.append_assoc _ _ _).symm, ?_⟩, hcloses, hends⟩
  rwa [List.getLast?_append, Option.or_assoc]

theorem mem_sitesUpTo {path : Path} {rows bound : List Text} {fuel : Nat}
    {previous : Option Lexeme} {lexemes : List Lexeme} {sites : List Site} {site : Site}
    (h : sitesUpTo path rows bound fuel previous lexemes = .ok sites) (hsite : site ∈ sites) :
    ∃ name opener within closer behind,
      Begun bound previous lexemes name opener within closer behind ∧
      site = siteOf path rows name opener closer := by
  induction fuel generalizing previous lexemes sites with
  | zero =>
    simp only [sitesUpTo, Except.ok.injEq] at h
    simp [← h] at hsite
  | succ fuel ih =>
    cases lexemes with
    | nil =>
      simp only [sitesUpTo, Except.ok.injEq] at h
      simp [← h] at hsite
    | cons name rest =>
      cases rest with
      | nil =>
        simp only [sitesUpTo, Except.ok.injEq] at h
        simp [← h] at hsite
      | cons opener body =>
        simp only [sitesUpTo] at h
        split_ifs at h with hbegins
        · cases hclosing : closing? 1 body with
          | none => simp [hclosing] at h
          | some found =>
            obtain ⟨closer, behind⟩ := found
            simp only [hclosing] at h
            obtain ⟨others, hothers, h⟩ := bind_eq_ok.mp h
            obtain ⟨-, within, rfl⟩ := closing?_spec hclosing
            have hlater (hsite : site ∈ others) : ∃ name' opener' within' closer' behind',
                Begun bound previous (name :: opener :: (within ++ closer :: behind)) name' opener'
                  within' closer' behind' ∧ site = siteOf path rows name' opener' closer' := by
              obtain ⟨name', opener', within', closer', behind', hbegun, hsite⟩ := ih hothers hsite
              have hfront : (name :: opener :: (within ++ [closer])).getLast? = some closer := by
                rw [← List.cons_append, ← List.cons_append, List.getLast?_concat]
              refine ⟨name', opener', within', closer', behind', ?_, hsite⟩
              have hwhole := @Begun.append bound previous _ _ _ _ _ _
                (name :: opener :: (within ++ [closer])) (by rwa [hfront, Option.some_or])
              simpa using hwhole
            split_ifs at h with hends
            · simp only [Except.ok.injEq] at h
              rw [← h, List.mem_cons] at hsite
              cases hsite with
              | inl hsite =>
                exact ⟨name, opener, within, closer, behind, ⟨⟨[], rfl, hbegins⟩, hclosing, hends⟩,
                  hsite⟩
              | inr hsite => exact hlater hsite
            · simp only [Except.ok.injEq] at h
              exact hlater (h ▸ hsite)
        · obtain ⟨name', opener', within', closer', behind', hbegun, hsite⟩ := ih h hsite
          exact ⟨name', opener', within', closer', behind', hbegun.append [name], hsite⟩

-- Every site that is found is that of such a name.
theorem begun_of_mem_find {path : Path} {t : Text} {sites : List Site} {site : Site}
    (h : find path t = .ok sites) (hsite : site ∈ sites) :
    ∃ lexemes name opener within closer behind, scan t = .ok lexemes ∧
      Begun (boundNames lexemes) none lexemes name opener within closer behind ∧
        site = siteOf path (lines t) name opener closer := by
  unfold find at h
  cases hscan : scan t with
  | error e => simp [hscan] at h
  | ok lexemes =>
    simp only [hscan] at h
    obtain ⟨name, opener, within, closer, behind, hbegun, hsite⟩ := mem_sitesUpTo h hsite
    exact ⟨lexemes, name, opener, within, closer, behind, rfl, hbegun, hsite⟩

theorem isName_of_mem_find {path : Path} {t : Text} {sites : List Site} {site : Site}
    (h : find path t = .ok sites) (hsite : site ∈ sites) : EntryPoint.isName site.entryPoint := by
  obtain ⟨_, _, _, _, _, _, -, hbegun, rfl⟩ := begun_of_mem_find h hsite
  obtain ⟨before, -, hbegins⟩ := hbegun.split
  simp only [begins, Bool.and_eq_true] at hbegins
  exact hbegins.1.1.1.2

theorem fault_of_sitesUpTo {path : Path} {rows bound : List Text} {fuel : Nat}
    {before : Option Lexeme} {lexemes : List Lexeme} {failure : Failure}
    (h : sitesUpTo path rows bound fuel before lexemes = .error failure) :
    ∃ name, failure = unclosed path name := by
  induction fuel generalizing before lexemes with
  | zero => cases h
  | succ fuel ih =>
    cases lexemes with
    | nil => cases h
    | cons l rest =>
      cases rest with
      | nil => cases h
      | cons opener body =>
        simp only [sitesUpTo] at h
        split_ifs at h
        · cases hclosing : closing? 1 body with
          | none =>
            simp only [hclosing] at h
            cases h
            exact ⟨l, rfl⟩
          | some found =>
            obtain ⟨closer, behind⟩ := found
            simp only [hclosing] at h
            rcases bind_eq_error.mp h with hothers | ⟨others, -, h⟩
            · exact ih hothers
            · split_ifs at h
        · exact ih h

-- Where directives cannot be found, the fault tells the file, and mostly the place in it.
theorem fault_of_find {path : Path} {t : Text} {failure : Failure}
    (h : find path t = .error failure) :
    ∃ problem place, failure = .fault ⟨.directive problem, some (path.toText ++ place)⟩ := by
  unfold find at h
  split at h
  · cases h
    exact ⟨_, [], by rw [List.append_nil]⟩
  · obtain ⟨name, rfl⟩ := fault_of_sitesUpTo h
    exact ⟨_, _, rfl⟩

end Directive

end Ghostwriter

import Ghostwriter.Proofs.Grammar.Literal
import Ghostwriter.Proofs.Lexeme.Taken

/-!
What may follow an integer. A number ends where no character goes on with it, and what it stands for
depends on its own characters alone.
-/

namespace Ghostwriter.Grammar

open Ghostwriter.Lexeme Ghostwriter.Number Ghostwriter.Text

section

variable {p : Char → Bool} {t rest behind : Text}

theorem moreDigits_cons {c : Char} (hc : p c = true) (t : Text) :
    moreDigits p (c :: t) = moreDigits p t + 1 := by
  cases t with
  | nil => simp [moreDigits, hc]
  | cons d t => rw [moreDigits, if_pos hc]

-- Digits are those with anything behind them that is no digit.
theorem moreDigits_take (hrest : ∀ c ∈ rest.head?, p c = false ∧ c ≠ '_') :
    moreDigits p (t.take (moreDigits p t) ++ rest) = moreDigits p t := by
  have hnone : moreDigits p rest = 0 := moreDigits_append (t := []) (by simp) hrest
  fun_induction moreDigits p t with
  | case1 => exact hnone
  | case2 c hc => simp [moreDigits_cons hc, hnone]
  | case3 c hc => exact hnone
  | case4 c d t hc ih =>
    rw [List.take_succ_cons, List.cons_append, moreDigits_cons hc, ih]
  | case5 c d t hc hpair ih =>
    rw [Bool.and_eq_true, decide_eq_true_eq] at hpair
    rw [List.take_succ_cons, List.take_succ_cons, List.cons_append, List.cons_append, moreDigits,
      if_neg hc, if_pos (by simp [hpair]), ih]
  | case6 => exact hnone

theorem digits_take (hrest : ∀ c ∈ rest.head?, p c = false ∧ c ≠ '_') :
    digits p (t.take (digits p t) ++ rest) = digits p t := by
  have hnone : digits p rest = 0 := digits_append (t := []) (by simp) hrest
  cases t with
  | nil => exact hnone
  | cons c t =>
    by_cases hc : p c = true
    · have hdigits (t : Text) : digits p (c :: t) = moreDigits p t + 1 := by rw [digits, if_pos hc]
      rw [hdigits, List.take_succ_cons, List.cons_append, hdigits, moreDigits_take hrest]
    · simpa [digits, hc] using hnone

theorem continuesName_of_baseDigit {letter : Char} (h : baseDigit? letter = some p) {c : Char}
    (hc : p c = true) : continuesName c = true := by
  have hhex : isHexDigit c = true := by
    unfold baseDigit? at h
    split_ifs at h <;> cases h
    · exact hc
    · simp only [isOctalDigit, Bool.and_eq_true, decide_eq_true_eq] at hc
      simp [isHexDigit, isDigit, hc.1, Char.le_trans hc.2 (by decide : '7' ≤ '9')]
    · simp only [isBinaryDigit, Bool.or_eq_true, decide_eq_true_eq] at hc
      rcases hc with rfl | rfl <;> rfl
  simp only [isHexDigit, Bool.or_eq_true, Bool.and_eq_true, decide_eq_true_eq] at hhex
  rcases hhex with (hdigit | ⟨hlow, hhigh⟩) | ⟨hlow, hhigh⟩
  · simp [continuesName, hdigit]
  · simp [continuesName, isAsciiLetter, hlow, Char.le_trans hhigh (by decide : 'f' ≤ 'z')]
  · simp [continuesName, isAsciiLetter, hlow, Char.le_trans hhigh (by decide : 'F' ≤ 'Z')]

theorem Ended.not_baseDigit {letter : Char} (h : Ended rest) (hp : Lexeme.baseDigit? letter = some p) :
    ∀ c ∈ rest.head?, p c = false ∧ c ≠ '_' := by
  intro c hc
  refine ⟨?_, h.head_ne '_' hc (by decide)⟩
  rw [Bool.eq_false_iff]
  intro hdigit
  have hname := continuesName_of_baseDigit hp hdigit
  rw [(h c hc).1] at hname
  cases hname

end

section

variable {t rest behind whole fraction : Text} {n : Nat} {hasPoint : Bool}

-- An integer has no point and no exponent, and is not imaginary.
theorem finishReal?_int (h : finishReal? whole fraction rest hasPoint = some (.int n, behind)) :
    hasPoint = false ∧ decimalInteger? whole rest = some (.int n, behind) := by
  unfold finishReal? at h
  simp only at h
  split at h
  · cases h
  · split at h
    · split at h
      · cases h
      · cases h
    · split at h
      · cases h
      · cases h
  · split at h
    · split at h
      · cases h
      · cases h
    · cases hasPoint with
      | true =>
        simp only [if_true] at h
        split at h
        · cases h
        · cases h
      | false => exact ⟨rfl, h⟩

theorem decimalInteger?_int (h : decimalInteger? whole rest = some (.int n, behind)) :
    behind = rest ∧ ∀ after, Ended after → decimalInteger? whole after = some (.int n, after) := by
  unfold decimalInteger? at h
  simp only at h
  split_ifs at h with hends hzeros he hlimit
  · cases h
  · cases h
    refine ⟨rfl, fun after hafter => ?_⟩
    simp only [decimalInteger?, hafter.endsNumber, hzeros, hlimit, Bool.not_true, Bool.false_eq_true,
      if_false]

theorem decimalNumber?_int (hstarts : startsNumber t = true)
    (h : decimalNumber? t = some (.int n, behind)) :
    t = t.take (digits isDigit t) ++ behind ∧ (∃ c rest, t = c :: rest ∧ isDigit c = true) ∧
      ∀ after, Ended after →
        decimalNumber? (t.take (digits isDigit t) ++ after) = some (.int n, after) := by
  unfold decimalNumber? at h
  simp only at h
  have hwhole : finishReal? (t.take (digits isDigit t)) [] (t.drop (digits isDigit t)) false =
      some (.int n, behind) := by
    split at h
    · exact absurd (finishReal?_int h).1 (by decide)
    · exact h
  obtain ⟨rfl, hafter⟩ := decimalInteger?_int (finishReal?_int hwhole).2
  refine ⟨(List.take_append_drop _ t).symm, ?_, fun after hended => ?_⟩
  · cases t with
    | nil => cases hstarts
    | cons c rest =>
      refine ⟨c, rest, rfl, ?_⟩
      by_contra hc
      have hdot : c = '.' := by
        by_contra hdot
        rw [startsNumber] at hstarts
        · exact hc hstarts
        · exact fun _ _ heq => absurd heq hdot
      subst hdot
      simp only [digits, hc, Bool.false_eq_true, if_false, List.drop_zero] at h
      exact absurd (finishReal?_int h).1 (by decide)
  · have hdigits := digits_take (t := t) hended.not_digit
    have hlength : (t.take (digits isDigit t)).length = digits isDigit t :=
      List.length_take_of_le digits_le
    have hdot : ∀ others, after ≠ '.' :: others := by
      rintro others rfl
      exact (hended '.' rfl).2 rfl
    simp only [decimalNumber?, hdigits, List.drop_left' hlength, List.take_left' hlength,
      finishReal?, hended.readExponent, hended.isImaginaryMark, Bool.false_eq_true, if_false,
      hafter after hended]

theorem number?_of_decimal {c : Char} {text after : Text} (h : Ended after)
    (hnone : ∀ letter others, c :: text = '0' :: letter :: others →
      Lexeme.baseDigit? letter = none) :
    number? (c :: text ++ after) = decimalNumber? (c :: text ++ after) := by
  by_cases hzero : ∃ letter others, c :: text ++ after = '0' :: letter :: others
  · obtain ⟨letter, others, heq⟩ := hzero
    have hbase : Lexeme.baseDigit? letter = none := by
      cases text with
      | nil =>
        rw [List.singleton_append, List.cons.injEq] at heq
        exact Ended.baseDigit? (heq.2 ▸ h)
      | cons d text =>
        rw [List.cons_append, List.cons_append, List.cons.injEq, List.cons.injEq] at heq
        exact hnone letter text (by rw [heq.1, heq.2.1])
    rw [heq, number?, hbase]
  · rw [number?]
    exact fun letter others heq => hzero ⟨letter, others, heq⟩

-- The characters of an integer, and what is behind it.
theorem number?_int (hstarts : startsNumber t = true) (h : number? t = some (.int n, behind)) :
    ∃ c text, t = c :: text ++ behind ∧ (∀ d ∈ c :: text, IsNumberPart d) ∧ isDigit c = true ∧
      ∀ after, Ended after → number? (c :: text ++ after) = some (.int n, after) := by
  by_cases hbased : ∃ letter rest p, t = '0' :: letter :: rest ∧ Lexeme.baseDigit? letter = some p
  · obtain ⟨letter, rest, p, rfl, hp⟩ := hbased
    have hread : basedInteger? letter p rest = some (.int n, behind) := by
      rwa [number?, hp] at h
    unfold basedInteger? at hread
    simp only at hread
    split at hread
    · cases hread
    rename_i hends
    cases hread
    rw [Bool.or_eq_true, not_or, decide_eq_true_eq] at hends
    refine ⟨'0', letter :: rest.take (moreDigits p rest), by simp, ?_, rfl, fun after hafter => ?_⟩
    · obtain ⟨hletter, hdigit⟩ := baseDigit?_made hp
      rw [List.forall_mem_cons, List.forall_mem_cons]
      exact ⟨by decide, hletter, moreDigits_made hdigit rest⟩
    · have hmore := moreDigits_take (t := rest) (hafter.not_baseDigit hp)
      have hlength : (rest.take (moreDigits p rest)).length = moreDigits p rest :=
        List.length_take_of_le moreDigits_le
      simp only [List.cons_append, number?, hp, basedInteger?, hmore, List.drop_left' hlength,
        List.take_left' hlength, hends.1, hafter.endsNumber, decide_false, Bool.not_true,
        Bool.or_self, Bool.false_eq_true, if_false]
  · have hread : decimalNumber? t = some (.int n, behind) := by
      unfold number? at h
      split at h
      · split at h
        · rename_i letter rest _ p hp
          exact absurd ⟨letter, rest, p, rfl, hp⟩ hbased
        · exact h
      · exact h
    obtain ⟨ht, ⟨c, rest, rfl, hc⟩, hafter⟩ := decimalNumber?_int hstarts hread
    have hmade := digits_made isNumberPart_of_isDigit (c :: rest)
    have htake : (c :: rest).take (digits isDigit (c :: rest)) =
        c :: rest.take (moreDigits isDigit rest) := by
      rw [digits, if_pos hc, List.take_succ_cons]
    rw [Made, htake] at hmade
    rw [htake] at ht hafter
    refine ⟨c, _, ht, hmade, hc, fun after hended => ?_⟩
    rw [number?_of_decimal hended, hafter after hended]
    intro letter others heq
    by_contra hbase
    obtain ⟨p, hp⟩ := Option.ne_none_iff_exists'.mp hbase
    rw [heq] at ht
    exact hbased ⟨letter, others ++ behind, p, ht, hp⟩

end

end Ghostwriter.Grammar

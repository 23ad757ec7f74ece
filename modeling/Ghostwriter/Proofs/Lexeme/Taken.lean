import Ghostwriter.Proofs.Lexeme.Extent
import Mathlib.Data.List.Infix
import Mathlib.Data.List.Basic

/-!
What the scanner takes off a row. Each lexeme but a stray one has the shape of its kind, and nothing
behind it makes it longer.
-/

namespace Ghostwriter.Lexeme

open Ghostwriter.Text

-- What a string has behind its opening. A backslash takes the next character with it.
inductive Ends (quote : Char) : Bool → Text → Prop
  | plain : Ends quote false [quote]
  | triple : Ends quote true [quote, quote, quote]
  | escape {tripled : Bool} {d : Char} {t : Text} (behind : Ends quote tripled t) :
      Ends quote tripled ('\\' :: d :: t)
  | other {tripled : Bool} {c : Char} {t : Text} (slash : c ≠ '\\')
      (inside : c = quote → tripled = true ∧ t.take 2 ≠ [quote, quote])
      (behind : Ends quote tripled t) : Ends quote tripled (c :: t)

-- What a string has behind its opening up to a line end that does not end it.
def Unclosed (quote : Char) (tripled : Bool) (t : Text) : Prop :=
  ∀ rest, Ends quote tripled rest → Ends quote tripled (t ++ rest)

section

variable {quote : Char} {tripled : Bool} {t u : Text} {n : Nat}

theorem Unclosed.append (ht : Unclosed quote tripled t) (hu : Unclosed quote tripled u) :
    Unclosed quote tripled (t ++ u) := by
  intro rest hrest
  rw [List.append_assoc]
  exact ht _ (hu rest hrest)

theorem unclosed_nil : Unclosed quote tripled [] := fun _ hrest => hrest

theorem Unclosed.escape (d : Char) (h : Unclosed quote tripled t) :
    Unclosed quote tripled ('\\' :: d :: t) := fun rest hrest => .escape (h rest hrest)

theorem Unclosed.other {c : Char} (hc : c ≠ '\\') (hq : c ≠ quote) (h : Unclosed quote tripled t) :
    Unclosed quote tripled (c :: t) :=
  fun rest hrest => .other hc (fun heq => absurd heq hq) (h rest hrest)

theorem ends_of_firstLine (h : firstLine? quote t = some (.closed n)) :
    ∃ body rest, t = body ++ rest ∧ body.length = n ∧ Ends quote false body := by
  have hshift {k n : Nat} {line : Option FirstLine}
      (h : line.map (FirstLine.shift k) = some (.closed n)) :
      ∃ m, line = some (.closed m) ∧ n = m + k := by
    obtain ⟨first, hline, hshift⟩ := Option.map_eq_some_iff.mp h
    cases first with
    | closed m =>
      cases hshift
      exact ⟨m, hline, rfl⟩
    | continued m => cases hshift
  fun_induction firstLine? quote t generalizing n with
  | case1 => cases h
  | case2 =>
    cases h
    exact ⟨[quote], [], rfl, rfl, .plain⟩
  | case3 => cases h
  | case4 => cases h
  | case5 => cases h
  | case6 d rest _ _ ih =>
    obtain ⟨m, hm, rfl⟩ := hshift h
    obtain ⟨body, behind, rfl, rfl, hends⟩ := ih hm
    exact ⟨'\\' :: d :: body, behind, rfl, rfl, .escape hends⟩
  | case7 d rest =>
    cases h
    exact ⟨[quote], d :: rest, rfl, rfl, .plain⟩
  | case8 => cases h
  | case9 c d rest hc hq _ ih =>
    obtain ⟨m, hm, rfl⟩ := hshift h
    obtain ⟨body, behind, hbody, rfl, hends⟩ := ih hm
    exact ⟨c :: body, behind, by rw [hbody]; rfl, rfl, .other hc (fun heq => absurd heq hq) hends⟩

theorem unclosed_of_firstLine (hrow : IsRow t) (hquote : quote ≠ '\n')
    (h : firstLine? quote t = some (.continued n)) : Unclosed quote false t ∧ 2 ≤ t.length := by
  have hshift {k n : Nat} {line : Option FirstLine}
      (h : line.map (FirstLine.shift k) = some (.continued n)) :
      ∃ m, line = some (.continued m) := by
    obtain ⟨first, hline, hshift⟩ := Option.map_eq_some_iff.mp h
    cases first with
    | closed m => cases hshift
    | continued m => exact ⟨m, hline⟩
  fun_induction firstLine? quote t generalizing n with
  | case1 => cases h
  | case2 => cases h
  | case3 => cases h
  | case4 rest =>
    obtain rfl : rest = [] := by
      by_contra hne
      exact hrow.tail.head_ne hne rfl
    exact ⟨unclosed_nil.escape '\n', le_rfl⟩
  | case5 d rest _ hreturn =>
    simp only [Bool.and_eq_true, decide_eq_true_eq] at hreturn
    obtain ⟨behind, rfl⟩ := List.head?_eq_some_iff.mp hreturn.2
    obtain rfl : behind = [] := by
      by_contra hne
      exact hrow.tail.tail.head_ne hne rfl
    exact ⟨(unclosed_nil.other (by decide) (Ne.symm hquote)).escape d, by simp⟩
  | case6 d rest _ _ ih =>
    obtain ⟨m, hm⟩ := hshift h
    exact ⟨(ih hrow.tail.tail hm).1.escape d, by simp⟩
  | case7 => cases h
  | case8 => cases h
  | case9 c d rest hc hq _ ih =>
    obtain ⟨m, hm⟩ := hshift h
    exact ⟨(ih hrow.tail hm).1.other hc hq, by simp⟩

theorem ends_of_close (h : closeLength? quote t = some n) :
    ∃ body rest, t = body ++ rest ∧ body.length = n ∧ Ends quote false body := by
  fun_induction closeLength? quote t generalizing n with
  | case1 => cases h
  | case2 =>
    cases h
    exact ⟨[quote], [], rfl, rfl, .plain⟩
  | case3 => cases h
  | case4 => cases h
  | case5 d rest _ ih =>
    obtain ⟨m, hm, rfl⟩ := Option.map_eq_some_iff.mp h
    obtain ⟨body, behind, rfl, rfl, hends⟩ := ih hm
    exact ⟨'\\' :: d :: body, behind, rfl, rfl, .escape hends⟩
  | case6 d rest =>
    cases h
    exact ⟨[quote], d :: rest, rfl, rfl, .plain⟩
  | case7 c d rest hc hq ih =>
    obtain ⟨m, hm, rfl⟩ := Option.map_eq_some_iff.mp h
    obtain ⟨body, behind, hbody, rfl, hends⟩ := ih hm
    exact ⟨c :: body, behind, by rw [hbody]; rfl, rfl, .other hc (fun heq => absurd heq hq) hends⟩

theorem unclosed_of_close (hrow : IsRow t) (hbreak : '\n' ∈ t) (hquote : quote ≠ '\n')
    (h : closeLength? quote t = none) : Unclosed quote false t := by
  fun_induction closeLength? quote t with
  | case1 => exact unclosed_nil
  | case2 => cases h
  | case3 c hc =>
    obtain rfl : '\n' = c := by simpa using hbreak
    exact unclosed_nil.other (by decide) (Ne.symm hquote)
  | case4 rest =>
    obtain rfl : rest = [] := by
      by_contra hne
      exact hrow.tail.head_ne hne rfl
    exact unclosed_nil.escape '\n'
  | case5 d rest hd ih =>
    have hbreak' : '\n' ∈ rest := by simpa [Ne.symm hd] using hbreak
    exact (ih hrow.tail.tail hbreak' (by simpa using h)).escape d
  | case6 => cases h
  | case7 c d rest hc hq ih =>
    have hne := hrow.head_ne (List.cons_ne_nil d rest)
    have hbreak' := (List.mem_cons.mp hbreak).resolve_left (Ne.symm hne)
    exact (ih hrow.tail hbreak' (by simpa using h)).other hc hq

theorem ends_of_closeTriple (h : closeTripleLength? quote t = some n) :
    ∃ body rest, t = body ++ rest ∧ body.length = n ∧ Ends quote true body := by
  fun_induction closeTripleLength? quote t generalizing n with
  | case1 => cases h
  | case2 => cases h
  | case3 => cases h
  | case4 d rest _ ih =>
    obtain ⟨m, hm, rfl⟩ := Option.map_eq_some_iff.mp h
    obtain ⟨body, behind, rfl, rfl, hends⟩ := ih hm
    exact ⟨'\\' :: d :: body, behind, rfl, rfl, .escape hends⟩
  | case5 c rest hc hclose =>
    cases h
    simp only [Bool.and_eq_true, decide_eq_true_eq, beq_iff_eq] at hclose
    obtain ⟨rfl, htwo⟩ := hclose
    refine ⟨[c, c, c], rest.drop 2, ?_, rfl, .triple⟩
    rw [← List.take_append_drop 2 rest, htwo]
    simp
  | case6 c rest hc hclose ih =>
    obtain ⟨m, hm, rfl⟩ := Option.map_eq_some_iff.mp h
    obtain ⟨body, behind, rfl, rfl, hends⟩ := ih hm
    refine ⟨c :: body, behind, rfl, rfl, .other hc (fun heq => ⟨rfl, fun htwo => ?_⟩) hends⟩
    have hlength : 2 ≤ body.length := by
      have := congrArg List.length htwo
      simp only [List.length_take, List.length_cons, List.length_nil] at this
      omega
    apply hclose
    rw [List.take_append_of_le_length hlength, htwo]
    simp [heq]

theorem unclosed_of_closeTriple (hrow : IsRow t) (hbreak : '\n' ∈ t) (hquote : quote ≠ '\n')
    (h : closeTripleLength? quote t = none) : Unclosed quote true t := by
  fun_induction closeTripleLength? quote t with
  | case1 => exact unclosed_nil
  | case2 => simp at hbreak
  | case3 rest =>
    obtain rfl : rest = [] := by
      by_contra hne
      exact hrow.tail.head_ne hne rfl
    exact unclosed_nil.escape '\n'
  | case4 d rest hd ih =>
    have hbreak' : '\n' ∈ rest := by simpa [Ne.symm hd] using hbreak
    exact (ih hrow.tail.tail hbreak' (by simpa using h)).escape d
  | case5 => cases h
  | case6 c rest hc hclose ih =>
    by_cases hnil : rest = []
    · subst hnil
      obtain rfl : '\n' = c := by simpa using hbreak
      exact unclosed_nil.other (by decide) (Ne.symm hquote)
    have hbreak' := (List.mem_cons.mp hbreak).resolve_left (Ne.symm (hrow.head_ne hnil))
    have hrest := ih hrow.tail hbreak' (by simpa using h)
    intro behind hbehind
    apply Ends.other hc _ (hrest behind hbehind)
    refine fun heq => ⟨rfl, fun htwo => ?_⟩
    -- The two characters behind `c` are in its row, or the line feed is the first of them.
    by_cases hlength : 2 ≤ rest.length
    · rw [List.take_append_of_le_length hlength] at htwo
      apply hclose
      simp [heq, htwo]
    · obtain ⟨d, hd⟩ : ∃ d, rest = [d] := by
        apply List.length_eq_one_iff.mp
        have := List.length_pos_of_ne_nil hnil
        omega
      subst hd
      obtain rfl : '\n' = d := by simpa using hbreak'
      exact hquote (List.cons.inj htwo).1.symm

-- What a row has of a string that it closes.
theorem ends_of_closed (hquote : quote ≠ '\n') (hrow : IsRow t)
    (h : (if tripled then closeTripleLength? quote t else closeLength? quote t) = some n) :
    ∃ body rest, t = body ++ rest ∧ body.length = n ∧ Ends quote tripled body ∧ '\n' ∉ body := by
  cases tripled with
  | true =>
    rw [if_pos rfl] at h
    have hwithin := closeTripleLength?_within hquote hrow h
    obtain ⟨body, rest, rfl, rfl, hends⟩ := ends_of_closeTriple h
    rw [Within, List.take_left] at hwithin
    exact ⟨body, rest, rfl, rfl, hends, hwithin⟩
  | false =>
    rw [if_neg (by decide)] at h
    have hwithin := closeLength?_within hquote hrow h
    obtain ⟨body, rest, rfl, rfl, hends⟩ := ends_of_close h
    rw [Within, List.take_left] at hwithin
    exact ⟨body, rest, rfl, rfl, hends, hwithin⟩

end

-- The letters and the quotes that a string begins with.
def openingText (letters : Text) (quote : Char) (tripled : Bool) : Text :=
  letters ++ quote :: (if tripled then [quote, quote] else [])

-- What a lexeme of a kind can be before `rest`. Nothing behind a string makes its quotes three, and
-- nothing behind an operator makes it longer.
inductive Stands (rest : Text) : LexemeKind → Text → Prop
  | string {letters body : Text} {quote : Char} {tripled : Bool}
      (lettered : isStringPrefix letters = true) (quoted : isQuote quote = true)
      (ends : Ends quote tripled body)
      (plain : tripled = false → (body ++ rest).take 2 ≠ [quote, quote]) :
      Stands rest .string (openingText letters quote tripled ++ body)
  | number {c : Char} {t : Text} (head : isDigit c = true ∨ c = '.')
      (made : ∀ d ∈ c :: t, IsNumberPart d) : Stands rest .number (c :: t)
  | operator {text : Text} (known : text ∈ operators)
      (longest : ∀ c ∈ rest.head?, text ++ [c] ∉ operators) : Stands rest .operator text
  | word {kind : LexemeKind} {c : Char} {t : Text} (worded : kind = .name ∨ kind = .operator)
      (digit : isDigit c = false) (made : ∀ d ∈ c :: t, isWordPart d = true) :
      Stands rest kind (c :: t)

-- A text with which a string begins and which does not end it.
structure Opens (quote : Char) (tripled : Bool) (t : Text) : Prop where
  quoted : isQuote quote = true
  parts : ∃ letters body, t = openingText letters quote tripled ++ body ∧
    isStringPrefix letters = true ∧ Unclosed quote tripled body ∧
    (tripled = false → ∀ rest, (body ++ rest).take 2 ≠ [quote, quote])

def IsBreak (t : Text) : Prop := t = ['\n'] ∨ t = ['\r', '\n']

theorem IsBreak.eq_newline {t : Text} (h : IsBreak t) (hreturn : '\r' ∉ t) : t = ['\n'] :=
  h.resolve_right fun heq => hreturn (by simp [heq])

section

variable {quote : Char} {tripled : Bool} {t u rest : Text}

theorem Ends.ne_nil (h : Ends quote tripled t) : t ≠ [] := by
  cases h <;> simp

theorem Opens.append (h : Opens quote tripled t) (hu : Unclosed quote tripled u) :
    Opens quote tripled (t ++ u) := by
  obtain ⟨hquote, letters, body, rfl, hletters, hbody, hplain⟩ := h
  refine ⟨hquote, letters, body ++ u, by simp, hletters, hbody.append hu, fun htripled rest => ?_⟩
  rw [List.append_assoc]
  exact hplain htripled _

theorem Opens.stands (h : Opens quote tripled t) (hu : Ends quote tripled u) (rest : Text) :
    Stands rest .string (t ++ u) := by
  obtain ⟨hquote, letters, body, rfl, hletters, hbody, hplain⟩ := h
  rw [List.append_assoc]
  refine .string hletters hquote (hbody u hu) fun htripled => ?_
  rw [List.append_assoc]
  exact hplain htripled _

end

section

variable {blanks m n : Nat} {body : List Char} {o o' : Opening} {kind : LexemeKind}

theorem opening?_parts (h : opening? body = some o) :
    ∃ letters behind, body = openingText letters o.quote o.tripled ++ behind ∧
      (openingText letters o.quote o.tripled).length = o.length ∧ body.drop o.length = behind ∧
      isStringPrefix letters = true ∧ isQuote o.quote = true ∧
      (o.tripled = false → behind.take 2 ≠ [o.quote, o.quote]) := by
  obtain ⟨letters, rest, rfl, hlength, hletters, hquote, htripled⟩ := opening?_split h
  have hopened : (openingText letters o.quote o.tripled).length = o.length := by
    cases hcase : o.tripled <;> simp [openingText, Opening.length, hcase, hlength]
  obtain ⟨behind, hbehind, hplain⟩ : ∃ behind,
      letters ++ o.quote :: rest = openingText letters o.quote o.tripled ++ behind ∧
        (o.tripled = false → behind.take 2 ≠ [o.quote, o.quote]) := by
    cases hcase : o.tripled with
    | false =>
      refine ⟨rest, by simp [openingText], fun _ htwo => ?_⟩
      rw [htripled.mpr htwo] at hcase
      cases hcase
    | true =>
      have hrest := List.take_append_drop 2 rest
      rw [htripled.mp hcase] at hrest
      refine ⟨rest.drop 2, ?_, fun hplain => by cases hplain⟩
      rw [← hrest]
      simp [openingText]
  refine ⟨letters, behind, hbehind, hopened, ?_, hletters, hquote, hplain⟩
  rw [hbehind, ← hopened, List.drop_left]

theorem stands_of_plainString (hopening : opening? body = some o) (hplain : o.tripled = false)
    (h : plainString blanks o body = some (.lexeme m n kind)) :
    m = blanks ∧ ∃ text rest, body = text ++ rest ∧ text.length = n ∧ Stands rest kind text := by
  obtain ⟨letters, behind, hbody, hopened, hdrop, hletters, hquote, htwo⟩ := opening?_parts hopening
  have hlength : o.length = o.letters + 1 := by simp [Opening.length, hplain]
  rw [hlength] at hdrop hopened
  obtain ⟨line, hline, hpiece⟩ := Option.map_eq_some_iff.mp h
  rw [hdrop] at hline
  cases line with
  | continued => cases hpiece
  | closed k =>
    cases hpiece
    obtain ⟨inner, rest, rfl, rfl, hends⟩ := ends_of_firstLine hline
    refine ⟨rfl, _ ++ inner, rest, by rw [hbody, List.append_assoc], ?_,
      .string hletters hquote (hplain ▸ hends) fun _ => htwo hplain⟩
    rw [List.length_append, hopened]

theorem stands_of_tripledString (hopening : opening? body = some o) (htripled : o.tripled = true)
    (h : tripledString blanks o body = .lexeme m n kind) :
    m = blanks ∧ ∃ text rest, body = text ++ rest ∧ text.length = n ∧ Stands rest kind text := by
  obtain ⟨letters, behind, hbody, hopened, hdrop, hletters, hquote, -⟩ := opening?_parts hopening
  unfold tripledString at h
  rw [hdrop] at h
  split at h
  · rename_i k hclose
    cases h
    obtain ⟨inner, rest, rfl, rfl, hends⟩ := ends_of_closeTriple hclose
    refine ⟨rfl, _ ++ inner, rest, by rw [hbody, List.append_assoc], ?_,
      .string hletters hquote (htripled ▸ hends) fun hplain => ?_⟩
    · rw [List.length_append, hopened]
    · rw [htripled] at hplain
      cases hplain
  · cases h

theorem opens_of_plainString (hrow : IsRow body) (hopening : opening? body = some o)
    (hplain : o.tripled = false) (h : plainString blanks o body = some (.openString m o')) :
    o' = o ∧ Opens o.quote o.tripled body := by
  obtain ⟨letters, behind, hbody, -, hdrop, hletters, hquote, htwo⟩ := opening?_parts hopening
  have hlength : o.length = o.letters + 1 := by simp [Opening.length, hplain]
  have hrow' := hrow.drop o.length
  rw [hlength] at hdrop hrow'
  obtain ⟨line, hline, hpiece⟩ := Option.map_eq_some_iff.mp h
  rw [hdrop] at hline hrow'
  cases line with
  | closed => cases hpiece
  | continued k =>
    cases hpiece
    obtain ⟨hunclosed, hmore⟩ := unclosed_of_firstLine hrow' (isQuote_ne_break hquote) hline
    refine ⟨by rw [← hplain], hquote, letters, behind, hbody, hletters, hplain ▸ hunclosed,
      fun _ rest => ?_⟩
    rw [List.take_append_of_le_length hmore]
    exact htwo hplain

theorem opens_of_tripledString (hrow : IsRow body) (hbreak : '\n' ∈ body)
    (hopening : opening? body = some o) (htripled : o.tripled = true)
    (h : tripledString blanks o body = .openString m o') :
    o' = o ∧ Opens o.quote o.tripled body := by
  have hwithin := (opening?_within hopening).2
  have hbreak' := hwithin.mem_drop_iff.mpr hbreak
  have hrow' := hrow.drop o.length
  obtain ⟨letters, behind, hbody, -, hdrop, hletters, hquote, -⟩ := opening?_parts hopening
  unfold tripledString at h
  rw [hdrop] at h hrow' hbreak'
  split at h
  · cases h
  · rename_i hclose
    cases h
    have hunclosed := unclosed_of_closeTriple hrow' hbreak' (isQuote_ne_break hquote) hclose
    refine ⟨rfl, hquote, letters, behind, hbody, hletters, htripled ▸ hunclosed, fun hplain => ?_⟩
    rw [htripled] at hplain
    cases hplain

end

section

variable {p : Char → Bool} {t : List Char}

theorem moreDigits_le : moreDigits p t ≤ t.length := by
  fun_induction moreDigits p t <;> simp_all

theorem digits_le : digits p t ≤ t.length := by
  unfold digits
  split
  · exact le_rfl
  · split
    · simpa using moreDigits_le
    · exact Nat.zero_le _

theorem decimalLength_le : decimalLength t ≤ t.length := by
  unfold decimalLength
  split
  · exact le_rfl
  · simpa using moreDigits_le
  · exact digits_le

theorem integerLength_le : integerLength t ≤ t.length := by
  unfold integerLength
  split
  · rename_i letter rest
    split
    · exact decimalLength_le
    · rename_i isBaseDigit _
      have hmore := @moreDigits_le isBaseDigit rest
      split <;> simp only [List.length_cons] <;> omega
  · exact decimalLength_le

theorem exponentLength_le : exponentLength t ≤ t.length := by
  unfold exponentLength
  split
  · exact le_rfl
  · rename_i e rest
    split
    · split
      · exact Nat.zero_le _
      · rename_i sign others
        have hothers := @digits_le isDigit others
        have hrest := @digits_le isDigit (sign :: others)
        simp only [List.length_cons] at hrest ⊢
        split <;> split <;> omega
    · exact Nat.zero_le _

theorem floatLength_le : floatLength t ≤ t.length := by
  have hwhole := @digits_le isDigit t
  unfold floatLength
  simp only
  split
  · rename_i rest hdrop
    have hfraction := @digits_le isDigit rest
    have hexponent := @exponentLength_le (rest.drop (digits isDigit rest))
    have hlength := congrArg List.length hdrop
    simp only [List.length_drop, List.length_cons] at hlength hexponent
    split <;> omega
  · have hexponent := @exponentLength_le (t.drop (digits isDigit t))
    rw [List.length_drop] at hexponent
    split
    · exact Nat.zero_le _
    · split <;> omega

theorem lt_length_of_marked {n : Nat}
    (h : (match t.drop n with
      | c :: _ => n ≠ 0 && (c = 'j' || c = 'J')
      | [] => false) = true) : n + 1 ≤ t.length := by
  split at h
  · rename_i c rest hdrop
    have hlength := congrArg List.length hdrop
    simp only [List.length_drop, List.length_cons] at hlength
    omega
  · cases h

theorem imaginaryLength_le : imaginaryLength t ≤ t.length := by
  unfold imaginaryLength
  simp only
  split_ifs with hdigits hfloat
  · exact lt_length_of_marked hdigits
  · exact lt_length_of_marked hfloat
  · exact Nat.zero_le _

theorem numberLength_le : numberLength t ≤ t.length := by
  unfold numberLength
  split
  · split
    · exact integerLength_le
    · exact floatLength_le
  · exact imaginaryLength_le

-- A digit begins a number.
theorem numberLength_ne_zero {c : Char} (h : isDigit c = true) : numberLength (c :: t) ≠ 0 := by
  have hdigits : digits isDigit (c :: t) ≠ 0 := by simp [digits, h]
  have hdecimal : decimalLength (c :: t) ≠ 0 := by
    unfold decimalLength
    split
    · simp_all
    · simp
    · exact hdigits
  have hinteger : integerLength (c :: t) ≠ 0 := by
    unfold integerLength
    split
    · rename_i letter rest heq
      split
      · rwa [heq] at hdecimal
      · split <;> simp
    · exact hdecimal
  unfold numberLength
  split
  · split
    · exact hinteger
    · assumption
  · assumption

end

theorem operators_pairwise : operators.Pairwise fun a b => b.length ≤ a.length := by decide

-- The longest operator is taken.
theorem stands_of_operatorLength {t : List Char} (h : operatorLength t ≠ 0) :
    ∃ text rest, t = text ++ rest ∧ text.length = operatorLength t ∧
      Stands rest .operator text := by
  cases hfind : operators.find? (List.isPrefixOf · t) with
  | none => simp [operatorLength, hfind] at h
  | some text =>
    obtain ⟨hfound, before, behind, hoperators, hbefore⟩ :=
      List.find?_eq_some_iff_append.mp hfind
    obtain ⟨rest, rfl⟩ := List.isPrefixOf_iff_prefix.mp hfound
    refine ⟨text, rest, rfl, by simp [operatorLength, hfind],
      .operator (List.mem_of_find?_eq_some hfind) fun c hc hmem => ?_⟩
    obtain ⟨others, rfl⟩ := List.head?_eq_some_iff.mp hc
    have hsorted := operators_pairwise
    rw [hoperators] at hmem hsorted
    rcases List.mem_append.mp hmem with hmem | hmem
    · have hnot := hbefore _ hmem
      rw [Bool.not_eq_true', ← Bool.not_eq_true, List.isPrefixOf_iff_prefix] at hnot
      exact hnot ⟨others, by simp⟩
    · rcases List.mem_cons.mp hmem with heq | hmem
      · simpa using congrArg List.length heq
      · have hlength := (List.pairwise_cons.mp (List.pairwise_append.mp hsorted).2.1).1 _ hmem
        rw [List.length_append] at hlength
        exact absurd hlength (by simp)

theorem stands_of_numberLength {t : List Char} (h : numberLength t ≠ 0) :
    ∃ text rest, t = text ++ rest ∧ text.length = numberLength t ∧ Stands rest .number text := by
  refine ⟨t.take (numberLength t), t.drop (numberLength t), (List.take_append_drop _ t).symm,
    List.length_take_of_le numberLength_le, ?_⟩
  have hmade := numberLength_made t
  obtain ⟨n, hn⟩ := Nat.exists_eq_succ_of_ne_zero h
  cases t with
  | nil => exact absurd rfl h
  | cons c t =>
    rw [hn] at hmade ⊢
    refine .number ?_ hmade
    by_contra hhead
    rw [not_or, Bool.not_eq_true] at hhead
    exact h (numberLength_eq_zero hhead.1 hhead.2 t)

theorem stands_of_wordLength {c : Char} {t : List Char} (hdigit : isDigit c = false)
    (hword : isWordPart c = true) :
    ∃ text rest, c :: t = text ++ rest ∧ text.length = wordLength (c :: t) ∧
      Stands rest (wordKind (c :: t)) text := by
  refine ⟨(c :: t).takeWhile isWordPart, (c :: t).dropWhile isWordPart,
    List.takeWhile_append_dropWhile.symm, rfl, ?_⟩
  have hkind : wordKind (c :: t) = .name ∨ wordKind (c :: t) = .operator := by
    unfold wordKind
    split <;> simp
  rw [List.takeWhile_cons_of_pos hword]
  refine .word hkind hdigit fun d hd => ?_
  rw [← List.takeWhile_cons_of_pos hword] at hd
  exact List.mem_takeWhile_imp hd

-- What a row begins with behind blanks, apart from stray characters.
inductive Taken (text rest : Text) : LexemeKind → Prop
  | lineBreak (whole : IsBreak text) (ended : rest = []) : Taken text rest .newline
  | comment {t : Text} (marked : text = '#' :: t) (inside : ∀ c ∈ t, c ≠ '\r' ∧ c ≠ '\n')
      (ended : BreaksFirst rest) : Taken text rest .comment
  | content {kind : LexemeKind} (stands : Stands rest kind text) : Taken text rest kind

section

variable {blanks m n : Nat} {body rest : List Char} {o : Opening} {kind : LexemeKind}

theorem taken_of_breakLength (hrow : IsRow body) (h : breakLength body ≠ 0) :
    IsBreak body ∧ body.length = breakLength body := by
  have hdrop := breakLength_drop hrow h
  unfold breakLength at h hdrop ⊢
  split at h
  · cases hdrop
    exact ⟨.inl rfl, rfl⟩
  · cases hdrop
    exact ⟨.inr rfl, rfl⟩
  · exact absurd rfl h

theorem taken_comment (t : List Char) :
    ∃ text rest, '#' :: t = text ++ rest ∧ text.length = commentLength ('#' :: t) ∧
      Taken text rest .comment := by
  refine ⟨('#' :: t).take (commentLength ('#' :: t)), ('#' :: t).drop (commentLength ('#' :: t)),
    (List.take_append_drop _ _).symm,
    List.length_take_of_le (List.takeWhile_prefix _).length_le, ?_⟩
  have hinside : ∀ c ∈ t.takeWhile fun c => c ≠ '\r' && c ≠ '\n', c ≠ '\r' ∧ c ≠ '\n' := by
    intro c hc
    simpa using List.mem_takeWhile_imp hc
  refine .comment (t := t.takeWhile fun c => c ≠ '\r' && c ≠ '\n') ?_ hinside
    (breaksFirst_comment _)
  rw [commentLength, ← List.prefix_iff_eq_take.mp (List.takeWhile_prefix _)]
  rfl

theorem not_isDigit_of_isAsciiLetter {c : Char} (h : isAsciiLetter c = true) :
    isDigit c = false := by
  rw [Bool.eq_false_iff]
  intro hdigit
  simp only [isAsciiLetter, isDigit, Bool.or_eq_true, Bool.and_eq_true, decide_eq_true_eq,
    Char.le_def, UInt32.le_iff_toNat_le] at h hdigit
  have hlow : ('9'.val.toNat : Nat) < 'a'.val.toNat ∧ '9'.val.toNat < 'A'.val.toNat := by decide
  omega

theorem stands_of_opening (hopening : opening? body = some o)
    (h : (if o.tripled then tripledString blanks o body
      else match plainString blanks o body with
        | some piece => piece
        | none =>
          if o.letters = 0 then .lexeme 0 1 .stray
          else .lexeme blanks (wordLength body) (wordKind body)) = .lexeme m n kind)
    (hkind : kind ≠ .stray) :
    m = blanks ∧ ∃ text rest, body = text ++ rest ∧ text.length = n ∧ Stands rest kind text := by
  split at h
  · exact stands_of_tripledString hopening ‹_› h
  · rename_i htripled
    cases hplain : plainString blanks o body with
    | some piece =>
      simp only [hplain] at h
      exact stands_of_plainString hopening (by simpa using htripled) (h ▸ hplain)
    | none =>
      simp only [hplain] at h
      split at h
      · cases h
        exact absurd rfl hkind
      · rename_i hletters
        cases h
        obtain ⟨letters, quoted, rfl, hlength, hascii, -⟩ := opening?_cases hopening
        cases letters with
        | nil => exact absurd hlength hletters
        | cons c letters =>
          have hc := hascii c (by simp)
          refine ⟨rfl, stands_of_wordLength (not_isDigit_of_isAsciiLetter hc) ?_⟩
          simp [isWordPart, hc]

-- What the scanner takes off a row.
theorem pieceAfter_taken (hrow : IsRow body) (h : pieceAfter blanks body = .lexeme m n kind)
    (hkind : kind ≠ .stray) :
    m = blanks ∧ ∃ text rest, body = text ++ rest ∧ text.length = n ∧ Taken text rest kind := by
  have hcontent (h : ∃ text rest, body = text ++ rest ∧ text.length = n ∧ Stands rest kind text) :
      ∃ text rest, body = text ++ rest ∧ text.length = n ∧ Taken text rest kind := by
    obtain ⟨text, rest, hbody, hlength, hstands⟩ := h
    exact ⟨text, rest, hbody, hlength, .content hstands⟩
  cases body with
  | nil => cases h
  | cons c t =>
    simp only [pieceAfter] at h
    split at h
    · cases h
    split at h
    · rename_i hhash
      cases h
      rw [hhash]
      exact ⟨rfl, taken_comment t⟩
    cases hopening : opening? (c :: t) with
    | some o =>
      simp only [hopening] at h
      obtain ⟨hm, htaken⟩ := stands_of_opening hopening h hkind
      exact ⟨hm, hcontent htaken⟩
    | none =>
      simp only [hopening] at h
      split_ifs at h with hnumber hbreak hoperator hword
      · cases h
        exact ⟨rfl, hcontent (stands_of_numberLength hnumber)⟩
      · cases h
        obtain ⟨hwhole, hlength⟩ := taken_of_breakLength hrow hbreak
        exact ⟨rfl, c :: t, [], (List.append_nil _).symm, hlength, .lineBreak hwhole rfl⟩
      · cases h
        exact ⟨rfl, hcontent (stands_of_operatorLength hoperator)⟩
      · cases h
        have hdigit : isDigit c = false := by
          rw [Bool.eq_false_iff]
          exact fun hdigit => hnumber (numberLength_ne_zero hdigit)
        have hpart : isWordPart c = true := by
          by_contra hpart
          simp [wordLength, hpart] at hword
        exact ⟨rfl, hcontent (stands_of_wordLength hdigit hpart)⟩
      · cases h
        exact absurd rfl hkind

theorem pieceAfter_openString (h : pieceAfter blanks body = .openString m o) : m = blanks := by
  have hplain {opening : Opening} {t : List Char}
      (h : plainString blanks opening t = some (.openString m o)) : m = blanks := by
    obtain ⟨line, -, hpiece⟩ := Option.map_eq_some_iff.mp h
    cases line with
    | closed => cases hpiece
    | continued => cases hpiece; rfl
  cases body with
  | nil => cases h
  | cons c rest =>
    simp only [pieceAfter, tripledString] at h
    repeat' split at h
    all_goals first
      | cases h; rfl
      | rename_i hpiece
        exact hplain (h ▸ hpiece)
      | cases h

theorem piece_gaps (rest : List Char) : ∃ gaps body, rest = gaps ++ body ∧
    (∀ c ∈ gaps, isGap c = true) ∧ piece rest = pieceAfter gaps.length body := by
  refine ⟨rest.takeWhile isGap, rest.dropWhile isGap, List.takeWhile_append_dropWhile.symm,
    fun c hc => List.mem_takeWhile_imp hc, ?_⟩
  rw [piece, drop_takeWhile]

theorem piece_taken (hrow : IsRow rest) (h : piece rest = .lexeme blanks n kind)
    (hkind : kind ≠ .stray) :
    ∃ gaps text behind, rest = gaps ++ (text ++ behind) ∧ gaps.length = blanks ∧
      text.length = n ∧ (∀ c ∈ gaps, isGap c = true) ∧ Taken text behind kind := by
  obtain ⟨gaps, body, rfl, hgaps, hpiece⟩ := piece_gaps rest
  rw [hpiece] at h
  have hbody : IsRow body := by simpa using hrow.drop gaps.length
  obtain ⟨rfl, text, behind, rfl, hlength, htaken⟩ := pieceAfter_taken hbody h hkind
  exact ⟨gaps, text, behind, rfl, rfl, hlength, hgaps, htaken⟩

theorem piece_continuation (hrow : IsRow rest) (h : piece rest = .continuation) :
    ∃ gaps ended, rest = gaps ++ '\\' :: ended ∧ (∀ c ∈ gaps, isGap c = true) ∧
      IsBreak ended := by
  obtain ⟨gaps, body, rfl, hgaps, hpiece⟩ := piece_gaps rest
  rw [hpiece] at h
  have hbody : IsRow body := by simpa using hrow.drop gaps.length
  cases body with
  | nil => cases h
  | cons c ended =>
    simp only [pieceAfter] at h
    split at h
    · rename_i hslash
      rw [Bool.and_eq_true, decide_eq_true_eq, decide_eq_true_eq] at hslash
      rw [hslash.1]
      exact ⟨gaps, ended, rfl, hgaps, (taken_of_breakLength hbody.tail hslash.2).1⟩
    · exfalso
      have hplain {o : Opening} : plainString gaps.length o (c :: ended) ≠ some .continuation := by
        intro hplain
        obtain ⟨line, -, hline⟩ := Option.map_eq_some_iff.mp hplain
        cases line <;> cases hline
      simp only [tripledString] at h
      repeat' split at h
      all_goals first
        | rename_i hpiece
          exact hplain (h ▸ hpiece)
        | cases h

theorem piece_opens (hrow : IsRow rest) (hbreak : '\n' ∈ rest)
    (h : piece rest = .openString blanks o) :
    ∃ gaps body, rest = gaps ++ body ∧ gaps.length = blanks ∧ (∀ c ∈ gaps, isGap c = true) ∧
      Opens o.quote o.tripled body := by
  obtain ⟨gaps, body, rfl, hgaps, hpiece⟩ := piece_gaps rest
  rw [hpiece] at h
  have hbody : IsRow body := by simpa using hrow.drop gaps.length
  have hbreak' : '\n' ∈ body := by
    refine (List.mem_append.mp hbreak).resolve_left fun hmem => ?_
    cases hgaps _ hmem
  obtain rfl := pieceAfter_openString h
  refine ⟨gaps, body, rfl, rfl, hgaps, ?_⟩
  cases body with
  | nil => cases h
  | cons c t =>
    simp only [pieceAfter] at h
    split at h
    · cases h
    split at h
    · cases h
    cases hopening : opening? (c :: t) with
    | none =>
      simp only [hopening] at h
      repeat' split at h
      all_goals cases h
    | some opening =>
      simp only [hopening] at h
      split at h
      · rename_i htripled
        obtain ⟨rfl, hopens⟩ := opens_of_tripledString hbody hbreak' hopening htripled h
        exact hopens
      · rename_i htripled
        cases hplain : plainString gaps.length opening (c :: t) with
        | none =>
          simp only [hplain] at h
          split at h <;> cases h
        | some piece =>
          simp only [hplain] at h
          obtain ⟨rfl, hopens⟩ :=
            opens_of_plainString hbody hopening (by simpa using htripled) (h ▸ hplain)
          exact hopens

end

section

variable {text rest behind : Text} {kind : LexemeKind}

theorem Stands.ne_nil (h : Stands rest kind text) : text ≠ [] := by
  cases h with
  | string _ _ hends => simp [openingText]
  | number => simp
  | operator hknown =>
    rintro rfl
    exact absurd hknown (by decide)
  | word => simp

theorem Stands.kind_ne (h : Stands rest kind text) :
    kind ≠ .newline ∧ kind ≠ .comment ∧ kind ≠ .stray := by
  cases h with
  | string => simp
  | number => simp
  | operator => simp
  | word hkind => rcases hkind with rfl | rfl <;> simp

theorem Stands.isLayout {l : Lexeme} (h : Stands rest l.kind text) : l.isLayout = false := by
  generalize hkind : l.kind = kind at h
  cases h with
  | string => simp [Lexeme.isLayout, hkind]
  | number => simp [Lexeme.isLayout, hkind]
  | operator => simp [Lexeme.isLayout, hkind]
  | word hworded => rcases hworded with rfl | rfl <;> simp [Lexeme.isLayout, hkind]

-- Only the first character behind a lexeme counts.
theorem Stands.of_head (h : Stands rest kind text)
    (hhead : behind.head? = none ∨ behind.head? = rest.head?) : Stands behind kind text := by
  have hmem : ∀ c ∈ behind.head?, c ∈ rest.head? := by
    intro c hc
    rcases hhead with hnone | hsame
    · rw [hnone] at hc
      cases hc
    · rwa [hsame] at hc
  cases h with
  | @string letters body quote tripled hletters hquote hends hplain =>
    refine .string hletters hquote hends fun htripled htwo => hplain htripled ?_
    obtain ⟨c, body, rfl⟩ := List.exists_cons_of_ne_nil hends.ne_nil
    cases body with
    | cons d body => simpa using htwo
    | nil =>
      cases behind with
      | nil => simp at htwo
      | cons d behind =>
        obtain ⟨rest, rfl⟩ := List.head?_eq_some_iff.mp (hmem d rfl)
        simpa using htwo
  | number hhead hmade => exact .number hhead hmade
  | operator hknown hlongest => exact .operator hknown fun c hc => hlongest c (hmem c hc)
  | word hkind hdigit hmade => exact .word hkind hdigit hmade

theorem Stands.append (h : Stands rest kind text) (hrest : rest = [] → behind = []) :
    Stands (rest ++ behind) kind text := by
  apply h.of_head
  cases rest with
  | nil => simp [hrest rfl]
  | cons c rest => exact .inr rfl

end

section

variable {blanks m n : Nat} {rest : List Char} {kind : LexemeKind}

theorem plainString_kind {opening : Opening} {body : List Char}
    (h : plainString blanks opening body = some (.lexeme m n kind)) : kind = .string := by
  obtain ⟨line, _, hpiece⟩ := Option.map_eq_some_iff.mp h
  cases line with
  | closed => cases hpiece; rfl
  | continued => cases hpiece

-- A stray lexeme of a row is its first character.
theorem stray_of_piece (h : piece rest = .lexeme blanks n .stray) :
    blanks = 0 ∧ n = 1 ∧ rest ≠ [] := by
  obtain ⟨gaps, body, rfl, -, hpiece⟩ := piece_gaps rest
  rw [hpiece] at h
  cases body with
  | nil => cases h
  | cons c body =>
    refine ⟨?_, ?_, by simp⟩
    all_goals
      simp only [pieceAfter, tripledString, wordKind] at h
      repeat' split at h
      all_goals cases h
      all_goals first
        | rfl
        | rename_i hplain
          cases plainString_kind hplain

-- What the scanner takes off a row, be it stray or not.
theorem piece_split (hrow : IsRow rest) (h : piece rest = .lexeme blanks n kind) :
    ∃ gaps text behind, rest = gaps ++ (text ++ behind) ∧ gaps.length = blanks ∧
      text.length = n ∧ (∀ c ∈ gaps, isGap c = true) ∧
      (kind = .newline ∧ IsBreak text ∧ behind = [] ∨
        (IsContent kind ∨ kind = .comment ∧ BreaksFirst behind) ∧ '\n' ∉ gaps ++ text) := by
  obtain ⟨-, hplain⟩ := piece_lexeme hrow h
  by_cases hstray : kind = .stray
  · subst hstray
    obtain ⟨rfl, rfl, hne⟩ := stray_of_piece h
    obtain ⟨c, t, rfl⟩ := List.exists_cons_of_ne_nil hne
    have hinside := (hplain.resolve_left (by simp)).1
    exact ⟨[], [c], t, rfl, rfl, rfl, by simp, .inr ⟨.inl (by simp [IsContent]), hinside⟩⟩
  · obtain ⟨gaps, text, behind, rfl, rfl, rfl, hgaps, htaken⟩ := piece_taken hrow h hstray
    refine ⟨gaps, text, behind, rfl, rfl, rfl, hgaps, ?_⟩
    rw [Within, ← List.drop_drop, List.drop_left, List.drop_left, List.take_add, List.take_left,
      List.drop_left, List.take_left] at hplain
    cases htaken with
    | lineBreak hwhole hended => exact .inl ⟨rfl, hwhole, hended⟩
    | comment => exact .inr (hplain.resolve_left (by simp)).symm
    | content hstands => exact .inr (hplain.resolve_left fun h => hstands.kind_ne.1 h.1).symm

-- A lexeme of a row that is not stray has the shape of its kind.
theorem taken_of_piece {gaps text behind : Text} (hrow : IsRow (gaps ++ (text ++ behind)))
    (h : piece (gaps ++ (text ++ behind)) = .lexeme gaps.length text.length kind)
    (hstray : kind ≠ .stray) : Taken text behind kind := by
  obtain ⟨gaps', text', behind', heq, hgaps, htext, -, htaken⟩ := piece_taken hrow h hstray
  obtain ⟨-, heq⟩ := List.append_inj heq hgaps.symm
  obtain ⟨rfl, rfl⟩ := List.append_inj heq htext.symm
  exact htaken

-- A string that a row opens and does not close begins as strings do.
theorem opens_of_piece {gaps body : Text} {o : Opening} (hrow : IsRow (gaps ++ body))
    (hbreak : '\n' ∈ gaps ++ body) (h : piece (gaps ++ body) = .openString gaps.length o) :
    Opens o.quote o.tripled body := by
  obtain ⟨gaps', body', heq, hgaps, -, hopens⟩ := piece_opens hrow hbreak h
  obtain ⟨-, rfl⟩ := List.append_inj heq hgaps.symm
  exact hopens

end

end Ghostwriter.Lexeme

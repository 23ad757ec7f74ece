import Ghostwriter.Lexeme.Scan
import Mathlib.Data.List.TakeWhile
import Mathlib.Tactic.SplitIfs

/-!
How far the pieces of a row reach: none but a line end takes the line feed.
-/

namespace Ghostwriter.Lexeme

open Ghostwriter.Text

-- No line feed is among the first `n` characters.
def Within (n : Nat) (t : List Char) : Prop := '\n' ∉ t.take n

namespace Within

variable {t : List Char} {m n : Nat}

theorem zero : Within 0 t := by simp [Within]

theorem cons {c : Char} (hc : c ≠ '\n') (h : Within n t) : Within (n + 1) (c :: t) := by
  simpa [Within] using ⟨hc.symm, h⟩

theorem add (hm : Within m t) (hn : Within n (t.drop m)) : Within (m + n) t := by
  simpa [Within, List.take_add] using ⟨hm, hn⟩

theorem takeWhile {p : Char → Bool} (hp : p '\n' = false) (t : List Char) :
    Within (t.takeWhile p).length t := by
  intro hmem
  rw [← List.prefix_iff_eq_take.mp (List.takeWhile_prefix p)] at hmem
  simp [List.mem_takeWhile_imp hmem] at hp

-- Whether the rest of a row has the line feed does not depend on where it begins.
theorem mem_drop_iff (h : Within n t) : '\n' ∈ t.drop n ↔ '\n' ∈ t := by
  have hsplit : '\n' ∈ t.take n ∨ '\n' ∈ t.drop n ↔ '\n' ∈ t := by
    rw [← List.mem_append, List.take_append_drop]
  rw [← hsplit, or_iff_right h]

end Within

-- The first `n` characters are all of one kind.
def Made (p : Char → Prop) (n : Nat) (t : List Char) : Prop := ∀ c ∈ t.take n, p c

namespace Made

variable {p : Char → Prop} {t : List Char} {m n : Nat}

theorem zero : Made p 0 t := by simp [Made]

theorem cons {c : Char} (hc : p c) (h : Made p n t) : Made p (n + 1) (c :: t) := by
  simpa [Made] using ⟨hc, h⟩

theorem add (hm : Made p m t) (hn : Made p n (t.drop m)) : Made p (m + n) t := by
  intro c hc
  rw [List.take_add, List.mem_append] at hc
  exact hc.elim (hm c) (hn c)

theorem within (h : Made p n t) (hp : ¬ p '\n') : Within n t := fun hmem => hp (h _ hmem)

theorem takeWhile {p : Char → Bool} (t : List Char) :
    Made (p · = true) (t.takeWhile p).length t := by
  intro c hc
  rw [← List.prefix_iff_eq_take.mp (List.takeWhile_prefix p)] at hc
  exact List.mem_takeWhile_imp hc

end Made

-- The characters of numbers.
def IsNumberPart (c : Char) : Prop :=
  isHexDigit c = true ∨ c ∈ ['_', '.', '+', '-', 'j', 'J', 'x', 'X', 'o', 'O']

instance : DecidablePred IsNumberPart := fun _ => inferInstanceAs (Decidable (_ ∨ _))

theorem isNumberPart_of_isDigit (c : Char) (h : isDigit c = true) : IsNumberPart c :=
  .inl (by simp [isHexDigit, h])

section

variable {isDigit : Char → Bool}

theorem moreDigits_made (h : ∀ c, isDigit c = true → IsNumberPart c) (t : List Char) :
    Made IsNumberPart (moreDigits isDigit t) t := by
  induction t using moreDigits.induct isDigit with
  | case1 => exact Made.zero
  | case2 c hc =>
    rw [moreDigits, if_pos hc]
    exact Made.zero.cons (h c hc)
  | case3 c hc =>
    rw [moreDigits, if_neg hc]
    exact Made.zero
  | case4 c d rest hc ih =>
    rw [moreDigits, if_pos hc]
    exact ih.cons (h c hc)
  | case5 c d rest hc hd ih =>
    rw [moreDigits, if_neg hc, if_pos hd]
    simp only [Bool.and_eq_true, decide_eq_true_eq] at hd
    exact (ih.cons (h d hd.2)).cons (.inr (by simp [hd.1]))
  | case6 c d rest hc hd =>
    rw [moreDigits, if_neg hc, if_neg hd]
    exact Made.zero

theorem digits_made (h : ∀ c, isDigit c = true → IsNumberPart c) (t : List Char) :
    Made IsNumberPart (digits isDigit t) t := by
  unfold digits
  split
  · exact Made.zero
  · split_ifs with hc
    · exact (moreDigits_made h _).cons (h _ hc)
    · exact Made.zero

end

theorem decimalLength_made (t : List Char) : Made IsNumberPart (decimalLength t) t := by
  unfold decimalLength
  split
  · exact Made.zero
  · have hzero (c : Char) (hc : decide (c = '0') = true) : IsNumberPart c := by
      rw [of_decide_eq_true hc]
      exact .inl (by decide)
    exact (moreDigits_made hzero _).cons (.inl (by decide))
  · exact digits_made isNumberPart_of_isDigit _

theorem baseDigit?_made {letter : Char} {isBaseDigit : Char → Bool}
    (h : baseDigit? letter = some isBaseDigit) :
    IsNumberPart letter ∧ ∀ c, isBaseDigit c = true → IsNumberPart c := by
  unfold baseDigit? at h
  split_ifs at h with hhex hoctal hbinary
  · cases h
    simp only [Bool.or_eq_true, decide_eq_true_eq] at hhex
    exact ⟨.inr (by rcases hhex with rfl | rfl <;> decide), fun c hc => .inl hc⟩
  · cases h
    simp only [Bool.or_eq_true, decide_eq_true_eq] at hoctal
    refine ⟨.inr (by rcases hoctal with rfl | rfl <;> decide), fun c hc => ?_⟩
    simp only [isOctalDigit, Bool.and_eq_true, decide_eq_true_eq] at hc
    refine isNumberPart_of_isDigit c ?_
    simp only [isDigit, Bool.and_eq_true, decide_eq_true_eq]
    exact ⟨hc.1, Char.le_trans hc.2 (by decide : '7' ≤ '9')⟩
  · cases h
    simp only [Bool.or_eq_true, decide_eq_true_eq] at hbinary
    refine ⟨.inl (by rcases hbinary with rfl | rfl <;> decide), fun c hc => ?_⟩
    simp only [isBinaryDigit, Bool.or_eq_true, decide_eq_true_eq] at hc
    exact .inl (by rcases hc with rfl | rfl <;> decide)

theorem integerLength_made (t : List Char) : Made IsNumberPart (integerLength t) t := by
  unfold integerLength
  split
  · rename_i letter rest
    cases hbase : baseDigit? letter with
    | none => exact decimalLength_made _
    | some isBaseDigit =>
      obtain ⟨hletter, hdigit⟩ := baseDigit?_made hbase
      have hmore := moreDigits_made hdigit rest
      simp only
      split
      · exact Made.zero.cons (.inl (by decide))
      · exact (hmore.cons hletter).cons (.inl (by decide))
  · exact decimalLength_made _

theorem exponentLength_made (t : List Char) : Made IsNumberPart (exponentLength t) t := by
  unfold exponentLength
  split
  · exact Made.zero
  · rename_i e rest
    split_ifs with he
    · have hletter : IsNumberPart e := by
        simp only [Bool.or_eq_true, decide_eq_true_eq] at he
        exact .inl (by rcases he with rfl | rfl <;> decide)
      split
      · exact Made.zero
      · rename_i sign others
        split_ifs with hsign
        · have hmore := digits_made isNumberPart_of_isDigit others
          have hsign' : IsNumberPart sign := by
            simp only [Bool.or_eq_true, decide_eq_true_eq] at hsign
            exact .inr (by rcases hsign with rfl | rfl <;> decide)
          split
          · exact Made.zero
          · exact (hmore.cons hsign').cons hletter
        · have hmore := digits_made isNumberPart_of_isDigit (sign :: others)
          split
          · exact Made.zero
          · exact hmore.cons hletter
    · exact Made.zero

theorem floatLength_made (t : List Char) : Made IsNumberPart (floatLength t) t := by
  have hwhole := digits_made isNumberPart_of_isDigit t
  unfold floatLength
  simp only
  split
  · rename_i rest hdrop
    split_ifs
    · exact Made.zero
    · rw [Nat.add_assoc, Nat.add_assoc]
      refine hwhole.add ?_
      rw [hdrop, Nat.add_comm 1]
      exact ((digits_made isNumberPart_of_isDigit rest).add (exponentLength_made _)).cons
        (.inr (by decide))
  · have hexponent := exponentLength_made (t.drop (digits isDigit t))
    split
    · exact Made.zero
    · split_ifs
      · exact Made.zero
      · exact hwhole.add hexponent

theorem imaginaryLength_made (t : List Char) : Made IsNumberPart (imaginaryLength t) t := by
  have hmarked {n : Nat} (hn : Made IsNumberPart n t) {c : Char} {rest : List Char}
      (hdrop : t.drop n = c :: rest) (hc : (n ≠ 0 && (c = 'j' || c = 'J')) = true) :
      Made IsNumberPart (n + 1) t := by
    simp only [Bool.and_eq_true, Bool.or_eq_true, decide_eq_true_eq] at hc
    refine hn.add ?_
    rw [hdrop]
    exact Made.zero.cons (.inr (by rcases hc.2 with rfl | rfl <;> decide))
  unfold imaginaryLength
  simp only
  split_ifs with hdigits hfloat
  · split at hdigits
    · rename_i c rest hdrop
      exact hmarked (digits_made isNumberPart_of_isDigit t) hdrop hdigits
    · cases hdigits
  · split at hfloat
    · rename_i c rest hdrop
      exact hmarked (floatLength_made t) hdrop hfloat
    · cases hfloat
  · exact Made.zero

theorem numberLength_made (t : List Char) : Made IsNumberPart (numberLength t) t := by
  have himaginary := imaginaryLength_made t
  have hfloat := floatLength_made t
  unfold numberLength
  split
  · split
    · exact integerLength_made t
    · exact hfloat
  · exact himaginary

theorem numberLength_within (t : List Char) : Within (numberLength t) t :=
  (numberLength_made t).within (by decide)

theorem operatorLength_cases (t : List Char) :
    (operatorLength t = 0 ∧ ∀ operator ∈ operators, ¬ operator <+: t) ∨
      ∃ operator rest, operator ∈ operators ∧ t = operator ++ rest ∧
        operatorLength t = operator.length := by
  unfold operatorLength
  cases hfind : operators.find? (List.isPrefixOf · t) with
  | none => exact .inl ⟨rfl, by simpa [List.find?_eq_none] using hfind⟩
  | some operator =>
    have hprefix : operator.isPrefixOf t = true := List.find?_some (p := (List.isPrefixOf · t)) hfind
    obtain ⟨rest, rfl⟩ := List.isPrefixOf_iff_prefix.mp hprefix
    exact .inr ⟨operator, rest, List.mem_of_find?_eq_some hfind, rfl, rfl⟩

theorem operatorLength_within (t : List Char) : Within (operatorLength t) t := by
  have hclean : ∀ operator ∈ operators, '\n' ∉ operator := by decide
  have hmade : Made (· ≠ '\n') (operatorLength t) t := by
    rcases operatorLength_cases t with ⟨hzero, -⟩ | ⟨operator, rest, hmem, rfl, hlength⟩
    · rw [hzero]
      exact Made.zero
    · rw [hlength, Made, List.take_left]
      rintro c hc rfl
      exact hclean operator hmem hc
  exact hmade.within (by simp)

theorem wordLength_within (t : List Char) : Within (wordLength t) t :=
  Within.takeWhile (by decide) t

theorem commentLength_within (t : List Char) : Within (commentLength t) t :=
  Within.takeWhile (by decide) t

theorem leadingColumn_made (column : Nat) (t : List Char) :
    Made (isGap · = true) (leadingColumn column t).2 t := by
  induction t generalizing column with
  | nil => simp [Made]
  | cons c t ih =>
    unfold leadingColumn
    split
    · rename_i heq
      cases heq
      exact (ih _).cons (by decide)
    · rename_i heq
      cases heq
      exact (ih _).cons (by decide)
    · rename_i heq
      cases heq
      exact (ih _).cons (by decide)
    · exact Made.zero

theorem leadingColumn_within (column : Nat) (t : List Char) :
    Within (leadingColumn column t).2 t :=
  (leadingColumn_made column t).within (by decide)

section

variable {quote : Char} {t : List Char} {n : Nat}

theorem isQuote_ne_break (h : isQuote quote = true) : quote ≠ '\n' := by
  rintro rfl
  simp [isQuote] at h

theorem firstLine?_within (hquote : quote ≠ '\n') (h : firstLine? quote t = some (.closed n)) :
    Within n t := by
  have hshift {k n : Nat} {line : Option FirstLine}
      (h : line.map (FirstLine.shift k) = some (.closed n)) :
      ∃ m, line = some (.closed m) ∧ n = m + k := by
    obtain ⟨first, hline, hshift⟩ := Option.map_eq_some_iff.mp h
    cases first with
    | closed m =>
      cases hshift
      exact ⟨m, hline, rfl⟩
    | continued m => cases hshift
  induction t using firstLine?.induct quote generalizing n with
  | case1 => cases h
  | case2 =>
    simp only [firstLine?, if_true, Option.some.injEq, FirstLine.closed.injEq] at h
    rw [← h]
    exact Within.zero.cons hquote
  | case3 c hc => simp [firstLine?, hc] at h
  | case4 rest => simp [firstLine?] at h
  | case5 d rest hd hreturn =>
    rw [firstLine?, if_pos rfl, if_neg hd, if_pos hreturn] at h
    cases h
  | case6 d rest hd hreturn ih =>
    rw [firstLine?, if_pos rfl, if_neg hd, if_neg hreturn] at h
    obtain ⟨m, hm, rfl⟩ := hshift h
    exact ((ih hm).cons hd).cons (by decide)
  | case7 d rest hc =>
    rw [firstLine?, if_neg hc, if_pos rfl] at h
    cases h
    exact Within.zero.cons hquote
  | case8 d rest hc hq =>
    rw [firstLine?, if_neg hc, if_neg hq, if_pos rfl] at h
    cases h
  | case9 c d rest hc hq hbreak ih =>
    rw [firstLine?, if_neg hc, if_neg hq, if_neg hbreak] at h
    obtain ⟨m, hm, rfl⟩ := hshift h
    exact (ih hm).cons hbreak

-- A row has a line feed at its end at most.
def IsRow (t : List Char) : Prop := '\n' ∉ t.dropLast

theorem IsRow.tail {c : Char} (h : IsRow (c :: t)) : IsRow t := by
  cases t with
  | nil => simp [IsRow]
  | cons d t => exact fun hmem => h (List.mem_cons_of_mem _ hmem)

theorem IsRow.drop (h : IsRow t) (n : Nat) : IsRow (t.drop n) := by
  induction n generalizing t with
  | zero => exact h
  | succ n ih =>
    cases t with
    | nil => simpa using h
    | cons c t => exact ih h.tail

theorem IsRow.of_append {u : List Char} (h : IsRow (u ++ t)) : IsRow t := by
  simpa using h.drop u.length

theorem not_mem_of_isRow {c : Char} {u : List Char} (h : IsRow (u ++ c :: t)) : '\n' ∉ u := by
  rw [IsRow, List.dropLast_append_of_ne_nil (by simp), List.mem_append, not_or] at h
  exact h.1

theorem IsRow.head_ne {c : Char} (h : IsRow (c :: t)) (ht : t ≠ []) : c ≠ '\n' := by
  obtain ⟨d, t, rfl⟩ := List.exists_cons_of_ne_nil ht
  rintro rfl
  exact h (by simp)

theorem closeLength?_within (hquote : quote ≠ '\n') (hrow : IsRow t)
    (h : closeLength? quote t = some n) : Within n t := by
  induction t using closeLength?.induct quote generalizing n with
  | case1 => cases h
  | case2 =>
    simp only [closeLength?, if_true, Option.some.injEq] at h
    rw [← h]
    exact Within.zero.cons hquote
  | case3 c hc => simp [closeLength?, hc] at h
  | case4 rest => simp [closeLength?] at h
  | case5 d rest hd ih =>
    rw [closeLength?, if_pos rfl, if_neg hd] at h
    obtain ⟨m, hm, rfl⟩ := Option.map_eq_some_iff.mp h
    exact ((ih hrow.tail.tail hm).cons hd).cons (by decide)
  | case6 d rest hc =>
    rw [closeLength?, if_neg hc, if_pos rfl] at h
    cases h
    exact Within.zero.cons hquote
  | case7 c d rest hc hq ih =>
    rw [closeLength?, if_neg hc, if_neg hq] at h
    obtain ⟨m, hm, rfl⟩ := Option.map_eq_some_iff.mp h
    exact (ih hrow.tail hm).cons (hrow.head_ne (by simp))

theorem closeTripleLength?_within (hquote : quote ≠ '\n') (hrow : IsRow t)
    (h : closeTripleLength? quote t = some n) : Within n t := by
  induction t using closeTripleLength?.induct quote generalizing n with
  | case1 => cases h
  | case2 => simp [closeTripleLength?] at h
  | case3 rest => simp [closeTripleLength?] at h
  | case4 d rest hd ih =>
    simp only [closeTripleLength?, if_true, if_neg hd] at h
    obtain ⟨m, hm, rfl⟩ := Option.map_eq_some_iff.mp h
    exact ((ih hrow.tail.tail hm).cons hd).cons (by decide)
  | case5 c rest hc hclose =>
    rw [closeTripleLength?.eq_def] at h
    simp only [if_neg hc, if_pos hclose, Option.some.injEq] at h
    simp only [Bool.and_eq_true, decide_eq_true_eq, beq_iff_eq] at hclose
    obtain ⟨rfl, htwo⟩ := hclose
    rw [← h, Within, List.take_succ_cons, htwo]
    simpa using hquote.symm
  | case6 c rest hc hclose ih =>
    rw [closeTripleLength?.eq_def] at h
    simp only [if_neg hc, if_neg hclose] at h
    obtain ⟨m, hm, rfl⟩ := Option.map_eq_some_iff.mp h
    refine (ih hrow.tail hm).cons (hrow.head_ne ?_)
    rintro rfl
    cases hm

end

theorem isAsciiLetter_of_lowerAscii {c : Char} (h : lowerAscii c ∈ ['b', 'r', 'u', 'f']) :
    isAsciiLetter c = true := by
  unfold lowerAscii at h
  split_ifs at h with hc
  · simp only [Bool.and_eq_true, decide_eq_true_eq] at hc
    simp [isAsciiLetter, hc]
  · simp only [List.mem_cons, List.not_mem_nil, or_false] at h
    rcases h with rfl | rfl | rfl | rfl <;> rfl

theorem isAsciiLetter_of_isStringPrefix {letters : List Char}
    (h : isStringPrefix letters = true) : ∀ c ∈ letters, isAsciiLetter c = true := by
  have hlow : ∀ c ∈ letters.map lowerAscii, c ∈ ['b', 'r', 'u', 'f'] := by
    unfold isStringPrefix at h
    split at h
    · rename_i hmap
      simp [hmap]
    · rename_i a hmap
      simpa [hmap, or_assoc] using h
    · rename_i a b hmap
      simp only [Bool.or_eq_true, Bool.and_eq_true, decide_eq_true_eq] at h
      rw [hmap]
      rcases h with ⟨rfl, rfl | rfl⟩ | ⟨rfl, rfl | rfl⟩ <;> simp
    · cases h
  exact fun c hc => isAsciiLetter_of_lowerAscii (hlow _ (List.mem_map_of_mem hc))

section

variable {t : List Char} {o : Opening}

-- The letters before the quote and the rest, which begins with the quote.
theorem opening?_split (h : opening? t = some o) :
    ∃ letters rest, t = letters ++ o.quote :: rest ∧ o.letters = letters.length ∧
      isStringPrefix letters = true ∧ isQuote o.quote = true ∧
      (o.tripled = true ↔ rest.take 2 = [o.quote, o.quote]) := by
  unfold opening? at h
  simp only at h
  split_ifs at h with hletters
  generalize hl : (t.take 3).takeWhile (fun c => !isQuote c) = letters at h hletters
  have hprefix : letters <+: t :=
    hl ▸ (List.takeWhile_prefix _).trans (List.take_prefix 3 t)
  have ht : t = letters ++ t.drop letters.length := (List.prefix_iff_eq_append.mp hprefix).symm
  unfold openingAfter at h
  split at h
  · rename_i q q' q'' rest hdrop
    split_ifs at h with hquote
    cases h
    refine ⟨letters, _, hdrop ▸ ht, rfl, hletters, hquote, ?_⟩
    simp
  · rename_i q rest hshort hdrop
    split_ifs at h with hquote
    cases h
    refine ⟨letters, _, hdrop ▸ ht, rfl, hletters, hquote, ?_⟩
    refine iff_of_false (by simp) fun htwo => ?_
    exact hshort _ _ _ (by rw [← List.take_append_drop 2 rest, htwo]; rfl)
  · cases h

theorem opening?_cases (h : opening? t = some o) :
    ∃ letters rest, t = letters ++ o.quote :: rest ∧ o.letters = letters.length ∧
      (∀ c ∈ letters, isAsciiLetter c = true) ∧ isQuote o.quote = true ∧
      (o.tripled = true ↔ rest.take 2 = [o.quote, o.quote]) := by
  obtain ⟨letters, rest, ht, hlength, hletters, hbehind⟩ := opening?_split h
  exact ⟨letters, rest, ht, hlength, isAsciiLetter_of_isStringPrefix hletters, hbehind⟩

theorem opening?_eq_none {c : Char} (hletter : isAsciiLetter c = false) (hquote : isQuote c = false)
    (t : List Char) : opening? (c :: t) = none := by
  rw [Option.eq_none_iff_forall_ne_some]
  intro o ho
  obtain ⟨letters, rest, heq, -, hletters, hopen, -⟩ := opening?_cases ho
  cases letters with
  | nil =>
    cases heq
    rw [hquote] at hopen
    cases hopen
  | cons d letters =>
    cases heq
    rw [hletters c List.mem_cons_self] at hletter
    cases hletter

theorem opening?_within (h : opening? t = some o) :
    isQuote o.quote = true ∧ Within o.length t := by
  obtain ⟨letters, rest, rfl, hlength, hletters, hquote, htripled⟩ := opening?_cases h
  have hne := isQuote_ne_break hquote
  refine ⟨hquote, ?_⟩
  rw [Opening.length, hlength]
  refine Within.add ?_ ?_
  · intro hmem
    rw [List.take_left] at hmem
    exact absurd (hletters _ hmem) (by decide)
  · rw [List.drop_left]
    split_ifs with h3
    · refine Within.cons (n := 2) hne ?_
      rw [Within, htripled.mp h3]
      simpa using hne.symm
    · exact Within.zero.cons hne

theorem opening?_length_le (h : opening? body = some o) : o.length ≤ body.length := by
  obtain ⟨letters, behind, rfl, hlength, -, -, htripled⟩ := opening?_cases h
  rw [Opening.length, hlength]
  split_ifs with h3
  · have htwo := congrArg List.length (htripled.mp h3)
    simp only [List.length_take, List.length_cons, List.length_nil, List.length_append] at htwo ⊢
    omega
  · simp

end

theorem opening?_of_break {c : Char} (h : c = '\r' ∨ c = '\n') (t : List Char) :
    opening? (c :: t) = none := by
  cases ho : opening? (c :: t) with
  | none => rfl
  | some o =>
    obtain ⟨letters, rest, ht, -, hletters, hquote, -⟩ := opening?_cases ho
    cases letters with
    | nil =>
      rw [← (List.cons_eq_cons.mp ht).1] at hquote
      rcases h with rfl | rfl <;> simp [isQuote] at hquote
    | cons d letters =>
      obtain rfl : c = d := (List.cons_eq_cons.mp ht).1
      have := hletters c (by simp)
      rcases h with rfl | rfl <;> simp [isAsciiLetter] at this

-- The kinds that a line can have between its indentation and its end, comments apart.
def IsContent (kind : LexemeKind) : Prop :=
  kind = .name ∨ kind = .number ∨ kind = .string ∨ kind = .operator ∨ kind = .stray

section

variable {blanks m n : Nat} {body : List Char} {kind : LexemeKind}

theorem breakLength_drop (hrow : IsRow body) (h : breakLength body ≠ 0) :
    body.drop (breakLength body) = [] := by
  unfold breakLength at h ⊢
  split
  · rename_i rest
    by_contra hne
    exact hrow.head_ne hne rfl
  · rename_i rest
    by_contra hne
    exact hrow.tail.head_ne hne rfl
  · simp at h

theorem plainString_within {o : Opening} (hopening : opening? body = some o)
    (hplain : o.tripled = false) (h : plainString blanks o body = some (.lexeme m n kind)) :
    0 < n ∧ kind = .string ∧ m = blanks ∧ Within n body := by
  obtain ⟨line, hline, hpiece⟩ := Option.map_eq_some_iff.mp h
  obtain ⟨hquote, hwithin⟩ := opening?_within hopening
  cases line with
  | continued => cases hpiece
  | closed k =>
    cases hpiece
    simp only [Opening.length, hplain, Bool.false_eq_true, if_false] at hwithin
    exact ⟨by omega, rfl, rfl, hwithin.add (firstLine?_within (isQuote_ne_break hquote) hline)⟩

theorem tripledString_within {o : Opening} (hrow : IsRow body) (hopening : opening? body = some o)
    (h : tripledString blanks o body = .lexeme m n kind) :
    0 < n ∧ kind = .string ∧ m = blanks ∧ Within n body := by
  obtain ⟨hquote, hwithin⟩ := opening?_within hopening
  unfold tripledString at h
  split at h
  · rename_i k hclose
    cases h
    refine ⟨?_, rfl, rfl,
      hwithin.add (closeTripleLength?_within (isQuote_ne_break hquote) (hrow.drop _) hclose)⟩
    unfold Opening.length
    split_ifs <;> omega
  · cases h

theorem wordKind_isContent (t : List Char) : IsContent (wordKind t) := by
  unfold wordKind
  split
  · split_ifs <;> simp [IsContent]
  · simp [IsContent]

-- A line end is the last piece of its row, and no other piece takes the line feed. A stray
-- character may be one of the blanks.
theorem pieceAfter_within (hrow : IsRow body) (h : pieceAfter blanks body = .lexeme m n kind) :
    0 < n ∧ ((kind = .newline ∧ m = blanks ∧ body.drop n = []) ∨
      (kind = .comment ∧ m = blanks ∧ n = commentLength body) ∨
      (IsContent kind ∧ ((m = blanks ∧ Within n body) ∨
        (m = 0 ∧ n = 1 ∧ ∀ c ∈ body.head?, c ≠ '\n')))) := by
  cases body with
  | nil => cases h
  | cons c rest =>
    simp only [pieceAfter] at h
    split at h
    · cases h
    split at h
    · rename_i hc
      cases h
      refine ⟨?_, .inr (.inl ⟨rfl, rfl, rfl⟩)⟩
      simp [commentLength, hc]
    cases hopening : opening? (c :: rest) with
    | some o =>
      simp only [hopening] at h
      split at h
      · obtain ⟨hpos, hkind, hm, hwithin⟩ := tripledString_within hrow hopening h
        exact ⟨hpos, .inr (.inr ⟨by simp [IsContent, hkind], .inl ⟨hm, hwithin⟩⟩)⟩
      · rename_i htripled
        obtain ⟨letters, quoted, ht, hlength, hletters, hquote, -⟩ := opening?_cases hopening
        cases hplain : plainString blanks o (c :: rest) with
        | some piece =>
          simp only [hplain] at h
          obtain ⟨hpos, hkind, hm, hwithin⟩ :=
            plainString_within hopening (by simpa using htripled) (h ▸ hplain)
          exact ⟨hpos, .inr (.inr ⟨by simp [IsContent, hkind], .inl ⟨hm, hwithin⟩⟩)⟩
        | none =>
          simp only [hplain] at h
          cases letters with
          | nil =>
            rw [if_pos (by simpa using hlength)] at h
            cases h
            have hc := isQuote_ne_break hquote
            rw [← (List.cons_eq_cons.mp ht).1] at hc
            exact ⟨by decide, .inr (.inr ⟨by simp [IsContent], .inr ⟨rfl, rfl, by simpa using hc⟩⟩)⟩
          | cons d letters =>
            rw [if_neg (by simp [hlength])] at h
            cases h
            refine ⟨?_, .inr (.inr ⟨wordKind_isContent _, .inl ⟨rfl, wordLength_within _⟩⟩)⟩
            have hd := hletters d (by simp)
            rw [← (List.cons_eq_cons.mp ht).1] at hd
            simp [wordLength, isWordPart, hd]
    | none =>
      simp only [hopening] at h
      split_ifs at h with hnumber hbreak hoperator hword
      all_goals cases h
      · exact ⟨by omega, .inr (.inr ⟨by simp [IsContent], .inl ⟨rfl, numberLength_within _⟩⟩)⟩
      · exact ⟨by omega, .inl ⟨rfl, rfl, breakLength_drop hrow hbreak⟩⟩
      · exact ⟨by omega, .inr (.inr ⟨by simp [IsContent], .inl ⟨rfl, operatorLength_within _⟩⟩)⟩
      · exact ⟨by omega, .inr (.inr ⟨wordKind_isContent _, .inl ⟨rfl, wordLength_within _⟩⟩)⟩
      · refine ⟨by decide, .inr (.inr ⟨by simp [IsContent], .inr ⟨rfl, rfl, ?_⟩⟩)⟩
        rintro _ ⟨⟩ rfl
        simp [breakLength] at hbreak

end

-- What a comment leaves of its row.
def BreaksFirst (t : List Char) : Prop := ∀ c ∈ t.head?, c = '\r' ∨ c = '\n'

theorem drop_takeWhile (p : Char → Bool) (t : List Char) :
    t.drop (t.takeWhile p).length = t.dropWhile p :=
  calc
    t.drop (t.takeWhile p).length =
        (t.takeWhile p ++ t.dropWhile p).drop (t.takeWhile p).length := by
      rw [List.takeWhile_append_dropWhile]
    _ = t.dropWhile p := List.drop_left

theorem breaksFirst_comment (t : List Char) : BreaksFirst (t.drop (commentLength t)) := by
  intro c hc
  rw [commentLength, drop_takeWhile] at hc
  have hstop := List.head?_dropWhile_not (fun c => c ≠ '\r' && c ≠ '\n') t
  rw [Option.mem_def.mp hc] at hstop
  simp only [ne_eq, decide_not, Bool.and_eq_false_iff, Bool.not_eq_false', decide_eq_true_eq]
    at hstop
  exact hstop

-- The first character is a blank before `body`, or the first one of `body`.
theorem head_ne_break {rest : List Char}
    (h : ∀ c ∈ (rest.drop (rest.takeWhile isGap).length).head?, c ≠ '\n') : Within 1 rest := by
  cases rest with
  | nil => simp [Within]
  | cons c rest =>
    refine Within.zero.cons ?_
    by_cases hgap : isGap c = true
    · rintro rfl
      simp [isGap] at hgap
    · exact h c (by simp [hgap])

section

variable {blanks length : Nat} {rest : List Char} {kind : LexemeKind}

theorem piece_lexeme (hrow : IsRow rest) (h : piece rest = .lexeme blanks length kind) :
    0 < length ∧ ((kind = .newline ∧ rest.drop (blanks + length) = []) ∨
      (Within (blanks + length) rest ∧
        (IsContent kind ∨ (kind = .comment ∧ BreaksFirst (rest.drop (blanks + length)))))) := by
  unfold piece at h
  simp only at h
  have hgaps : Within (rest.takeWhile isGap).length rest := Within.takeWhile (by decide) rest
  obtain ⟨hpos, ⟨rfl, rfl, hdrop⟩ | ⟨rfl, rfl, rfl⟩ | ⟨hkind, ⟨rfl, hlength⟩ | ⟨rfl, rfl, hhead⟩⟩⟩ :=
    pieceAfter_within (hrow.drop _) h
  · exact ⟨hpos, .inl ⟨rfl, by rwa [List.drop_drop] at hdrop⟩⟩
  · refine ⟨hpos, .inr ⟨hgaps.add (commentLength_within _), .inr ⟨rfl, ?_⟩⟩⟩
    rw [← List.drop_drop]
    exact breaksFirst_comment _
  · exact ⟨hpos, .inr ⟨hgaps.add hlength, .inl hkind⟩⟩
  · exact ⟨hpos, .inr ⟨head_ne_break hhead, .inl hkind⟩⟩

theorem plainString_ne_nothing {o : Opening} {body : List Char} :
    plainString blanks o body ≠ some .nothing := by
  intro h
  obtain ⟨line, -, hpiece⟩ := Option.map_eq_some_iff.mp h
  cases line <;> cases hpiece

-- Nothing but blanks is left.
theorem isGap_of_nothing (h : piece rest = .nothing) : ∀ c ∈ rest, isGap c = true := by
  unfold piece at h
  simp only at h
  have hnil : rest.drop (rest.takeWhile isGap).length = [] := by
    cases hbody : rest.drop (rest.takeWhile isGap).length with
    | nil => rfl
    | cons c body =>
      simp only [hbody, pieceAfter, tripledString] at h
      repeat' split at h
      all_goals first
        | rename_i hplain
          exact absurd (h ▸ hplain) plainString_ne_nothing
        | cases h
  rwa [drop_takeWhile, List.dropWhile_eq_nil_iff] at hnil

theorem piece_nothing (h : piece rest = .nothing) : '\n' ∉ rest := by
  intro hmem
  exact absurd (isGap_of_nothing h _ hmem) (by decide)

-- The string that a row opens begins with a quote.
theorem piece_openString {o : Opening} (h : piece rest = .openString blanks o) :
    isQuote o.quote = true := by
  have hplain {gaps : Nat} {body : List Char} {opening : Opening}
      (hopening : opening? body = some opening)
      (h : plainString gaps opening body = some (.openString blanks o)) :
      isQuote o.quote = true := by
    obtain ⟨line, -, hpiece⟩ := Option.map_eq_some_iff.mp h
    cases line with
    | closed => cases hpiece
    | continued =>
      cases hpiece
      exact (opening?_within hopening).1
  have htripled {gaps : Nat} {body : List Char} {opening : Opening}
      (hopening : opening? body = some opening)
      (h : tripledString gaps opening body = .openString blanks o) : isQuote o.quote = true := by
    unfold tripledString at h
    split at h
    · cases h
    · cases h
      exact (opening?_within hopening).1
  unfold piece at h
  simp only at h
  cases hbody : rest.drop (rest.takeWhile isGap).length with
  | nil =>
    rw [hbody] at h
    cases h
  | cons c body =>
    rw [hbody] at h
    simp only [pieceAfter] at h
    split at h
    · cases h
    split at h
    · cases h
    cases hopening : opening? (c :: body) with
    | some opening =>
      simp only [hopening] at h
      split at h
      · exact htripled hopening h
      · split at h
        · rename_i piece hpiece
          exact hplain hopening (h ▸ hpiece)
        · split at h <;> cases h
    | none =>
      simp only [hopening] at h
      repeat' split at h
      all_goals cases h

theorem operatorLength_of_break {c : Char} (h : c = '\r' ∨ c = '\n') (t : List Char) :
    operatorLength (c :: t) = 0 := by
  have hheads : ∀ operator ∈ operators,
      operator.head? ≠ none ∧ operator.head? ≠ some '\r' ∧ operator.head? ≠ some '\n' := by decide
  have hnone : operators.find? (List.isPrefixOf · (c :: t)) = none := by
    refine List.find?_eq_none.mpr fun operator hmem hprefix => ?_
    obtain ⟨hne, hreturn, hfeed⟩ := hheads operator hmem
    cases operator with
    | nil => exact hne rfl
    | cons d operator =>
      obtain ⟨rfl, -⟩ := List.cons_prefix_cons.mp (List.isPrefixOf_iff_prefix.mp hprefix)
      rcases h with rfl | rfl
      · exact hreturn rfl
      · exact hfeed rfl
  rw [operatorLength, hnone]

theorem numberLength_eq_zero {c : Char} (hdigit : isDigit c = false) (hdot : c ≠ '.')
    (t : List Char) : numberLength (c :: t) = 0 := by
  have hzero : c ≠ '0' := by
    rintro rfl
    cases hdigit
  have hdigits : digits isDigit (c :: t) = 0 := by simp [digits, hdigit]
  have hfloat : floatLength (c :: t) = 0 := by
    simp only [floatLength, hdigits, List.drop_zero, if_true]
    split
    · rename_i heq
      exact absurd (List.cons.inj heq).1 hdot
    · split <;> rfl
  have himaginary : imaginaryLength (c :: t) = 0 := by simp [imaginaryLength, hdigits, hfloat]
  have hinteger : integerLength (c :: t) = 0 := by
    rw [integerLength, decimalLength, hdigits]
    · exact List.cons_ne_nil _ _
    · exact fun _ heq => absurd (List.cons.inj heq).1 hzero
    · exact fun _ _ heq => absurd (List.cons.inj heq).1 hzero
  simp [numberLength, himaginary, hfloat, hinteger]

theorem piece_of_break {c : Char} (h : c = '\r' ∨ c = '\n') (t : List Char) :
    ∃ length kind, piece (c :: t) = .lexeme 0 length kind ∧ (kind = .newline ∨ kind = .stray) := by
  have hgap : isGap c = false := by rcases h with rfl | rfl <;> decide
  have hword : isWordPart c = false := by rcases h with rfl | rfl <;> decide
  have hslash : c ≠ '\\' := by rcases h with rfl | rfl <;> decide
  have hhash : c ≠ '#' := by rcases h with rfl | rfl <;> decide
  have hnumber : numberLength (c :: t) = 0 := by
    rcases h with rfl | rfl <;> exact numberLength_eq_zero (by decide) (by decide) t
  have hpiece : piece (c :: t) =
      if breakLength (c :: t) ≠ 0 then .lexeme 0 (breakLength (c :: t)) .newline
      else .lexeme 0 1 .stray := by
    simp [piece, pieceAfter, hgap, hslash, hhash, opening?_of_break h, hnumber,
      operatorLength_of_break h, wordLength, hword]
  rw [hpiece]
  split_ifs
  · exact ⟨_, _, rfl, .inl rfl⟩
  · exact ⟨_, _, rfl, .inr rfl⟩

theorem piece_of_breaksFirst (h : BreaksFirst rest) : rest = [] ∨
    ∃ length kind, piece rest = .lexeme 0 length kind ∧ (kind = .newline ∨ kind = .stray) := by
  cases rest with
  | nil => exact .inl rfl
  | cons c t => exact .inr (piece_of_break (h c rfl) t)

end

end Ghostwriter.Lexeme

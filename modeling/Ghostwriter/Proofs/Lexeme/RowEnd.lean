import Ghostwriter.Proofs.Lexeme.Taken
import Mathlib.Data.List.Find

/-!
What a row begins with is told by what stands before its end: neither the way in which the row ends
nor anything behind that makes a number, a word, an operator or the opening of a string longer. A
closing parenthesis is such an end too, but for an operator, a comment and the body of a string.
-/

namespace Ghostwriter.Lexeme

open Ghostwriter.Text

-- The characters that the ends of rows are made of.
def IsEnd (c : Char) : Prop := c = '\r' ∨ c = '\n'

-- The characters that end a number or a word, and before which no string begins.
def IsStop (c : Char) : Prop := IsEnd c ∨ c = ')'

section

variable {p : Char → Bool} {c : Char} {u v : List Char}

theorem IsStop.ne (h : IsStop c) {d : Char} (hreturn : d ≠ '\r') (hfeed : d ≠ '\n')
    (hparen : d ≠ ')') : c ≠ d := by
  rintro rfl
  exact h.elim (fun h => h.elim hreturn hfeed) hparen

theorem IsStop.isDigit (h : IsStop c) : isDigit c = false := by
  rcases h with (rfl | rfl) | rfl <;> rfl

theorem takeWhile_append_end (hp : p c = false) (u : List Char) :
    (u ++ c :: v).takeWhile p = u.takeWhile p := by
  induction u with
  | nil => simp [hp]
  | cons a u ih => simp only [List.cons_append, List.takeWhile_cons, ih]

theorem moreDigits_append_end (hp : p c = false) (hc : c ≠ '_') (u : List Char) :
    moreDigits p (u ++ c :: v) = moreDigits p u := by
  have hnone : moreDigits p (c :: v) = 0 := by
    cases v <;> simp [moreDigits, hp, hc]
  fun_induction moreDigits p u with
  | case1 => exact hnone
  | case2 a ha => simp [moreDigits, ha, hnone]
  | case3 a ha => simp [moreDigits, ha, hp]
  | case4 a d rest ha ih => simpa [moreDigits, ha] using ih
  | case5 a d rest ha hd ih =>
    simp only [List.cons_append, moreDigits, ha, hd, ih, if_true, if_false, Bool.false_eq_true]
  | case6 a d rest ha hd =>
    simp only [List.cons_append, moreDigits, ha, hd, if_false, Bool.false_eq_true]

theorem digits_append_end (hp : p c = false) (hc : c ≠ '_') (u : List Char) :
    digits p (u ++ c :: v) = digits p u := by
  cases u with
  | nil => simp [digits, hp]
  | cons a u => simp only [List.cons_append, digits, moreDigits_append_end hp hc]

end

theorem decimalLength_cons {a : Char} (ha : a ≠ '0') (t : List Char) :
    decimalLength (a :: t) = digits isDigit (a :: t) := by
  rw [decimalLength]
  · exact List.cons_ne_nil _ _
  · exact fun _ heq => ha (List.cons.inj heq).1

theorem integerLength_cons {a : Char} (ha : a ≠ '0') (t : List Char) :
    integerLength (a :: t) = decimalLength (a :: t) := by
  rw [integerLength]
  exact fun _ _ heq => ha (List.cons.inj heq).1

theorem isPrefixOf_append_of_not_mem {c : Char} {operator : List Char} (h : c ∉ operator)
    (u v : List Char) : operator.isPrefixOf (u ++ c :: v) = operator.isPrefixOf u := by
  induction operator generalizing u with
  | nil => simp
  | cons a operator ih =>
    rw [List.mem_cons, not_or] at h
    cases u with
    | nil => simp [List.isPrefixOf, Ne.symm h.1]
    | cons b u => simp only [List.cons_append, List.isPrefixOf, ih h.2]

section

variable {c : Char} {v : List Char} (hc : IsStop c)
include hc

theorem decimalLength_append_end (u : List Char) :
    decimalLength (u ++ c :: v) = decimalLength u := by
  have hzero := hc.ne (d := '0') (by decide) (by decide) (by decide)
  have hline := hc.ne (d := '_') (by decide) (by decide) (by decide)
  have hdigits := @digits_append_end _ _ v hc.isDigit hline
  cases u with
  | nil =>
    rw [List.nil_append, decimalLength_cons hzero]
    simp [digits, hc.isDigit, decimalLength]
  | cons a u =>
    by_cases ha : a = '0'
    · subst ha
      simp only [List.cons_append, decimalLength,
        moreDigits_append_end (p := (· = '0')) (by simpa using hzero) hline]
    · rw [List.cons_append, decimalLength_cons ha, decimalLength_cons ha, ← List.cons_append,
        hdigits]

theorem baseDigit?_end : baseDigit? c = none := by
  rcases hc with (rfl | rfl) | rfl <;> rfl

theorem integerLength_append_end (u : List Char) :
    integerLength (u ++ c :: v) = integerLength u := by
  have hdecimal := @decimalLength_append_end _ v hc
  have hzero := hc.ne (d := '0') (by decide) (by decide) (by decide)
  have hline := hc.ne (d := '_') (by decide) (by decide) (by decide)
  match u with
  | [] =>
    rw [List.nil_append, integerLength_cons hzero, ← List.nil_append (c :: v), hdecimal]
    rfl
  | [a] =>
    by_cases ha : a = '0'
    · subst ha
      simp only [List.cons_append, List.nil_append, integerLength, baseDigit?_end hc]
      exact hdecimal ['0']
    · rw [List.cons_append, integerLength_cons ha, integerLength_cons ha, ← List.cons_append,
        hdecimal]
  | a :: letter :: u =>
    by_cases ha : a = '0'
    · subst ha
      simp only [List.cons_append, integerLength]
      cases hbase : baseDigit? letter with
      | none => exact hdecimal ('0' :: letter :: u)
      | some isBaseDigit =>
        have hbreak : isBaseDigit c = false := by
          have hmade := (baseDigit?_made hbase).2 c
          by_contra htrue
          have hpart := hmade (by simpa using htrue)
          rcases hc with (rfl | rfl) | rfl <;> exact absurd hpart (by decide)
        simp only [moreDigits_append_end hbreak hline]
    · rw [List.cons_append, integerLength_cons ha, integerLength_cons ha, ← List.cons_append,
        hdecimal]

theorem exponentLength_append_end (u : List Char) :
    exponentLength (u ++ c :: v) = exponentLength u := by
  have hline := hc.ne (d := '_') (by decide) (by decide) (by decide)
  have hdigits := @digits_append_end _ _ v hc.isDigit hline
  have hnone : digits isDigit (c :: v) = 0 := by simp [digits, hc.isDigit]
  have hplain : c ≠ 'e' ∧ c ≠ 'E' ∧ c ≠ '+' ∧ c ≠ '-' := by
    rcases hc with (rfl | rfl) | rfl <;> decide
  cases u with
  | nil => simp [exponentLength, hplain]
  | cons e u =>
    cases u with
    | nil => simp [exponentLength, hplain, hnone]
    | cons sign u =>
      have hwhole := hdigits (sign :: u)
      rw [List.cons_append] at hwhole
      simp only [List.cons_append, exponentLength, hdigits u, hwhole]

theorem floatLength_append_end (u : List Char) : floatLength (u ++ c :: v) = floatLength u := by
  have hline := hc.ne (d := '_') (by decide) (by decide) (by decide)
  have hdot := hc.ne (d := '.') (by decide) (by decide) (by decide)
  have hdigits := @digits_append_end _ _ v hc.isDigit hline
  have hexponent := @exponentLength_append_end _ v hc
  unfold floatLength
  simp only [hdigits, List.drop_append_of_le_length digits_le]
  cases hdrop : u.drop (digits isDigit u) with
  | nil =>
    have hnone : exponentLength (c :: v) = 0 := hexponent []
    have hnil : exponentLength [] = 0 := rfl
    simp [hnone, hnil, hdot]
  | cons a rest =>
    by_cases ha : a = '.'
    · subst ha
      simp only [List.cons_append, hdigits, List.drop_append_of_le_length digits_le, hexponent]
    · have hwhole := hexponent (a :: rest)
      rw [List.cons_append] at hwhole
      simp [ha, hwhole]

theorem imaginaryLength_append_end (u : List Char) :
    imaginaryLength (u ++ c :: v) = imaginaryLength u := by
  have hline := hc.ne (d := '_') (by decide) (by decide) (by decide)
  have hplain : c ≠ 'j' ∧ c ≠ 'J' := by rcases hc with (rfl | rfl) | rfl <;> decide
  have hdigits := @digits_append_end _ _ v hc.isDigit hline u
  have hfloat := @floatLength_append_end _ v hc u
  unfold imaginaryLength
  simp only [hdigits, hfloat, List.drop_append_of_le_length digits_le,
    List.drop_append_of_le_length floatLength_le]
  refine if_congr ?_ rfl (if_congr ?_ rfl rfl)
  · cases u.drop (digits isDigit u) <;> simp [hplain]
  · cases u.drop (floatLength u) <;> simp [hplain]

theorem numberLength_append_end (u : List Char) : numberLength (u ++ c :: v) = numberLength u := by
  simp only [numberLength, imaginaryLength_append_end hc, floatLength_append_end hc,
    integerLength_append_end hc]

theorem wordLength_append_end (u : List Char) : wordLength (u ++ c :: v) = wordLength u := by
  have hword : isWordPart c = false := by rcases hc with (rfl | rfl) | rfl <;> decide
  rw [wordLength, takeWhile_append_end hword, wordLength]

theorem wordKind_append_end (u : List Char) : wordKind (u ++ c :: v) = wordKind u := by
  cases u with
  | nil =>
    have hstart : isIdentifierStart c = false := by rcases hc with (rfl | rfl) | rfl <;> decide
    simp [wordKind, hstart]
  | cons a u => rfl

theorem openingAfter_append_end (letters : Nat) (u : List Char) :
    openingAfter letters (u ++ c :: v) = openingAfter letters u := by
  have hquote : isQuote c = false := by rcases hc with (rfl | rfl) | rfl <;> rfl
  have hne {q : Char} (hq : isQuote q = true) : c ≠ q := by
    rintro rfl
    rw [hquote] at hq
    cases hq
  match u with
  | [] => cases v with
    | nil => simp [openingAfter, hquote]
    | cons d v => cases v <;> simp [openingAfter, hquote]
  | [q] =>
    by_cases hq : isQuote q = true
    · cases v <;> simp [openingAfter, hq, hne hq]
    · cases v <;> simp [openingAfter, hq]
  | [q, q'] =>
    by_cases hq : isQuote q = true
    · simp [openingAfter, hq, hne hq]
    · simp [openingAfter, hq]
  | q :: q' :: q'' :: u => rfl

theorem opening?_append_end (u : List Char) : opening? (u ++ c :: v) = opening? u := by
  have hquote : isQuote c = false := by rcases hc with (rfl | rfl) | rfl <;> rfl
  have hletter : isAsciiLetter c = false := by rcases hc with (rfl | rfl) | rfl <;> decide
  unfold opening?
  simp only
  by_cases hlong : 3 ≤ u.length
  · rw [List.take_append_of_le_length hlong]
    have hfew : ((u.take 3).takeWhile fun c => !isQuote c).length ≤ u.length :=
      (List.takeWhile_prefix _).length_le.trans (List.take_prefix 3 u).length_le
    rw [List.drop_append_of_le_length hfew, openingAfter_append_end hc]
  · have hshort : u.length ≤ 3 := by omega
    rw [List.take_append, List.take_of_length_le hshort, List.takeWhile_append]
    split
    · -- Without a quote before the end of the row the letters go on behind it.
      rename_i hall
      have hend : (c :: v).take (3 - u.length) = c :: v.take (2 - u.length) := by
        obtain ⟨n, hn⟩ : ∃ n, 3 - u.length = n + 1 := ⟨2 - u.length, by omega⟩
        rw [hn, List.take_succ_cons]
        congr 2
        omega
      have hnone : isStringPrefix
          (u ++ ((c :: v).take (3 - u.length)).takeWhile fun c => !isQuote c) = false := by
        by_contra hprefix
        have hc := isAsciiLetter_of_isStringPrefix (by simpa using hprefix) c
          (by simp [hend, hquote])
        rw [hletter] at hc
        cases hc
      rw [hnone, hall, List.drop_length]
      simp [openingAfter]
    · rw [List.drop_append_of_le_length (List.takeWhile_prefix _).length_le,
        openingAfter_append_end hc]

end

section

variable {c : Char} {v : List Char}

theorem operatorLength_append_end (hc : IsEnd c) (u : List Char) :
    operatorLength (u ++ c :: v) = operatorLength u := by
  have hnone : ∀ operator ∈ operators, '\r' ∉ operator ∧ '\n' ∉ operator := by decide
  have hfind : operators.find? (List.isPrefixOf · (u ++ c :: v)) =
      operators.find? (List.isPrefixOf · u) := by
    refine List.find?_congr fun operator hmem => isPrefixOf_append_of_not_mem ?_ u v
    rcases hc with rfl | rfl
    · exact (hnone operator hmem).1
    · exact (hnone operator hmem).2
  rw [operatorLength, hfind, operatorLength]

theorem commentLength_append_end (hc : IsEnd c) (u : List Char) :
    commentLength (u ++ c :: v) = commentLength u := by
  have hend : (c ≠ '\r' && c ≠ '\n') = false := by rcases hc with rfl | rfl <;> decide
  rw [commentLength, takeWhile_append_end (p := fun c => c ≠ '\r' && c ≠ '\n') hend, commentLength]

end

-- Nothing of the text ends a row.
def Endless (t : Text) : Prop := ∀ c ∈ t, ¬ IsEnd c

-- The first line of a string where a carriage return stands before the end of the row.
def FirstLine.returned : FirstLine → FirstLine
  | .closed n => .closed n
  | .continued n => .continued (n + 1)

-- What a row begins with where a carriage return stands before its end.
def Piece.returned : Piece → Piece
  | .lexeme blanks length .newline => .lexeme blanks (length + 1) .newline
  | p => p

section

variable {quote : Char} {t u : Text} {blanks : Nat} {o : Opening}

theorem endless_cons {c : Char} : Endless (c :: u) ↔ ¬ IsEnd c ∧ Endless u := List.forall_mem_cons

theorem Endless.drop (h : Endless u) (n : Nat) : Endless (u.drop n) :=
  fun c hc => h c (List.mem_of_mem_drop hc)

theorem breakLength_append_end {c : Char} {v : List Char} (hu : Endless u) (hne : u ≠ []) :
    breakLength (u ++ c :: v) = 0 := by
  cases u with
  | nil => exact absurd rfl hne
  | cons a u =>
    have ha := (endless_cons.mp hu).1
    rw [IsEnd, not_or] at ha
    simp [breakLength, ha]

theorem isQuote_ne_end (h : isQuote quote = true) : '\r' ≠ quote ∧ '\n' ≠ quote := by
  refine ⟨?_, (isQuote_ne_break h).symm⟩
  rintro rfl
  cases h

theorem closeLength?_returned (hquote : isQuote quote = true) (hu : Endless u) :
    closeLength? quote (u ++ ['\r', '\n']) = closeLength? quote (u ++ ['\n']) := by
  have hne := isQuote_ne_end hquote
  fun_induction closeLength? quote u with
  | case1 => simp [closeLength?, hne]
  | case2 => simp [closeLength?, hne]
  | case3 c hc => by_cases hslash : c = '\\' <;> simp [closeLength?, hne, hslash, hc]
  | case4 rest => exact absurd (.inr rfl) (endless_cons.mp (endless_cons.mp hu).2).1
  | case5 d rest hd ih =>
    have hrest := ih (endless_cons.mp (endless_cons.mp hu).2).2
    simp [closeLength?, hd, hrest]
  | case6 => simp [closeLength?, *]
  | case7 c d rest hslash hc ih =>
    have hrest := ih (endless_cons.mp hu).2
    rw [List.cons_append, List.cons_append] at hrest
    simp [closeLength?, hslash, hc, hrest]

theorem closeTripleLength?_cons {c : Char} (hc : c ≠ '\\') (t : Text) :
    closeTripleLength? quote (c :: t) =
      if c = quote && t.take 2 == [quote, quote] then some 3
      else (closeTripleLength? quote t).map (· + 1) := by
  cases t <;> simp [closeTripleLength?, hc]

theorem closeTripleLength?_returned (hquote : isQuote quote = true) (hu : Endless u) :
    closeTripleLength? quote (u ++ ['\r', '\n']) = closeTripleLength? quote (u ++ ['\n']) := by
  have hne := isQuote_ne_end hquote
  have hslash : quote ≠ '\\' := by
    rintro rfl
    cases hquote
  have hends : ∀ v : Text, (v ++ ['\r', '\n']).take 2 = [quote, quote] ↔
      (v ++ ['\n']).take 2 = [quote, quote]
    | [] => by simp [hne]
    | [a] => by simp [hne]
    | a :: b :: v => by simp
  fun_induction closeTripleLength? quote u with
  | case1 => simp [closeTripleLength?, hne]
  | case2 => simp [closeTripleLength?, hne]
  | case3 rest => exact absurd (.inr rfl) (endless_cons.mp (endless_cons.mp hu).2).1
  | case4 d rest hd ih =>
    have hrest := ih (endless_cons.mp (endless_cons.mp hu).2).2
    simp [closeTripleLength?, hd, hrest]
  | case5 c rest hc hclose =>
    simp only [Bool.and_eq_true, decide_eq_true_eq, beq_iff_eq] at hclose
    have htwo (v : Text) : (rest ++ v).take 2 = [quote, quote] := by
      have hlength := congrArg List.length hclose.2
      simp only [List.length_take, List.length_cons, List.length_nil] at hlength
      rw [List.take_append_of_le_length (by omega), hclose.2]
    simp [closeTripleLength?_cons, hclose.1, hslash, htwo]
  | case6 c rest hc hclose ih =>
    have hrest := ih (endless_cons.mp hu).2
    simp [closeTripleLength?_cons, hc, hrest, hends]

theorem firstLine?_returned (hquote : isQuote quote = true) (hu : Endless u) :
    firstLine? quote (u ++ ['\r', '\n']) =
      (firstLine? quote (u ++ ['\n'])).map FirstLine.returned := by
  have hne := isQuote_ne_end hquote
  have hshift (n : Nat) (line : Option FirstLine) :
      (line.map FirstLine.returned).map (FirstLine.shift n) =
        (line.map (FirstLine.shift n)).map FirstLine.returned := by
    rcases line with _ | k | k
    · rfl
    · rfl
    · simp [FirstLine.returned, FirstLine.shift, Nat.add_right_comm]
  fun_induction firstLine? quote u with
  | case1 => simp [firstLine?, hne]
  | case2 =>
    have hslash : quote ≠ '\\' := by
      rintro rfl
      cases hquote
    simp [firstLine?, hslash, FirstLine.returned]
  | case3 c hc =>
    by_cases hslash : c = '\\'
    · simp [firstLine?, hslash, FirstLine.returned]
    · have hc' := (endless_cons.mp hu).1
      rw [IsEnd, not_or] at hc'
      simp [firstLine?, hne, hslash, hc, hc']
  | case4 rest => exact absurd (.inr rfl) (endless_cons.mp (endless_cons.mp hu).2).1
  | case5 d rest _ hreturn =>
    have hd := (endless_cons.mp (endless_cons.mp hu).2).1
    simp only [Bool.and_eq_true, decide_eq_true_eq] at hreturn
    exact absurd (.inl hreturn.1) hd
  | case6 d rest hd hreturn ih =>
    have hd' := (endless_cons.mp (endless_cons.mp hu).2).1
    rw [IsEnd, not_or] at hd'
    have hrest := ih (endless_cons.mp (endless_cons.mp hu).2).2
    simp [firstLine?, hd', hrest, hshift]
  | case7 => simp [firstLine?, FirstLine.returned, *]
  | case8 => exact absurd (.inr rfl) (endless_cons.mp hu).1
  | case9 c d rest hslash hc hfeed ih =>
    have hrest := ih (endless_cons.mp hu).2
    rw [List.cons_append, List.cons_append] at hrest
    simp [firstLine?, hslash, hc, hfeed, hrest, hshift]

end

section

variable {u : Text} {blanks : Nat} {o : Opening}

theorem plainString_returned (hu : Endless u) (hopening : opening? u = some o)
    (hplain : o.tripled = false) :
    plainString blanks o (u ++ ['\r', '\n']) = plainString blanks o (u ++ ['\n']) := by
  have hlength : o.letters + 1 ≤ u.length := by
    simpa [Opening.length, hplain] using opening?_length_le hopening
  have hquote := (opening?_within hopening).1
  rw [plainString, plainString, List.drop_append_of_le_length hlength,
    List.drop_append_of_le_length hlength, firstLine?_returned hquote (hu.drop _)]
  rcases firstLine? o.quote _ with _ | n | n <;> rfl

theorem tripledString_returned (hu : Endless u) (hopening : opening? u = some o) :
    tripledString blanks o (u ++ ['\r', '\n']) = tripledString blanks o (u ++ ['\n']) := by
  have hlength := opening?_length_le hopening
  have hquote := (opening?_within hopening).1
  rw [tripledString, tripledString, List.drop_append_of_le_length hlength,
    List.drop_append_of_le_length hlength, closeTripleLength?_returned hquote (hu.drop _)]

theorem pieceAfter_returned (hu : Endless u) (hne : u ≠ []) :
    pieceAfter blanks (u ++ ['\r', '\n']) = pieceAfter blanks (u ++ ['\n']) := by
  obtain ⟨c, w, rfl⟩ := List.exists_cons_of_ne_nil hne
  have hbreak : breakLength (w ++ ['\r', '\n']) ≠ 0 ↔ breakLength (w ++ ['\n']) ≠ 0 := by
    by_cases hw : w = []
    · simp [hw, breakLength]
    · rw [breakLength_append_end (endless_cons.mp hu).2 hw,
        breakLength_append_end (endless_cons.mp hu).2 hw]
  have hsame {α : Type} {f : Text → α}
      (hf : ∀ {d : Char} {v : Text}, IsEnd d → ∀ t, f (t ++ d :: v) = f t) :
      f (c :: (w ++ ['\r', '\n'])) = f (c :: (w ++ ['\n'])) :=
    (hf (.inl rfl) (c :: w)).trans (hf (.inr rfl) (c :: w)).symm
  have hstop {α : Type} {f : Text → α}
      (hf : ∀ {d : Char} {v : Text}, IsStop d → ∀ t, f (t ++ d :: v) = f t) :
      f (c :: (w ++ ['\r', '\n'])) = f (c :: (w ++ ['\n'])) := hsame fun hd => hf (.inl hd)
  have hopening := hstop opening?_append_end
  have hnone : breakLength (c :: (w ++ ['\r', '\n'])) = breakLength (c :: (w ++ ['\n'])) :=
    (breakLength_append_end hu hne).trans (breakLength_append_end hu hne).symm
  simp only [List.cons_append, pieceAfter, hbreak, hopening, hnone, hstop wordLength_append_end,
    hsame commentLength_append_end, hstop numberLength_append_end, hsame operatorLength_append_end,
    hstop wordKind_append_end]
  cases ho : opening? (c :: (w ++ ['\n'])) with
  | none => rfl
  | some o =>
    have ho' : opening? (c :: w) = some o := 
      (opening?_append_end (.inl (.inr rfl)) (c :: w)).symm.trans ho
    cases htripled : o.tripled with
    | true =>
      have hstring := @tripledString_returned _ blanks _ hu ho'
      rw [List.cons_append, List.cons_append] at hstring
      simp [htripled, hstring]
    | false =>
      have hplain := @plainString_returned _ blanks _ hu ho' htripled
      rw [List.cons_append, List.cons_append] at hplain
      simp [htripled, hplain]

-- The blanks that a row begins with end where something else stands.
theorem piece_append {c : Char} (hc : isGap c = false) (u v : Text) : piece (u ++ c :: v) =
    pieceAfter (u.takeWhile isGap).length (u.dropWhile isGap ++ c :: v) := by
  have hlength : (u.takeWhile isGap).length ≤ u.length := (List.takeWhile_prefix _).length_le
  simp only [piece, takeWhile_append_end hc]
  rw [List.drop_append_of_le_length hlength, drop_takeWhile]

-- Only the end of a row is longer where it has a carriage return in front.
theorem piece_returned (hu : Endless u) :
    piece (u ++ ['\r', '\n']) = (piece (u ++ ['\n'])).returned := by
  rw [piece_append (by decide), piece_append (by decide)]
  have hdropped : Endless (u.dropWhile isGap) :=
    fun c hc => hu c ((List.dropWhile_sublist _).subset hc)
  generalize (u.takeWhile isGap).length = blanks, u.dropWhile isGap = body at hdropped
  cases body with
  | nil => rfl
  | cons c w =>
    rw [pieceAfter_returned hdropped (List.cons_ne_nil c w)]
    generalize hpiece : pieceAfter blanks (c :: w ++ ['\n']) = p
    -- What is not empty before the end of the row does not begin with that end.
    have hkind (n m : Nat) (hp : p = .lexeme m n .newline) : False := by
      have hrow : IsRow (c :: w ++ ['\n']) := by
        rw [IsRow, List.dropLast_concat]
        exact fun hmem => hdropped _ hmem (.inr rfl)
      obtain ⟨-, text, behind, htext, -, htaken⟩ :=
        pieceAfter_taken hrow (hpiece.trans hp) (by simp)
      cases htaken with
      | lineBreak hwhole =>
        have hc := hdropped c List.mem_cons_self
        rcases hwhole with rfl | rfl
        · exact hc (.inr (List.cons.inj htext).1)
        · exact hc (.inl (List.cons.inj htext).1)
      | content hstands => exact hstands.kind_ne.1 rfl
    cases p with
    | lexeme m n kind =>
      cases kind with
      | newline => exact (hkind n m rfl).elim
      | _ => rfl
    | _ => rfl

end

end Ghostwriter.Lexeme

import Ghostwriter.Proofs.Lexeme.Returns
import Ghostwriter.Proofs.Lexeme.Spelled

/-!
A row that is cut off behind a closing parenthesis begins with the same lexeme as the whole one, if
that lexeme ends before the parenthesis.
-/

namespace Ghostwriter.Lexeme

open Ghostwriter.Splice Ghostwriter.Text

section

variable {quote : Char} {tripled : Bool} {body t u v : Text} {n : Nat}

theorem isQuote_ne_mark (h : isQuote quote = true) : quote ≠ '\\' ∧ quote ≠ ')' := by
  constructor <;> rintro rfl <;> cases h

theorem Ends.exists_cons (h : Ends quote tripled body) : ∃ c t, body = c :: t :=
  List.exists_cons_of_ne_nil h.ne_nil

-- What ends a string does so whatever stands behind it.
theorem closeLength?_of_ends (hquote : isQuote quote = true) (h : Ends quote false body)
    (hfeed : '\n' ∉ body) (rest : Text) :
    closeLength? quote (body ++ rest) = some body.length := by
  have hslash := (isQuote_ne_mark hquote).1
  generalize htripled : false = tripled at h
  induction h with
  | plain => cases rest <;> simp [closeLength?, hslash]
  | triple => cases htripled
  | @escape tripled d t h ih =>
    simp only [List.mem_cons, not_or] at hfeed
    simp [closeLength?, Ne.symm hfeed.2.1, ih hfeed.2.2 htripled]
  | @other tripled c t hc hinside h ih =>
    subst htripled
    have hopen : c ≠ quote := fun heq => by cases (hinside heq).1
    have hrest := ih (fun hmem => hfeed (List.mem_cons_of_mem _ hmem)) rfl
    obtain ⟨d, t, rfl⟩ := h.exists_cons
    rw [List.cons_append] at hrest
    simp [closeLength?, hc, hopen, hrest]

theorem closeTripleLength?_of_ends (hquote : isQuote quote = true) (h : Ends quote true body)
    (hfeed : '\n' ∉ body) (rest : Text) :
    closeTripleLength? quote (body ++ rest) = some body.length := by
  have hslash := (isQuote_ne_mark hquote).1
  generalize htripled : true = tripled at h
  induction h with
  | plain => cases htripled
  | triple => simp [closeTripleLength?_cons hslash]
  | @escape tripled d t h ih =>
    simp only [List.mem_cons, not_or] at hfeed
    simp [closeTripleLength?, Ne.symm hfeed.2.1, ih hfeed.2.2 htripled]
  | @other tripled c t hc hinside h ih =>
    subst htripled
    have hopen : ¬ (decide (c = quote) && (t ++ rest).take 2 == [quote, quote]) = true := by
      simp only [Bool.and_eq_true, decide_eq_true_eq, beq_iff_eq, not_and]
      intro heq
      have hlength : 2 ≤ t.length := by
        cases h with
        | triple => simp
        | escape => simp
        | other _ _ h => exact Nat.succ_le_succ (List.length_pos_of_ne_nil h.ne_nil)
      rw [List.take_append_of_le_length hlength]
      exact (hinside heq).2
    rw [List.cons_append, closeTripleLength?_cons hc, if_neg hopen,
      ih (fun hmem => hfeed (List.mem_cons_of_mem _ hmem)) rfl]
    rfl

theorem firstLine?_of_ends (hquote : isQuote quote = true) (h : Ends quote false body)
    (hfeed : '\n' ∉ body) (rest : Text) :
    firstLine? quote (body ++ rest) = some (.closed body.length) := by
  have hslash := (isQuote_ne_mark hquote).1
  generalize htripled : false = tripled at h
  induction h with
  | plain => cases rest <;> simp [firstLine?, hslash]
  | triple => cases htripled
  | @escape tripled d t h ih =>
    simp only [List.mem_cons, not_or] at hfeed
    have hrest := ih hfeed.2.2 htripled
    obtain ⟨e, t, rfl⟩ := h.exists_cons
    simp only [List.mem_cons, not_or] at hfeed
    rw [List.cons_append] at hrest
    simp [firstLine?, Ne.symm hfeed.2.1, Ne.symm hfeed.2.2.1, hrest, FirstLine.shift]
  | @other tripled c t hc hinside h ih =>
    subst htripled
    have hopen : c ≠ quote := fun heq => by cases (hinside heq).1
    rw [List.mem_cons, not_or] at hfeed
    have hrest := ih hfeed.2 rfl
    obtain ⟨d, t, rfl⟩ := h.exists_cons
    rw [List.cons_append] at hrest
    simp [firstLine?, hc, hopen, Ne.symm hfeed.1, hrest, FirstLine.shift]

-- A string is continued at the end of a row only.
theorem break_mem_of_firstLine (h : firstLine? quote t = some (.continued n)) : '\n' ∈ t := by
  have hshift {k n : Nat} {line : Option FirstLine}
      (h : line.map (FirstLine.shift k) = some (.continued n)) :
      ∃ m, line = some (.continued m) := by
    obtain ⟨first, hline, hshift⟩ := Option.map_eq_some_iff.mp h
    cases first with
    | closed m => cases hshift
    | continued m => exact ⟨m, hline⟩
  fun_induction firstLine? quote t generalizing n with
  | case1 => cases h
  | case2 => cases h
  | case3 => cases h
  | case4 => simp
  | case5 d rest _ hreturn =>
    simp only [Bool.and_eq_true, decide_eq_true_eq] at hreturn
    obtain ⟨rest, rfl⟩ : ∃ t, rest = '\n' :: t := List.head?_eq_some_iff.mp hreturn.2
    simp
  | case6 d rest _ _ ih =>
    obtain ⟨m, hm⟩ := hshift h
    exact List.mem_cons_of_mem _ (List.mem_cons_of_mem _ (ih hm))
  | case7 => cases h
  | case8 => cases h
  | case9 c d rest _ _ _ ih =>
    obtain ⟨m, hm⟩ := hshift h
    exact List.mem_cons_of_mem _ (ih hm)

theorem exists_append_of_le {rest : Text} (h : body ++ rest = u ++ v)
    (hle : body.length ≤ u.length) : ∃ more, u = body ++ more := by
  rcases List.append_eq_append_iff.mp h with ⟨more, rfl, -⟩ | ⟨more, rfl, -⟩
  · exact ⟨more, rfl⟩
  · rw [List.length_append] at hle
    obtain rfl : more = [] := List.length_eq_zero_iff.mp (by omega)
    exact ⟨[], by simp⟩

-- A string that ends on the row still does so where the row is cut off behind it.
theorem closed_cropped (hquote : isQuote quote = true) (hrow : IsRow (u ++ v))
    (h : (if tripled then closeTripleLength? quote (u ++ v) else closeLength? quote (u ++ v)) =
      some n) (hle : n ≤ u.length) (w : Text) :
    (if tripled then closeTripleLength? quote (u ++ w) else closeLength? quote (u ++ w)) =
      some n := by
  obtain ⟨body, rest, heq, rfl, hends, hfeed⟩ :=
    ends_of_closed (isQuote_ne_break hquote) hrow h
  obtain ⟨more, rfl⟩ := exists_append_of_le heq.symm hle
  rw [List.append_assoc]
  cases tripled with
  | true => simpa using closeTripleLength?_of_ends hquote hends hfeed (more ++ w)
  | false => simpa using closeLength?_of_ends hquote hends hfeed (more ++ w)

theorem firstLine?_cropped (hquote : isQuote quote = true)
    (h : firstLine? quote (u ++ v) = some (.closed n)) (hle : n ≤ u.length) (w : Text) :
    firstLine? quote (u ++ w) = some (.closed n) := by
  have hwithin := firstLine?_within (isQuote_ne_break hquote) h
  obtain ⟨body, rest, heq, rfl, hends⟩ := ends_of_firstLine h
  rw [heq, Within, List.take_left] at hwithin
  obtain ⟨more, rfl⟩ := exists_append_of_le heq.symm hle
  rw [List.append_assoc]
  exact firstLine?_of_ends hquote hends hwithin _

-- A quote that has no partner on the row has none on a part of it.
theorem firstLine?_unclosed (hquote : isQuote quote = true) (hfeed : '\n' ∉ u)
    (h : firstLine? quote (u ++ ')' :: v) = none) : firstLine? quote (u ++ [')']) = none := by
  cases hline : firstLine? quote (u ++ [')']) with
  | none => rfl
  | some line =>
    cases line with
    | continued n => exact absurd (break_mem_of_firstLine hline) (by simpa using hfeed)
    | closed n =>
      by_cases hle : n ≤ u.length
      · rw [firstLine?_cropped hquote hline hle (')' :: v)] at h
        cases h
      · obtain ⟨body, rest, heq, rfl, hends⟩ := ends_of_firstLine hline
        have hlength := congrArg List.length heq
        simp only [List.length_append, List.length_singleton] at hlength
        obtain rfl : rest = [] := List.length_eq_zero_iff.mp (by omega)
        rw [List.append_nil] at heq
        have hlast := hends.getLast
        rw [← heq, List.getLast?_concat] at hlast
        exact absurd (Option.some.inj hlast).symm (isQuote_ne_mark hquote).2

end

section

variable {u v : Text} {o : Opening} {blanks m n : Nat} {kind : LexemeKind}

theorem breakLength_append_paren (u v : Text) : breakLength (u ++ ')' :: v) = breakLength u := by
  match u with
  | [] => simp [breakLength]
  | [c] => by_cases hc : c = '\n' <;> simp [breakLength, hc]
  | c :: d :: u =>
    by_cases hc : c = '\n'
    · subst hc
      rfl
    by_cases hd : d = '\n'
    · by_cases hreturn : c = '\r'
      · subst hreturn hd
        rfl
      · simp [breakLength, hc, hreturn]
    · simp [breakLength, hc, hd]

theorem operatorLength_append_paren (hne : u ≠ []) (v : Text) :
    operatorLength (u ++ ')' :: v) = operatorLength u := by
  have hnone : ∀ operator ∈ operators, operator = [')'] ∨ ')' ∉ operator := by decide
  have hfind : operators.find? (List.isPrefixOf · (u ++ ')' :: v)) =
      operators.find? (List.isPrefixOf · u) := by
    refine List.find?_congr fun operator hmem => ?_
    rcases hnone operator hmem with rfl | hparen
    · obtain ⟨c, u, rfl⟩ := List.exists_cons_of_ne_nil hne
      simp [List.isPrefixOf]
    · exact isPrefixOf_append_of_not_mem hparen u v
  rw [operatorLength, hfind, operatorLength]

theorem operatorLength_paren {c : Char} (hc : c = '(' ∨ c = ')') (v : Text) :
    operatorLength (c :: v) = 1 := by
  have hmem : [c] ∈ operators := by rcases hc with rfl | rfl <;> decide
  have halone : ∀ operator ∈ operators, operator.head? = some c → operator = [c] := by
    rcases hc with rfl | rfl <;> decide
  have hsome : ∀ operator ∈ operators, operator.head? ≠ none := by decide
  rcases operatorLength_cases (c :: v) with ⟨-, hnone⟩ | ⟨operator, rest, hoperator, heq, hlength⟩
  · exact absurd ⟨v, rfl⟩ (hnone [c] hmem)
  · cases operator with
    | nil => exact absurd rfl (hsome _ hoperator)
    | cons d operator =>
      rw [hlength, halone _ hoperator (by rw [List.head?_cons, (List.cons.inj heq).1])]
      rfl

-- A comment that ends before the parenthesis.
theorem commentLength_cropped (hle : commentLength (u ++ ')' :: v) ≤ u.length) (w : Text) :
    commentLength (u ++ ')' :: w) = commentLength (u ++ ')' :: v) := by
  unfold commentLength at hle ⊢
  rw [List.takeWhile_append] at hle ⊢
  rw [List.takeWhile_append]
  split
  · rename_i hall
    rw [if_pos hall, List.takeWhile_cons_of_pos (by decide), List.length_append,
      List.length_cons] at hle
    omega
  · rfl

theorem plainString_cropped (hopening : opening? u = some o) (hplain : o.tripled = false)
    (h : plainString blanks o (u ++ v) = some (.lexeme m n kind)) (hle : n ≤ u.length)
    (w : Text) : plainString blanks o (u ++ w) = some (.lexeme m n kind) := by
  have hlength : o.letters + 1 ≤ u.length := by
    simpa [Opening.length, hplain] using opening?_length_le hopening
  have hquote := (opening?_within hopening).1
  obtain ⟨line, hline, hpiece⟩ := Option.map_eq_some_iff.mp h
  rw [List.drop_append_of_le_length hlength] at hline
  cases line with
  | continued => cases hpiece
  | closed k =>
    cases hpiece
    rw [plainString, List.drop_append_of_le_length hlength,
      firstLine?_cropped hquote hline (by rw [List.length_drop]; omega)]
    rfl

theorem plainString_unclosed (hopening : opening? u = some o) (hplain : o.tripled = false)
    (hfeed : '\n' ∉ u) (h : plainString blanks o (u ++ ')' :: v) = none) :
    plainString blanks o (u ++ [')']) = none := by
  have hlength : o.letters + 1 ≤ u.length := by
    simpa [Opening.length, hplain] using opening?_length_le hopening
  have hquote := (opening?_within hopening).1
  rw [plainString, List.drop_append_of_le_length hlength, Option.map_eq_none_iff] at h ⊢
  exact firstLine?_unclosed hquote (fun hmem => hfeed (List.mem_of_mem_drop hmem)) h

theorem tripledString_cropped (hrow : IsRow (u ++ v)) (hopening : opening? u = some o)
    (h : tripledString blanks o (u ++ v) = .lexeme m n kind) (hle : n ≤ u.length) (w : Text) :
    tripledString blanks o (u ++ w) = .lexeme m n kind := by
  have hlength := opening?_length_le hopening
  have hquote := (opening?_within hopening).1
  have hrow' : IsRow (u.drop o.length ++ v) := by
    rw [← List.drop_append_of_le_length hlength]
    exact hrow.drop _
  unfold tripledString at h
  rw [List.drop_append_of_le_length hlength] at h
  split at h
  · rename_i k hclose
    cases h
    have hcropped := @closed_cropped o.quote true _ _ _ hquote hrow' hclose
      (by rw [List.length_drop]; omega) w
    rw [if_pos rfl] at hcropped
    rw [tripledString, List.drop_append_of_le_length hlength, hcropped]
  · cases h

theorem pieceAfter_cropped (hrow : IsRow (u ++ ')' :: v)) (hne : u ≠ [])
    (h : pieceAfter blanks (u ++ ')' :: v) = .lexeme m n kind) (hle : m + n ≤ blanks + u.length) :
    pieceAfter blanks (u ++ [')']) = .lexeme m n kind := by
  have hfeed : '\n' ∉ u := by
    rw [IsRow, List.dropLast_append_of_ne_nil (List.cons_ne_nil _ _)] at hrow
    exact fun hmem => hrow (List.mem_append_left _ hmem)
  obtain ⟨c, w, rfl⟩ := List.exists_cons_of_ne_nil hne
  have hsame {α : Type} {f : Text → α} (hf : ∀ v, f (c :: w ++ ')' :: v) = f (c :: w)) :
      f (c :: (w ++ [')'])) = f (c :: (w ++ ')' :: v)) := (hf []).trans (hf v).symm
  have hbreak : breakLength (w ++ [')']) = breakLength (w ++ ')' :: v) :=
    (breakLength_append_paren w []).trans (breakLength_append_paren w v).symm
  have hopening := hsame fun v => @opening?_append_end ')' v (.inr rfl) (c :: w)
  have hnumber := hsame fun v => @numberLength_append_end ')' v (.inr rfl) (c :: w)
  have hends := hsame (breakLength_append_paren (c :: w))
  have hoperator := hsame (operatorLength_append_paren hne)
  have hword := hsame fun v => @wordLength_append_end ')' v (.inr rfl) (c :: w)
  have hkind := hsame fun v => @wordKind_append_end ')' v (.inr rfl) (c :: w)
  simp only [List.cons_append, pieceAfter] at h ⊢
  rw [hbreak, hopening, hnumber, hends, hoperator, hword, hkind]
  split at h
  · cases h
  rename_i hslash
  rw [if_neg hslash]
  split at h
  · rename_i hcomment
    rw [if_pos hcomment]
    cases h
    rw [Nat.add_le_add_iff_left] at hle
    have hcropped := @commentLength_cropped (c :: w) v hle []
    rw [List.cons_append, List.cons_append] at hcropped
    rw [hcropped]
  rename_i hcomment
  rw [if_neg hcomment]
  cases ho : opening? (c :: (w ++ ')' :: v)) with
  | none => simpa only [ho] using h
  | some o =>
    have ho' : opening? (c :: w) = some o :=
      (@opening?_append_end ')' v (.inr rfl) (c :: w)).symm.trans ho
    simp only [ho] at h ⊢
    split at h
    · rename_i htripled
      obtain ⟨-, -, rfl, -⟩ := tripledString_within hrow ho h
      rw [if_pos htripled]
      exact tripledString_cropped hrow ho' h (Nat.le_of_add_le_add_left hle) [')']
    · rename_i htripled
      rw [Bool.not_eq_true] at htripled
      rw [if_neg (by simp [htripled])]
      cases hplain : plainString blanks o (c :: (w ++ ')' :: v)) with
      | some p =>
        simp only [hplain] at h
        subst h
        obtain ⟨-, -, rfl, -⟩ := plainString_within ho htripled hplain
        have hcropped := @plainString_cropped _ _ _ _ _ _ _ ho' htripled hplain
          (Nat.le_of_add_le_add_left hle) [')']
        rw [List.cons_append] at hcropped
        simp only [hcropped]
      | none =>
        have hcropped := @plainString_unclosed _ _ _ blanks ho' htripled hfeed hplain
        rw [List.cons_append] at hcropped
        simpa only [hcropped, hplain] using h

theorem piece_paren {c : Char} (hc : c = '(' ∨ c = ')') {gaps : Text}
    (hgaps : ∀ c ∈ gaps, isGap c = true) (v : Text) :
    piece (gaps ++ c :: v) = .lexeme gaps.length 1 .operator := by
  have hgap : isGap c = false := by rcases hc with rfl | rfl <;> decide
  have hnumber : numberLength (c :: v) = 0 :=
    numberLength_eq_zero (by rcases hc with rfl | rfl <;> decide)
      (by rcases hc with rfl | rfl <;> decide) v
  have hopening : opening? (c :: v) = none :=
    opening?_eq_none (by rcases hc with rfl | rfl <;> decide)
      (by rcases hc with rfl | rfl <;> decide) v
  have hoperator := operatorLength_paren hc v
  rw [piece_append hgap, List.takeWhile_eq_self_iff.mpr hgaps, List.dropWhile_eq_nil_iff.mpr hgaps]
  rcases hc with rfl | rfl <;> simp [pieceAfter, hopening, hnumber, breakLength, hoperator]

-- A lexeme that ends before the parenthesis is told by what stands up to that parenthesis.
theorem piece_cropped (hrow : IsRow (u ++ ')' :: v)) (h : piece (u ++ ')' :: v) = .lexeme m n kind)
    (hle : m + n ≤ u.length) : piece (u ++ [')']) = .lexeme m n kind := by
  have hsplit : (u.takeWhile isGap).length + (u.dropWhile isGap).length = u.length := by
    rw [← List.length_append, List.takeWhile_append_dropWhile]
  rw [piece_append (by decide)] at h ⊢
  refine pieceAfter_cropped (v := v) ?_ ?_ h (by omega)
  · rw [← drop_takeWhile, ← List.drop_append_of_le_length (by omega)]
    exact hrow.drop _
  · intro hnil
    have hgaps := List.dropWhile_eq_nil_iff.mp hnil
    rw [← piece_append (by decide), piece_paren (.inr rfl) hgaps] at h
    cases h
    omega

example : piece " ab) + 1".toList = piece " ab)".toList := by decide +kernel

end

end Ghostwriter.Lexeme

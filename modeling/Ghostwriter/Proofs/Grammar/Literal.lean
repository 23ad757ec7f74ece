import Ghostwriter.Literal.Evaluate
import Ghostwriter.Proofs.Grammar.Scannable
import Ghostwriter.Proofs.Text.Written

/-!
Literals that stand alone. A text in quotes is one string and comes back as that text, and digits
without a zero before them are one number.
-/

namespace Ghostwriter.Grammar

open Ghostwriter.Lexeme Ghostwriter.Splice Ghostwriter.Text

-- The body of the string that goes on with this text takes so many characters.
inductive Closes (quote : Char) : Bool → Text → Nat → Prop
  | plain {rest : Text} : Closes quote false (quote :: rest) 0
  | triple {rest : Text} : Closes quote true (quote :: quote :: quote :: rest) 0
  | escape {tripled : Bool} {d : Char} {rest : Text} {n : Nat}
      (behind : Closes quote tripled rest n) : Closes quote tripled ('\\' :: d :: rest) (n + 2)
  | other {tripled : Bool} {c : Char} {rest : Text} {n : Nat} (slash : c ≠ '\\')
      (open_plain : tripled = false → c ≠ quote ∧ c ≠ '\n')
      (open_triple : tripled = true → ¬ (c = quote ∧ rest.take 2 = [quote, quote]))
      (behind : Closes quote tripled rest n) : Closes quote tripled (c :: rest) (n + 1)

-- The number of quotes that close a string.
def closingLength (tripled : Bool) : Nat := if tripled then 3 else 1

section

variable {quote : Char} {tripled : Bool} {t rest : Text} {n : Nat}

theorem stringBody?_cons {c : Char} (hc : c ≠ '\\') :
    stringBody? quote tripled (c :: rest) =
      if c = '\n' && !tripled then none
      else if c = quote && (!tripled || rest.take 2 = [quote, quote]) then
        some ([], if tripled then rest.drop 2 else rest)
      else (stringBody? quote tripled rest).map fun (body, rest) => (c :: body, rest) := by
  rw [stringBody?]
  exact fun _ _ heq => absurd heq hc

theorem stringBody?_of_closes (hquote : isQuote quote = true) (h : Closes quote tripled t n) :
    stringBody? quote tripled t = some (t.take n, t.drop (n + closingLength tripled)) := by
  have hslash := isQuote_ne_slash hquote
  have hbreak := isQuote_ne_break hquote
  induction h with
  | plain => simp [stringBody?_cons hslash, hbreak, closingLength]
  | triple => simp [stringBody?_cons hslash, closingLength]
  | @escape tripled d rest n _ ih =>
    rw [stringBody?, ih, Nat.add_right_comm]
    rfl
  | @other tripled c rest n hc hplain htriple _ ih =>
    have hopen : (decide (c = quote) && (!tripled || decide (rest.take 2 = [quote, quote]))) =
        false := by
      cases tripled with
      | false => simp [(hplain rfl).1]
      | true => simpa using htriple rfl
    have hsame : (decide (c = '\n') && !tripled) = false := by
      cases tripled with
      | false => simp [(hplain rfl).2]
      | true => simp
    rw [stringBody?_cons hc, hsame, hopen, ih, Nat.add_right_comm]
    rfl

theorem Closes.exists_head (hquote : isQuote quote = true) (h : Closes quote tripled t n) :
    ∃ c rest, t = c :: rest ∧ (tripled = false → c ≠ '\n') := by
  cases h with
  | plain => exact ⟨_, _, rfl, fun _ => isQuote_ne_break hquote⟩
  | triple => exact ⟨_, _, rfl, fun htripled => by cases htripled⟩
  | escape => exact ⟨_, _, rfl, fun _ => by decide⟩
  | other _ hplain => exact ⟨_, _, rfl, fun htripled => (hplain htripled).2⟩

theorem firstLine?_of_closes (hquote : isQuote quote = true) (h : Closes quote false t n)
    (hrow : Within n t) : firstLine? quote t = some (.closed (n + 1)) := by
  have hslash := isQuote_ne_slash hquote
  generalize htripled : false = tripled at h
  induction h with
  | @plain rest => cases rest <;> simp [firstLine?, hslash]
  | triple => cases htripled
  | @escape tripled d rest n hbehind ih =>
    subst htripled
    obtain ⟨c, rest, rfl, hc⟩ := hbehind.exists_head hquote
    have hd : d ≠ '\n' := by
      rintro rfl
      exact hrow (by simp)
    have hrest : Within n (c :: rest) := fun hmem => hrow (by simp [hmem])
    simp [firstLine?, hd, hc, ih hrest rfl, FirstLine.shift]
  | @other tripled c rest n hc hplain _ hbehind ih =>
    subst htripled
    obtain ⟨d, rest, rfl, -⟩ := hbehind.exists_head hquote
    have hrest : Within n (d :: rest) := fun hmem => hrow (by simp [hmem])
    simp [firstLine?, hc, hplain, ih hrest rfl, FirstLine.shift]

-- The reader behind a string in plain quotes.
theorem run?_of_closes (hquote : isQuote quote = true) (h : Closes quote false t n)
    (depth quotes : Nat) :
    RowState.run? ⟨.string quote false quotes, depth⟩ (t.take (n + 1)) =
      some ((t.take (n + 1)).map .keep, ⟨.code, depth⟩) := by
  have hslash := isQuote_ne_slash hquote
  generalize htripled : false = tripled at h
  induction h generalizing quotes with
  | plain => simp [RowState.run?, RowState.step?, RowState.stringMode?, hslash]
  | triple => cases htripled
  | @escape tripled d rest n hbehind ih =>
    subst htripled
    simp [RowState.run?, RowState.step?, RowState.stringMode?, ih 0 rfl]
  | @other tripled c rest n hc hplain _ hbehind ih =>
    subst htripled
    simp [RowState.run?, RowState.step?, RowState.stringMode?, hc, hplain, ih 0 rfl]

end

section

variable {quote c : Char} {t : Text} {depth : Nat}

theorem not_hexDigit_of_isQuote (h : isQuote quote = true) {d : Char} (hd : isHexDigit d = true) :
    d ≠ quote ∧ d ≠ '\\' ∧ d ≠ '\n' := by
  have hcases : quote = '\'' ∨ quote = '"' := by simpa [isQuote] using h
  refine ⟨?_, ?_, ?_⟩
  · rintro rfl
    rcases hcases with rfl | rfl <;> exact absurd hd (by decide)
  · rintro rfl
    exact absurd hd (by decide)
  · rintro rfl
    exact absurd hd (by decide)

theorem closes_append {n : Nat} (h : Closes quote false t n) {before : Text}
    (hbefore : ∀ c ∈ before, c ≠ quote ∧ c ≠ '\\' ∧ c ≠ '\n') :
    Closes quote false (before ++ t) (before.length + n) := by
  induction before with
  | nil => simpa using h
  | cons c before ih =>
    rw [List.forall_mem_cons] at hbefore
    obtain ⟨⟨hq, hslash, hbreak⟩, hrest⟩ := hbefore
    rw [List.length_cons, Nat.add_right_comm]
    exact .other hslash (fun _ => ⟨hq, hbreak⟩) (by simp) (ih hrest)

-- What is written between the quotes closes at the quote behind it.
theorem closes_escaped (hquote : isQuote quote = true) (t rest : Text) :
    Closes quote false (t.flatMap (escapeChar quote) ++ quote :: rest)
      (t.flatMap (escapeChar quote)).length := by
  induction t with
  | nil => exact .plain
  | cons c t ih =>
    rw [List.flatMap_cons, List.append_assoc, List.length_append]
    generalize escapeChar quote c = written, writtenAs_escapeChar hquote c = hwritten
    cases hwritten with
    | itself hprintable hc hslash =>
      refine closes_append ih fun d hd => ?_
      rw [List.mem_singleton.mp hd]
      refine ⟨hc, hslash, ?_⟩
      rintro rfl
      cases hprintable
    | escape hprintable hhex =>
      rw [List.cons_append, List.cons_append, List.length_cons, List.length_cons,
        Nat.add_right_comm _ 1, Nat.add_right_comm _ 1]
      exact .escape (closes_append ih fun d hd => not_hexDigit_of_isQuote hquote (hhex d hd))

end

theorem splitWhere_of_not_mem {α : Type} {p : α → Bool} {xs : List α}
    (h : ∀ x ∈ xs, p x = false) : splitWhere p xs = [xs] := by
  induction xs with
  | nil => rfl
  | cons x xs ih =>
    rw [List.forall_mem_cons] at h
    exact splitWhere_cons_neg h.1 (ih h.2)

section

variable {c : Char} {t : Text} {marks : List Mark} {last : RowState} {tokens : List Token}

-- A text that is one logical line and begins with text, as an expression that stands alone.
theorem aloneTokens?_of_line (hnul : '\x00' ∉ c :: t) (hreturn : '\r' ∉ c :: t)
    (hgap : isGap c = false)
    (hrun : RowState.start.run? (c :: t) = some (.keep c :: marks, last))
    (hended : Mark.ended ∉ marks) (hsettled : last.isSettled = true)
    (hcode : last.mode ≠ .comment) :
    aloneTokens? (c :: t) = some tokens ↔
      ∃ read, (Mark.lineRows (.keep c :: marks)).mapM rowTokens? = some read ∧
        read.flatten = tokens ∧ tokens ≠ [] ∧ tokens.foldlM trackBrackets? [] = some [] := by
  have hblanks : (c :: t).dropWhile (fun c => c = ' ' || c = '\t') = c :: t := by
    simp only [isGap, Bool.or_eq_false_iff] at hgap
    rw [List.dropWhile_cons, hgap.1.1, hgap.1.2]
    rfl
  have hends : ∀ m ∈ Mark.keep c :: marks, decide (m = Mark.ended) = false := by
    intro m hm
    rw [decide_eq_false_iff_not]
    rintro rfl
    exact hended (by simpa using hm)
  have hrows : Mark.rows (.keep c :: marks) = [Mark.lineRows (.keep c :: marks)] := by
    rw [Mark.rows_eq, splitWhere_of_not_mem hends]
    rfl
  obtain ⟨row, rest, others, hmarks⟩ := Mark.exists_rows marks
  have hline : Mark.lineRows (.keep c :: marks) = (c :: row) :: rest := by
    rw [Mark.rows_cons hmarks] at hrows
    exact (List.cons.inj hrows).1.symm
  have hmargin : marginFrom ⟨0, 0⟩ 0 ((c :: row) :: rest) = ⟨0, 0⟩ := by
    simp [marginFrom, @leadingBlanks_of_not_gap (c :: row) ⟨0, 0⟩ (by simpa using hgap)]
  have hlines : lines? (c :: t) = (line? ((c :: row) :: rest)).map fun line => [line] := by
    simp only [lines?, rows?, RowState.marks?, hrun, hsettled, hcode, if_true, if_false,
      Option.map_some, hrows, hline, Option.bind_some]
    cases hread : line? ((c :: row) :: rest) <;> simp [hread]
  have halone : aloneTokens? (c :: t) = singleLine? (c :: t) := by
    simp [aloneTokens?, hnul, hblanks, unifyBreaks_of_not_mem hreturn]
  rw [halone, singleLine?, hlines, hline]
  cases hread : ((c :: row) :: rest).mapM rowTokens? with
  | none => simp [line?, hread]
  | some read =>
    simp only [line?, hread, hmargin, Option.bind_eq_bind, Option.bind_some, Option.some.injEq,
      exists_eq_left']
    by_cases hbalanced : read.flatten.foldlM trackBrackets? [] = some []
    · by_cases hnil : read.flatten = []
      · simp only [hnil, List.foldlM_nil, Option.pure_def, if_true, Option.map_some,
          Option.bind_some, Line.isBlank]
        constructor
        · intro h
          cases h
        · rintro ⟨rfl, hne, -⟩
          exact absurd rfl hne
      · simp only [hbalanced, if_true, Option.map_some, Option.bind_some, List.getLast?_singleton]
        simp [Line.isBlank, hnil]
        rintro rfl
        exact ⟨hnil, hbalanced⟩
    · simp [hbalanced]
      rintro rfl - h
      exact absurd h hbalanced

end

section

variable {t rest : Text} {p : Char → Bool}

theorem moreDigits_append (hall : ∀ c ∈ t, p c = true)
    (hrest : ∀ c ∈ rest.head?, p c = false ∧ c ≠ '_') : moreDigits p (t ++ rest) = t.length := by
  induction t with
  | nil =>
    match rest with
    | [] => rfl
    | [c] => simp [moreDigits, (hrest c rfl).1]
    | c :: d :: rest => simp [moreDigits, hrest c rfl]
  | cons c t ih =>
    rw [List.forall_mem_cons] at hall
    have htail := ih hall.2
    cases hbehind : t ++ rest with
    | nil =>
      obtain ⟨rfl, rfl⟩ := List.append_eq_nil_iff.mp hbehind
      simp [moreDigits, hall.1]
    | cons d more =>
      rw [hbehind] at htail
      rw [List.cons_append, hbehind, moreDigits, if_pos hall.1, htail]
      rfl

theorem digits_append (hall : ∀ c ∈ t, p c = true)
    (hrest : ∀ c ∈ rest.head?, p c = false ∧ c ≠ '_') : digits p (t ++ rest) = t.length := by
  cases t with
  | nil =>
    cases rest with
    | nil => rfl
    | cons c rest => simp [digits, hrest c rfl]
  | cons c t =>
    rw [List.forall_mem_cons] at hall
    rw [List.cons_append, digits, if_pos hall.1, moreDigits_append hall.2 hrest]
    rfl

-- What no number goes on with.
def Ended (rest : Text) : Prop := ∀ c ∈ rest.head?, continuesName c = false ∧ c ≠ '.'

theorem Ended.head_ne (h : Ended rest) {c : Char} (letter : Char) (hc : c ∈ rest.head?)
    (hletter : continuesName letter = true) : c ≠ letter := by
  rintro rfl
  rw [(h c hc).1] at hletter
  cases hletter

theorem Ended.not_digit (h : Ended rest) : ∀ c ∈ rest.head?, isDigit c = false ∧ c ≠ '_' := by
  intro c hc
  refine ⟨?_, h.head_ne '_' hc (by decide)⟩
  have hother := (h c hc).1
  simp only [continuesName, Bool.or_eq_false_iff] at hother
  exact hother.1.1.2

theorem Ended.exponentLength (h : Ended rest) : exponentLength rest = 0 := by
  cases rest with
  | nil => rfl
  | cons c rest =>
    simp [Lexeme.exponentLength, h.head_ne 'e' (Option.mem_some_self c) (by decide),
      h.head_ne 'E' (Option.mem_some_self c) (by decide)]

theorem Ended.readExponent (h : Ended rest) : readExponent rest = .absent := by
  cases rest with
  | nil => rfl
  | cons c rest =>
    simp [Grammar.readExponent, h.head_ne 'e' (Option.mem_some_self c) (by decide),
      h.head_ne 'E' (Option.mem_some_self c) (by decide)]

theorem Ended.isImaginaryMark (h : Ended rest) : isImaginaryMark rest = false := by
  cases rest with
  | nil => rfl
  | cons c rest =>
    simp [Grammar.isImaginaryMark, h.head_ne 'j' (Option.mem_some_self c) (by decide),
      h.head_ne 'J' (Option.mem_some_self c) (by decide)]

theorem Ended.endsNumber (h : Ended rest) : endsNumber rest = true := by
  cases rest with
  | nil => rfl
  | cons c rest => simp [Grammar.endsNumber, (h c (Option.mem_some_self c)).1]

theorem Ended.baseDigit? {letter : Char} (h : Ended (letter :: rest)) :
    baseDigit? letter = none := by
  have hne {other : Char} (hother : continuesName other = true) : letter ≠ other :=
    h.head_ne other (Option.mem_some_self letter) hother
  simp [Lexeme.baseDigit?, @hne 'x' (by decide), @hne 'X' (by decide), @hne 'o' (by decide),
    @hne 'O' (by decide), @hne 'b' (by decide), @hne 'B' (by decide)]

-- A decimal is one number, for the scanner and for the reader.
theorem decimalNumber?_decimal (n : Nat) (h : Ended rest)
    (hlimit : (decimal n).length ≤ maxDecimalDigits) :
    decimalNumber? (decimal n ++ rest) = some (.int n, rest) := by
  have hdigits := digits_append (isDigit_of_mem_decimal n) h.not_digit
  have hbare : (decimal n).filter (· ≠ '_') = decimal n := by
    rw [List.filter_eq_self]
    intro c hc
    rw [decide_eq_true_eq]
    rintro rfl
    exact absurd (isDigit_of_mem_decimal n '_' hc) (by decide)
  have hzeros : ((decimal n).head? = some '0' && (decimal n).any (· ≠ '0')) = false := by
    rcases Nat.eq_zero_or_pos n with rfl | hpos
    · decide
    · obtain ⟨c, digits, hn, hc⟩ := head_decimal hpos
      simp [hn, hc]
  have hinteger : decimalInteger? (decimal n) rest = some (.int n, rest) := by
    simp only [decimalInteger?, h.endsNumber, hbare, hzeros, valueOf_decimal, Nat.not_lt.mpr hlimit,
      Bool.not_true, Bool.false_eq_true, if_false, decide_false, Bool.and_false]
  have hdot : ∀ others, rest ≠ '.' :: others := by
    rintro others rfl
    exact (h '.' rfl).2 rfl
  simp only [decimalNumber?, hdigits, List.drop_left, List.take_left, finishReal?, h.readExponent,
    h.isImaginaryMark, Bool.false_eq_true, if_false, hinteger]

theorem number?_decimal (n : Nat) (h : Ended rest)
    (hlimit : (decimal n).length ≤ maxDecimalDigits) :
    number? (decimal n ++ rest) = some (.int n, rest) := by
  have hdecimal := decimalNumber?_decimal n h hlimit
  rcases Nat.eq_zero_or_pos n with rfl | hpos
  · have hzero : decimal 0 = ['0'] := rfl
    rw [hzero] at hdecimal ⊢
    cases rest with
    | nil => exact hdecimal
    | cons letter rest =>
      simp only [List.singleton_append] at hdecimal ⊢
      simp only [number?, h.baseDigit?, hdecimal]
  · obtain ⟨c, digits, hn, hc⟩ := head_decimal hpos
    rw [hn, List.cons_append] at hdecimal ⊢
    rw [number?, hdecimal]
    rintro letter others heq
    exact absurd (List.cons.inj heq).1 hc

theorem numberLength_decimal (n : Nat) (h : Ended rest) :
    numberLength (decimal n ++ rest) = (decimal n).length := by
  have hdigits := digits_append (isDigit_of_mem_decimal n) h.not_digit
  have hdot : ∀ others, rest ≠ '.' :: others := by
    rintro others rfl
    exact (h '.' rfl).2 rfl
  have hfloat : floatLength (decimal n ++ rest) = 0 := by
    simp only [floatLength, hdigits, List.drop_left, h.exponentLength]
  have himaginary : imaginaryLength (decimal n ++ rest) = 0 := by
    simp only [imaginaryLength, hdigits, hfloat, List.drop_left, List.drop_zero]
    cases rest with
    | nil => cases decimal n <;> simp
    | cons c rest =>
      have hj : c ≠ 'j' ∧ c ≠ 'J' := ⟨h.head_ne 'j' (Option.mem_some_self c) (by decide),
        h.head_ne 'J' (Option.mem_some_self c) (by decide)⟩
      cases decimal n <;> simp [hj]
  have hinteger : integerLength (decimal n ++ rest) = (decimal n).length := by
    rcases Nat.eq_zero_or_pos n with rfl | hpos
    · have hzero : decimal 0 = ['0'] := rfl
      have hzeros : moreDigits (· = '0') rest = 0 :=
        @moreDigits_append [] rest (· = '0') (by simp) fun c hc =>
          ⟨by simpa using h.head_ne '0' hc (by decide), (h.not_digit c hc).2⟩
      rw [hzero]
      cases rest with
      | nil => rfl
      | cons letter rest =>
        simp only [List.singleton_append, integerLength, h.baseDigit?, decimalLength, hzeros]
        rfl
    · obtain ⟨c, others, hn, hc⟩ := head_decimal hpos
      have hdecimal : decimalLength (decimal n ++ rest) = (decimal n).length := by
        rw [← hdigits, hn, List.cons_append, decimalLength]
        · exact List.cons_ne_nil _ _
        · rintro _ heq
          exact absurd (List.cons.inj heq).1 hc
      rw [← hdecimal, hn, List.cons_append, integerLength]
      rintro _ _ heq
      exact absurd (List.cons.inj heq).1 hc
  simp only [numberLength, himaginary, hfloat, hinteger]

end

section

variable {quote c d : Char} {t w rest : Text} {token : Token} {o : Opening} {n : Nat}

theorem token?_of_closes (hopening : opening? t = some o)
    (h : Closes o.quote o.tripled (t.drop o.length) n) :
    token? t = (content? (t.take o.letters) ((t.drop o.length).take n)).map fun content =>
      (.string content, t.drop (o.length + (n + closingLength o.tripled))) := by
  have hquote := (opening?_within hopening).1
  simp only [token?, hopening, string?, stringBody?_of_closes hquote h, Option.bind_eq_bind,
    Option.bind_some, List.drop_drop]
  cases content? (t.take o.letters) ((t.drop o.length).take n) <;> rfl

theorem opening?_plain (hquote : isQuote quote = true) (h : t.take 2 ≠ [quote, quote]) :
    opening? (quote :: t) = some ⟨0, quote, false⟩ := by
  have hletters : ((quote :: t).take 3).takeWhile (fun d => !isQuote d) = [] := by simp [hquote]
  simp only [opening?, hletters]
  match t with
  | [] => simp [isStringPrefix, openingAfter, hquote]
  | [d] => simp [isStringPrefix, openingAfter, hquote]
  | d :: e :: t =>
    have hne : (decide (d = quote) && decide (e = quote)) = false := by
      simpa using h
    simp [isStringPrefix, openingAfter, hquote, hne]

-- A text in quotes: its quote, and what is written between.
theorem exists_quoted (t : Text) : ∃ quote, isQuote quote = true ∧
    quoted t = quote :: t.flatMap (escapeChar quote) ++ [quote] := by
  refine ⟨_, ?_, rfl⟩
  unfold quoteFor
  split <;> rfl

theorem opening?_escaped (hquote : isQuote quote = true) (t : Text) (h : rest.head? ≠ some quote) :
    opening? (quote :: (t.flatMap (escapeChar quote) ++ quote :: rest)) =
      some ⟨0, quote, false⟩ := by
  refine opening?_plain hquote fun htwo => ?_
  cases t with
  | nil =>
    cases rest with
    | nil => simp at htwo
    | cons c rest => exact h (by simpa using htwo)
  | cons c t =>
    rw [List.flatMap_cons] at htwo
    generalize escapeChar quote c = written, writtenAs_escapeChar hquote c = hwritten at htwo
    cases hwritten with
    | itself _ hc => exact hc (List.cons.inj htwo).1
    | escape => exact isQuote_ne_slash hquote (List.cons.inj htwo).1.symm

theorem token?_quoted (t : Text) (h : rest.head?.all (!isQuote ·) = true) :
    token? (quoted t ++ rest) = some (.string (.text t), rest) := by
  obtain ⟨quote, hquote, hquoted⟩ := exists_quoted t
  have hhead : rest.head? ≠ some quote := by
    intro hhead
    simp [hhead, hquote] at h
  have hopening := opening?_escaped hquote t hhead
  have hcloses := closes_escaped hquote t rest
  have hunescape := unescape?_escaped hquote t
  generalize t.flatMap (escapeChar quote) = body at *
  have hsplit : quoted t ++ rest = quote :: (body ++ quote :: rest) := by simp [hquoted]
  have hcontent : content? [] body = some (.text t) := by simp [content?, hunescape]
  rw [hsplit, token?_of_closes hopening hcloses]
  simp [Opening.length, closingLength, hcontent, Nat.add_comm 1]

theorem token?_decimal (n : Nat) (h : Ended rest) (hlimit : (decimal n).length ≤ maxDecimalDigits) :
    token? (decimal n ++ rest) = some (.number (.int n), rest) := by
  have hnumber := number?_decimal n h hlimit
  obtain ⟨c, digits, hn⟩ := List.exists_cons_of_ne_nil (decimal_ne_nil n)
  obtain ⟨hdigit, hletter, hquote, hdot⟩ :=
    of_mem_decimal (p := fun c => isDigit c = true ∧ isAsciiLetter c = false ∧
      isQuote c = false ∧ c ≠ '.') (by decide) n c (by simp [hn])
  rw [hn, List.cons_append] at hnumber ⊢
  have hstarts : startsNumber (c :: (digits ++ rest)) = true := by
    rw [startsNumber, hdigit]
    exact fun _ _ heq => absurd heq hdot
  simp only [token?, opening?_eq_none hletter hquote, hstarts, if_true, hnumber]
  rfl

-- A row with one token on it.
theorem rowTokens?_of_token (hhead : w.head?.any (!isGap ·) = true)
    (hlast : w.getLast?.any (!isGap ·) = true) (h : token? w = some (token, [])) :
    rowTokens? w = some [token] := by
  have hrow : dropRightWhile isGap w = w := dropRightWhile_of_getLast? fun c hc => by
    simpa [hc] using hlast
  cases w with
  | nil => cases hhead
  | cons c w =>
    have hgap : isGap c = false := by simpa using hhead
    simp only [rowTokens?, hrow, List.length_cons, tokensUpTo, hgap, Bool.false_eq_true, if_false,
      h]
    cases w.length <;> rfl

end

section

variable {c : Char} {t u : Text} {depth : Nat} {last : RowState}

-- Characters that mean nothing to the reader of rows.
theorem run?_of_plain (h : ∀ c ∈ t, c ∉ special) :
    RowState.run? ⟨.code, depth⟩ t = some (t.map .keep, ⟨.code, depth⟩) := by
  induction t with
  | nil => rfl
  | cons c t ih =>
    rw [List.forall_mem_cons] at h
    exact RowState.run?_cons (s := ⟨.code, depth⟩) (codeStep?_of_not_mem h.1) (ih h.2)

-- A string in plain quotes, and what the reader is in behind it.
theorem run?_plain_string {quote : Char} {n : Nat} (hquote : isQuote quote = true)
    (h : Closes quote false t n) :
    ∃ mode, (mode = .code ∨ n = 0 ∧ mode = .emptied quote) ∧
      RowState.run? ⟨.code, depth⟩ (quote :: t.take (n + 1)) =
        some ((quote :: t.take (n + 1)).map .keep, ⟨mode, depth⟩) := by
  have hslash := isQuote_ne_slash hquote
  have hopen : RowState.step? ⟨.code, depth⟩ quote =
      some (some (.keep quote), ⟨.opened quote, depth⟩) := by
    have hcases : quote = '\'' ∨ quote = '"' := by simpa [isQuote] using hquote
    rcases hcases with rfl | rfl <;> rfl
  cases h with
  | plain =>
    refine ⟨.emptied quote, .inr ⟨rfl, rfl⟩, RowState.run?_cons hopen ?_⟩
    simp [RowState.run?, RowState.step?]
  | @escape _ d rest n hbehind =>
    have hrest := run?_of_closes hquote hbehind depth 0
    refine ⟨.code, .inl rfl, RowState.run?_cons hopen ?_⟩
    simp [RowState.run?, RowState.step?, RowState.stringMode?, hslash.symm, hrest]
  | @other _ c rest n hc hplain _ hbehind =>
    have hrest := run?_of_closes hquote hbehind depth 0
    refine ⟨.code, .inl rfl, RowState.run?_cons hopen ?_⟩
    simp [RowState.run?, RowState.step?, RowState.stringMode?, hc, hplain rfl, hrest]

-- A text of one token on one row.
theorem aloneTokens?_of_token {token : Token} (hnul : '\x00' ∉ c :: t) (hreturn : '\r' ∉ c :: t)
    (hgap : isGap c = false) (hlast : (c :: t).getLast?.any (!isGap ·) = true)
    (hrun : RowState.start.run? (c :: t) = some ((c :: t).map .keep, last))
    (hsettled : last.isSettled = true) (hcode : last.mode ≠ .comment)
    (htoken : token? (c :: t) = some (token, [])) (hplain : trackBrackets? [] token = some []) :
    aloneTokens? (c :: t) = some [token] := by
  have hrows : Mark.lineRows ((c :: t).map .keep) = [c :: t] := by
    have hall := Mark.rows_keep (c :: t)
    rw [Mark.rows_eq, splitWhere_of_not_mem (by simp)] at hall
    exact (List.cons.inj hall).1
  refine (aloneTokens?_of_line hnul hreturn hgap hrun (by simp) hsettled hcode).mpr
    ⟨[[token]], ?_, rfl, by simp, by simp [hplain]⟩
  rw [← List.map_cons, hrows]
  simp [rowTokens?_of_token (by simp [hgap]) hlast htoken]

end

theorem isPrintable_of_isHexDigit {c : Char} (h : isHexDigit c = true) : isPrintable c = true := by
  have hrange : 48 ≤ c.toNat ∧ c.toNat ≤ 102 := by
    simp only [isHexDigit, isDigit, Bool.or_eq_true, Bool.and_eq_true, decide_eq_true_eq,
      Char.le_def, UInt32.le_iff_toNat_le] at h
    change 48 ≤ c.val.toNat ∧ c.val.toNat ≤ 102
    rcases h with (⟨hlow, hhigh⟩ | ⟨hlow, hhigh⟩) | ⟨hlow, hhigh⟩
    · exact ⟨hlow, hhigh.trans (by decide)⟩
    · exact ⟨le_trans (by decide) hlow, hhigh⟩
    · exact ⟨le_trans (by decide) hlow, hhigh.trans (by decide)⟩
  simp only [isPrintable, Bool.or_eq_true, Bool.and_eq_true, decide_eq_true_eq]
  omega

-- What stands in quotes prints.
theorem isPrintable_of_mem_quoted (t : Text) : ∀ c ∈ quoted t, isPrintable c = true := by
  obtain ⟨quote, hquote, hquoted⟩ := exists_quoted t
  have hprints : isPrintable quote = true := by
    have hcases : quote = '\'' ∨ quote = '"' := by simpa [isQuote] using hquote
    rcases hcases with rfl | rfl <;> rfl
  have hbody : ∀ c ∈ t.flatMap (escapeChar quote), isPrintable c = true := by
    intro c hc
    obtain ⟨d, -, hc⟩ := List.mem_flatMap.mp hc
    generalize escapeChar quote d = written, writtenAs_escapeChar hquote d = hwritten at hc
    cases hwritten with
    | itself hprintable => rwa [List.mem_singleton.mp hc]
    | escape hprintable hhex =>
      rcases List.mem_cons.mp hc with rfl | hc
      · rfl
      rcases List.mem_cons.mp hc with rfl | hc
      · exact hprintable
      · exact isPrintable_of_isHexDigit (hhex c hc)
  rw [hquoted]
  simpa [hprints, or_imp, forall_and] using hbody

theorem aloneTokens?_quoted (t : Text) : aloneTokens? (quoted t) = some [.string (.text t)] := by
  obtain ⟨quote, hquote, hquoted⟩ := exists_quoted t
  have hcloses := closes_escaped hquote t []
  obtain ⟨mode, hmode, hrun⟩ := @run?_plain_string _ 0 _ _ hquote hcloses
  have htoken : token? (quoted t) = some (.string (.text t), []) := by
    simpa using @token?_quoted [] t rfl
  have hprints := isPrintable_of_mem_quoted t
  have hnot {c : Char} (hc : isPrintable c = false) : c ∉ quoted t := fun hmem => by
    rw [hprints c hmem] at hc
    cases hc
  have hnul := hnot (show isPrintable '\x00' = false by decide)
  have hreturn := hnot (show isPrintable '\r' = false by decide)
  have hgap : isGap quote = false := by
    have hcases : quote = '\'' ∨ quote = '"' := by simpa [isQuote] using hquote
    rcases hcases with rfl | rfl <;> rfl
  generalize t.flatMap (escapeChar quote) = body at *
  have hlast : (quoted t).getLast?.any (!isGap ·) = true := by
    rw [hquoted, List.getLast?_concat]
    simp [hgap]
  rw [List.take_of_length_le (by simp)] at hrun
  rw [hquoted, List.cons_append] at htoken hnul hreturn hlast ⊢
  refine aloneTokens?_of_token hnul hreturn hgap hlast hrun ?_ ?_ htoken rfl
  · rcases hmode with rfl | ⟨-, rfl⟩ <;> rfl
  · rcases hmode with rfl | ⟨-, rfl⟩ <;> simp

theorem aloneTokens?_decimal {n : Nat} (h : (decimal n).length ≤ maxDecimalDigits) :
    aloneTokens? (decimal n) = some [.number (.int n)] := by
  have htoken : token? (decimal n) = some (.number (.int n), []) := by
    simpa using @token?_decimal [] n (by simp [Ended]) h
  have hplain := of_mem_decimal
    (p := fun c => c ∉ special ∧ isGap c = false ∧ c ≠ '\x00' ∧ c ≠ '\r') (by decide) n
  have hrun := @run?_of_plain _ 0 fun c hc => (hplain c hc).1
  have hlast : (decimal n).getLast?.any (!isGap ·) = true := by
    rw [List.getLast?_eq_some_getLast (decimal_ne_nil n)]
    simpa using (hplain _ (List.getLast_mem (decimal_ne_nil n))).2.1
  obtain ⟨c, digits, hn⟩ := List.exists_cons_of_ne_nil (decimal_ne_nil n)
  rw [hn] at htoken hrun hlast hplain ⊢
  refine aloneTokens?_of_token (fun hmem => (hplain _ hmem).2.2.1 rfl)
    (fun hmem => (hplain _ hmem).2.2.2 rfl) (hplain c (by simp)).2.1 hlast hrun rfl (by simp)
    htoken rfl

end Ghostwriter.Grammar

namespace Ghostwriter.Value

open Ghostwriter.Grammar Ghostwriter.Lexeme Ghostwriter.Text

theorem ofText_quoted (t : Text) : ofText (quoted t) = .ok (.text t) := by
  have hexpression : commaList (expression (depthBound [.string (.text t)]))
      [.string (.text t)] = some ([.text (t ++ [])], false, []) := rfl
  simp only [ofText, expressionAlone?, aloneTokens?_quoted, Option.bind_eq_bind, Option.bind_some,
    hexpression, List.append_nil]
  rfl

theorem ofText_decimal {n : Nat} (h : (decimal n).length ≤ maxDecimalDigits) :
    ofText (decimal n) = .ok (.int n) := by
  have hexpression : commaList (expression (depthBound [.number (.int n)]))
      [.number (.int n)] = some ([.number (.int n)], false, []) := rfl
  simp only [ofText, expressionAlone?, aloneTokens?_decimal h, Option.bind_eq_bind,
    Option.bind_some, hexpression]
  rfl

end Ghostwriter.Value

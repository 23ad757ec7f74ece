import Ghostwriter.Directive.Options
import Ghostwriter.Proofs.Grammar.Context
import Ghostwriter.Proofs.Grammar.Numeral
import Ghostwriter.Proofs.Lexeme.Spelled

/-!
The reader and the scanner on one lexeme. What is a lexeme for the scanner is kept as it is by the
reader of rows, and where the tokens are those of a text or of an integer each of them is one lexeme.
-/

namespace Ghostwriter.Grammar

open Ghostwriter.Lexeme Ghostwriter.Text

-- No line end stands bare in a string with plain quotes.
def Firm (text : Text) : Prop :=
  ∀ letters quote body, text = openingText letters quote false ++ body →
    isStringPrefix letters = true → isQuote quote = true → Ends quote false body →
      Closes quote false body (body.length - 1)

section

variable {quote : Char} {tripled : Bool} {body text rest : Text} {kind : LexemeKind}
  {s last : RowState} {depth quotes : Nat}

theorem closingLength_le (h : Ends quote tripled body) :
    closingLength tripled ≤ body.length := by
  induction h with
  | plain => simp [closingLength]
  | triple => simp [closingLength]
  | escape _ ih =>
    rw [List.length_cons, List.length_cons]
    omega
  | other _ _ _ ih =>
    rw [List.length_cons]
    omega

-- A string with plain quotes that the reader gets through.
theorem closes_of_reaches (h : Ends quote false body)
    (hreaches : Reaches ⟨.string quote false quotes, depth⟩ (body ++ rest) last) :
    Closes quote false body (body.length - 1) := by
  generalize htripled : false = tripled at h
  induction h generalizing quotes with
  | plain => exact .plain
  | triple => cases htripled
  | @escape tripled d t h ih =>
    subst htripled
    have hlength := closingLength_le h
    rw [closingLength, if_neg (by decide)] at hlength
    have hrest := ih (plain_escape hreaches) rfl
    rw [List.length_cons, List.length_cons,
      show t.length + 1 + 1 - 1 = t.length - 1 + 2 by omega]
    exact .escape hrest
  | @other tripled c t hslash hinside h ih =>
    subst htripled
    have hlength := closingLength_le h
    rw [closingLength, if_neg (by decide)] at hlength
    have hne : c ≠ quote := fun heq => absurd (hinside heq).1 (by decide)
    obtain ⟨hbreak, hbehind⟩ := plain_cons hslash hne hreaches
    have hrest := ih hbehind rfl
    rw [List.length_cons, show t.length + 1 - 1 = t.length - 1 + 1 by omega]
    exact .other hslash (fun _ => ⟨hne, hbreak⟩) (by simp) hrest

-- In a tripled string the reader gets through to the three quotes at its end.
theorem run?_of_ends (hquote : isQuote quote = true) (h : Ends quote true body)
    (hfew : Few quotes quote body) :
    RowState.run? ⟨.string quote true quotes, depth⟩ body =
      some (body.map .keep, ⟨.code, depth⟩) := by
  have hslash := isQuote_ne_slash hquote
  generalize htripled : true = tripled at h
  induction h generalizing quotes with
  | plain => cases htripled
  | triple =>
    obtain rfl : quotes = 0 := by
      rcases hfew with hzero | ⟨hle, hne⟩
      · exact hzero
      · obtain rfl | rfl | rfl : quotes = 0 ∨ quotes = 1 ∨ quotes = 2 := by omega
        · rfl
        · exact absurd rfl hne
        · exact absurd rfl hne
    simp [RowState.run?, RowState.step?, RowState.stringMode?, hslash]
  | @escape tripled d t h ih =>
    have hrest := ih (.inl rfl) htripled
    simp [RowState.run?, RowState.step?, RowState.stringMode?, hrest]
  | @other tripled c t hc hinside h ih =>
    subst htripled
    by_cases hq : c = quote
    · subst hq
      have htwo := (hinside rfl).2
      have hquotes : quotes ≠ 2 := by
        rintro rfl
        rcases hfew with hzero | ⟨-, hne⟩
        · cases hzero
        · exact hne rfl
      have hmore : Few (quotes + 1) c t := by
        refine .inr ?_
        rcases hfew with rfl | ⟨hle, hne⟩
        · exact ⟨by omega, htwo⟩
        · obtain rfl | rfl : quotes = 0 ∨ quotes = 1 := by omega
          · exact ⟨by omega, htwo⟩
          · exact ⟨by omega, fun htake => hne (congrArg (c :: ·) htake)⟩
      have hrest := ih hmore rfl
      simp [RowState.run?, RowState.step?, RowState.stringMode?, hslash, hquotes, hrest]
    · have hrest := ih (.inl rfl) rfl
      simp [RowState.run?, RowState.step?, RowState.stringMode?, hc, hq, hrest]

end

section

variable {quote : Char} {tripled : Bool} {body text rest letters t : Text} {kind : LexemeKind}
  {s last : RowState} {depth : Nat} {c : Char}

theorem not_isAsciiLetter_of_special : ∀ d ∈ special, ¬ isAsciiLetter d = true :=
  List.all_iff_forall_prop.mp (by decide)

-- Outside strings the reader does the same in all its modes.
theorem Outside.run?_eq (h : Outside s (c :: t ++ rest)) :
    s.run? (c :: t) = RowState.run? ⟨.code, s.depth⟩ (c :: t) := by
  have hstep : s.step? c = RowState.step? ⟨.code, s.depth⟩ c := h.step?_eq
  simp only [RowState.run?, hstep]

theorem run?_opened (hquote : isQuote quote = true) :
    RowState.step? ⟨.code, depth⟩ quote =
      some (some (.keep quote), ⟨.opened quote, depth⟩) := by
  have hcases : quote = '\'' ∨ quote = '"' := by simpa [isQuote] using hquote
  rcases hcases with rfl | rfl
  · rfl
  · rfl

theorem run?_tripled (hquote : isQuote quote = true) (h : Ends quote true body) :
    RowState.run? ⟨.code, depth⟩ (quote :: quote :: quote :: body) =
      some ((quote :: quote :: quote :: body).map .keep, ⟨.code, depth⟩) := by
  refine RowState.run?_cons (run?_opened hquote) ?_
  have hrest := @run?_of_ends _ _ depth 0 hquote h (.inl rfl)
  simp [RowState.run?, RowState.step?, hrest]

-- A string, and what the reader is in behind it.
theorem run?_string (hletters : isStringPrefix letters = true) (hquote : isQuote quote = true)
    (hends : Ends quote tripled body)
    (hplain : tripled = false → (body ++ rest).take 2 ≠ [quote, quote])
    (hfirm : Firm (openingText letters quote tripled ++ body)) :
    ∃ mode, mode ≠ .comment ∧ Outside ⟨mode, depth⟩ rest ∧
      RowState.run? ⟨.code, depth⟩ (openingText letters quote tripled ++ body) =
        some ((openingText letters quote tripled ++ body).map .keep, ⟨mode, depth⟩) := by
  have hspecial : ∀ c ∈ letters, c ∉ special := fun c hc =>
    not_special_of (p := (isAsciiLetter · = true)) not_isAsciiLetter_of_special
      (isAsciiLetter_of_isStringPrefix hletters c hc)
  have hbefore := @run?_of_plain letters depth hspecial
  cases tripled with
  | true =>
    have hbehind := @run?_tripled quote body depth hquote hends
    have hrun := RowState.run?_append hbefore hbehind
    exact ⟨.code, by simp, trivial, by simpa [openingText] using hrun⟩
  | false =>
    have hcloses := hfirm letters quote body rfl hletters hquote hends
    have hlength := closingLength_le hends
    rw [closingLength, if_neg (by decide)] at hlength
    obtain ⟨mode, hmode, hbehind⟩ := @run?_plain_string body depth quote _ hquote hcloses
    rw [Nat.sub_add_cancel hlength, List.take_length] at hbehind
    have hrun := RowState.run?_append hbefore hbehind
    refine ⟨mode, ?_, ?_, by simpa [openingText] using hrun⟩
    · rcases hmode with rfl | ⟨-, rfl⟩ <;> simp
    rcases hmode with rfl | ⟨hempty, rfl⟩
    · trivial
    · intro hhead
      obtain ⟨others, rfl⟩ := List.head?_eq_some_iff.mp hhead
      obtain ⟨c, rfl⟩ : ∃ c, body = [c] := List.length_eq_one_iff.mp (by omega)
      obtain rfl : c = quote := by simpa using hends.getLast
      exact hplain rfl rfl

theorem not_isNumberPart_of_special : ∀ d ∈ special, ¬ IsNumberPart d :=
  List.all_iff_forall_prop.mp (by decide)

theorem not_isWordPart_of_special : ∀ d ∈ special, ¬ isWordPart d = true :=
  List.all_iff_forall_prop.mp (by decide)

-- A lexeme that is no string is a bracket, or nothing special.
theorem special_of_stands (h : Stands rest kind text) (hkind : kind ≠ .string) :
    (∀ c ∈ text, c ∉ special) ∨ kind = .operator ∧ text ∈ Lexeme.operators := by
  cases h with
  | string => exact absurd rfl hkind
  | number _ hmade =>
    exact .inl fun c hc => not_special_of not_isNumberPart_of_special (hmade c hc)
  | word _ _ hmade =>
    exact .inl fun c hc =>
      not_special_of (p := (isWordPart · = true)) not_isWordPart_of_special (hmade c hc)
  | operator hknown => exact .inr ⟨rfl, hknown⟩

-- The reader keeps a lexeme as it is.
theorem run?_stands (h : Stands rest kind text) (hfirm : kind = .string → Firm text)
    (hdepth : 0 ≤ depth + changeOf kind text) :
    ∃ s : RowState, (s.depth : Int) = depth + changeOf kind text ∧ s.mode ≠ .comment ∧
      Outside s rest ∧ RowState.run? ⟨.code, depth⟩ text = some (text.map .keep, s) := by
  have hplain (hspecial : ∀ c ∈ text, c ∉ special) :
      ∃ s : RowState, (s.depth : Int) = depth + changeOf kind text ∧ s.mode ≠ .comment ∧
        Outside s rest ∧ RowState.run? ⟨.code, depth⟩ text = some (text.map .keep, s) := by
    rw [changeOf_of_plain kind hspecial, Int.add_zero]
    exact ⟨⟨.code, depth⟩, rfl, by simp, trivial, run?_of_plain hspecial⟩
  by_cases hkind : kind = .string
  · subst hkind
    obtain ⟨letters, quote, tripled, body, rfl, hletters, hquote, hends, htwo⟩ := h.parts
    obtain ⟨mode, hmode, houtside, hrun⟩ := run?_string hletters hquote hends htwo (hfirm rfl)
    rw [changeOf_of_kind (by decide), Int.add_zero]
    exact ⟨⟨mode, depth⟩, rfl, hmode, houtside, hrun⟩
  rcases special_of_stands h hkind with hspecial | ⟨rfl, hknown⟩
  · exact hplain hspecial
  rcases operator_cases hknown with hspecial | ⟨c, rfl, hchange, hopen⟩ | ⟨c, rfl, hchange, hclose⟩
  · exact hplain hspecial
  · refine ⟨⟨.code, depth + 1⟩, by simp [hchange], by simp, trivial, ?_⟩
    exact RowState.run?_cons (s := ⟨.code, depth⟩) (hopen _) rfl
  · rw [hchange] at hdepth ⊢
    refine ⟨⟨.code, depth - 1⟩, by simp only; omega, by simp, trivial, ?_⟩
    have hstep : RowState.step? ⟨.code, depth⟩ c = some (some (.keep c), ⟨.code, depth - 1⟩) :=
      (hclose _).trans (if_neg (by simp only; omega))
    exact RowState.run?_cons hstep rfl

theorem firm_of_reaches (h : Reaches ⟨.code, depth⟩ text last) : Firm text := by
  intro letters quote body htext hletters hquote hends
  have hspecial : ∀ c ∈ letters, c ∉ special := fun c hc =>
    not_special_of (p := (isAsciiLetter · = true)) not_isAsciiLetter_of_special
      (isAsciiLetter_of_isStringPrefix hletters c hc)
  have hbehind : Reaches ⟨.opened quote, depth⟩ body last := by
    rw [htext, openingText, List.append_assoc, reaches_append] at h
    obtain ⟨middle, hbefore, hrest⟩ := h
    obtain rfl := hbefore.eq ⟨_, run?_of_plain hspecial⟩
    obtain ⟨mark, next, hstep, hrest⟩ := reaches_cons.mp hrest
    rw [run?_opened hquote] at hstep
    cases hstep
    exact hrest
  have hopened {c : Char} {t : Text} (hbody : body = c :: t) (hc : c ≠ quote) :
      Closes quote false body (body.length - 1) := by
    subst hbody
    have hstring := reaches_opened hc hbehind
    rw [← List.append_nil (c :: t)] at hstring
    exact closes_of_reaches hends hstring
  generalize htripled : false = tripled at hends
  cases hends with
  | plain => exact .plain
  | triple => cases htripled
  | escape =>
    subst htripled
    exact hopened rfl (isQuote_ne_slash hquote).symm
  | other _ hinside =>
    subst htripled
    exact hopened rfl fun heq => absurd (hinside heq).1 (by decide)

-- No bracket is closed that is not open.
theorem depth_of_reaches (h : Stands rest kind text) (hreaches : Reaches ⟨.code, depth⟩ text last) :
    0 ≤ depth + changeOf kind text := by
  have hplain (hspecial : ∀ c ∈ text, c ∉ special) : 0 ≤ depth + changeOf kind text := by
    rw [changeOf_of_plain kind hspecial]
    omega
  by_cases hkind : kind = .string
  · rw [changeOf_of_kind (by simp [hkind])]
    omega
  rcases special_of_stands h hkind with hspecial | ⟨rfl, hknown⟩
  · exact hplain hspecial
  rcases operator_cases hknown with hspecial | ⟨c, rfl, hchange, -⟩ | ⟨c, rfl, hchange, hclose⟩
  · exact hplain hspecial
  · rw [hchange]
    omega
  · obtain ⟨mark, next, hstep, -⟩ := reaches_cons.mp hreaches
    have hclosed := (hclose ⟨.code, depth⟩).symm.trans hstep
    by_cases hzero : depth = 0
    · rw [if_pos hzero] at hclosed
      cases hclosed
    · rw [hchange]
      omega

end

-- A blank before each lexeme.
def spaced (lexemes : List Lexeme) : Text := lexemes.flatMap fun l => ' ' :: l.text

section

variable {text rest : Text} {kind : LexemeKind} {l : Lexeme} {lexemes : List Lexeme}
  {s last : RowState} {marks : List Mark}

theorem spaced_cons (l : Lexeme) (lexemes : List Lexeme) :
    spaced (l :: lexemes) = ' ' :: (l.text ++ spaced lexemes) := rfl

theorem literalSource_cons (l : Lexeme) (lexemes : List Lexeme) :
    Directive.literalSource (l :: lexemes) = l.text ++ spaced lexemes := by
  induction lexemes generalizing l with
  | nil => exact (List.append_nil _).symm
  | cons next lexemes ih =>
    have hrest := ih next
    rw [Directive.literalSource, List.map_cons] at hrest ⊢
    rw [List.map_cons, joinWith, hrest, spaced_cons, List.append_assoc]
    · rfl
    · simp

theorem take_of_other {quote c : Char} {tripled : Bool} {body behind : Text}
    (hends : Ends quote tripled body) (hc : c ≠ quote)
    (h : (body ++ c :: behind).take 2 = [quote, quote]) (rest : Text) :
    (body ++ rest).take 2 = [quote, quote] := by
  obtain ⟨d, body, rfl⟩ := List.exists_cons_of_ne_nil hends.ne_nil
  cases body with
  | nil =>
    obtain ⟨-, heq⟩ : d = quote ∧ c = quote := by simpa using h
    exact absurd heq hc
  | cons e body => simpa using h

-- A character that is no quote and in no operator belongs to no lexeme before it.
theorem stands_of_other {c : Char} (hquote : isQuote c = false)
    (hnone : ∀ operator ∈ Lexeme.operators, c ∉ operator) (h : Stands rest kind text)
    (behind : Text) : Stands (c :: behind) kind text := by
  cases h with
  | @string letters body quote tripled hletters hquoted hends hplain =>
    refine .string hletters hquoted hends fun htripled htwo => hplain htripled ?_
    refine take_of_other hends ?_ htwo rest
    rintro rfl
    rw [hquoted] at hquote
    cases hquote
  | number hhead hmade => exact .number hhead hmade
  | word hworded hdigit hmade => exact .word hworded hdigit hmade
  | operator hknown =>
    refine .operator hknown fun d hd hmem => ?_
    obtain rfl : c = d := by simpa using hd
    exact hnone _ hmem (by simp)

theorem stands_spaced (h : Stands rest kind text) (lexemes : List Lexeme) :
    Stands (spaced lexemes) kind text := by
  cases lexemes with
  | nil => exact h.of_head (.inl rfl)
  | cons l lexemes => exact stands_of_other (by decide) (by decide) h _

theorem stands_break (h : Stands rest kind text) (behind : Text) :
    Stands (rest ++ '\n' :: behind) kind text := by
  cases rest with
  | nil => exact stands_of_other (by decide) (by decide) h _
  | cons c rest => exact h.of_head (.inr rfl)

-- The reader keeps all of a row of lexemes with blanks between them.
theorem run?_spaced (hstands : ∀ l ∈ lexemes, ∃ rest, Stands rest l.kind l.text)
    (houtside : Outside s (spaced lexemes)) (hcode : s.mode ≠ .comment)
    (h : s.run? (spaced lexemes) = some (marks, last)) :
    marks = (spaced lexemes).map .keep ∧ last.mode ≠ .comment ∧
      (last.depth : Int) = s.depth + Directive.depth lexemes ∧
      (∀ l ∈ lexemes, l.kind = .string → Firm l.text) ∧ Directive.Nested s.depth lexemes := by
  induction lexemes generalizing s marks with
  | nil =>
    cases h
    exact ⟨rfl, hcode, by simp, by simp, by simp [Directive.Nested]⟩
  | cons l lexemes ih =>
    rw [List.forall_mem_cons] at hstands
    obtain ⟨⟨rest, hl⟩, hlexemes⟩ := hstands
    have hl := stands_spaced hl lexemes
    rw [spaced_cons] at houtside h ⊢
    obtain ⟨mark, next, others, hstep, hrest, rfl⟩ := RowState.exists_of_run?_cons h
    rw [houtside.step?_eq, codeStep?_of_not_mem (by decide)] at hstep
    cases hstep
    obtain ⟨marks₁, middle, marks₂, hfirst, hbehind, rfl⟩ := RowState.run?_split hrest
    have hreaches : Reaches ⟨.code, s.depth⟩ l.text middle := ⟨marks₁, hfirst⟩
    have hdepth := depth_of_reaches hl hreaches
    have hfirm := firm_of_reaches hreaches
    obtain ⟨s', hs', hmode, hout, hrun⟩ := run?_stands hl (fun _ => hfirm) hdepth
    rw [hfirst] at hrun
    cases hrun
    obtain ⟨rfl, hlast, hbalance, hfirms, hnested⟩ := ih hlexemes hout hmode hbehind
    rw [hs'] at hbalance hnested
    refine ⟨by simp, hlast, ?_, List.forall_mem_cons.mpr ⟨fun _ => hfirm, hfirms⟩, ?_⟩
    · rw [hbalance, Directive.depth_cons]
      exact Int.add_assoc _ _ _
    · rw [Directive.nested_cons]
      exact ⟨by omega, hnested⟩

end

-- The content of a string literal.
def contentOf? (text : Text) : Option StringContent :=
  (opening? (text ++ [' '])).bind fun o =>
    content? (text.take o.letters)
      ((text.drop o.length).take (text.length - o.length - closingLength o.tripled))

section

variable {quote : Char} {tripled : Bool} {letters body text rest : Text} {n : Nat}

theorem closes_append_right (h : Closes quote false body n) (rest : Text) :
    Closes quote false (body ++ rest) n := by
  generalize htripled : false = tripled at h
  induction h with
  | plain => exact .plain
  | triple => cases htripled
  | escape _ ih =>
    subst htripled
    exact .escape (ih rfl)
  | other hslash hplain _ _ ih =>
    subst htripled
    exact .other hslash hplain (by simp) (ih rfl)

theorem closes_of_ends (h : Ends quote true body) (rest : Text) :
    Closes quote true (body ++ rest) (body.length - 3) := by
  generalize htripled : true = tripled at h
  induction h with
  | plain => cases htripled
  | triple => exact .triple
  | @escape tripled d t h ih =>
    subst htripled
    have hlength := closingLength_le h
    rw [closingLength, if_pos rfl] at hlength
    rw [List.length_cons, List.length_cons,
      show t.length + 1 + 1 - 3 = t.length - 3 + 2 by omega]
    exact .escape (ih rfl)
  | @other tripled c t hslash hinside h ih =>
    subst htripled
    have hlength := closingLength_le h
    rw [closingLength, if_pos rfl] at hlength
    rw [List.length_cons, show t.length + 1 - 3 = t.length - 3 + 1 by omega]
    refine .other hslash (by simp) (fun _ hclose => ?_) (ih rfl)
    rw [List.append_eq, List.take_append_of_le_length (by omega)] at hclose
    exact (hinside hclose.1).2 hclose.2

theorem opening?_openingText (hletters : isStringPrefix letters = true)
    (hquote : isQuote quote = true)
    (hplain : tripled = false → body.take 2 ≠ [quote, quote]) :
    opening? (openingText letters quote tripled ++ body) =
      some ⟨letters.length, quote, tripled⟩ := by
  have hlength : letters.length ≤ 2 := by
    have hmap : (letters.map lowerAscii).length = letters.length := List.length_map _
    rw [← hmap]
    unfold isStringPrefix at hletters
    split at hletters
    · simp [*]
    · simp [*]
    · simp [*]
    · cases hletters
  have hinside : ∀ c ∈ letters, (!isQuote c) = true := by
    intro c hc
    have hletter := isAsciiLetter_of_isStringPrefix hletters c hc
    by_contra hquoted
    have hquoted : isQuote c = true := by simpa using hquoted
    have hcases : c = '\'' ∨ c = '"' := by simpa [isQuote] using hquoted
    rcases hcases with rfl | rfl <;> cases hletter
  generalize hmore : (if tripled then [quote, quote] else []) ++ body = more
  have htext : openingText letters quote tripled ++ body = letters ++ quote :: more := by
    rw [← hmore, openingText, List.append_assoc, List.cons_append]
  have htake : (letters ++ quote :: more).take 3 =
      letters ++ quote :: more.take (2 - letters.length) := by
    rw [List.take_append, List.take_of_length_le (by omega),
      show 3 - letters.length = 2 - letters.length + 1 by omega, List.take_succ_cons]
  have hbefore : ((letters ++ quote :: more).take 3).takeWhile (fun c => !isQuote c) = letters := by
    rw [htake, List.takeWhile_append_of_pos hinside, List.takeWhile_cons_of_neg (by simp [hquote]),
      List.append_nil]
  rw [htext]
  simp only [opening?, hbefore, hletters, if_true, List.drop_left]
  cases tripled with
  | true =>
    rw [← hmore]
    simp [openingAfter, hquote]
  | false =>
    obtain rfl : body = more := by simpa using hmore
    cases body with
    | nil => simp [openingAfter, hquote]
    | cons d body =>
      cases body with
      | nil => simp [openingAfter, hquote]
      | cons e behind =>
        have hne : (decide (d = quote) && decide (e = quote)) = false := by
          simpa using hplain rfl
        simp [openingAfter, hquote, hne]

-- What the reader makes of a string does not depend on what is behind it.
theorem token?_string (h : Stands rest .string text) (hfirm : Firm text) :
    token? (text ++ rest) = (contentOf? text).map fun content => (.string content, rest) := by
  obtain ⟨letters, quote, tripled, body, rfl, hletters, hquote, hends, hplain⟩ := h.parts
  have hopening (behind : Text) (h : tripled = false → (body ++ behind).take 2 ≠ [quote, quote]) :
      opening? (openingText letters quote tripled ++ body ++ behind) =
        some ⟨letters.length, quote, tripled⟩ := by
    rw [List.append_assoc]
    exact opening?_openingText hletters hquote h
  have hspace := hopening [' '] fun htripled htwo => by
    refine hplain htripled (take_of_other hends ?_ htwo rest)
    rintro rfl
    cases hquote
  have hlength : (openingText letters quote tripled).length =
      Opening.length ⟨letters.length, quote, tripled⟩ := by
    cases tripled <;> simp [openingText, Opening.length]
  have hcloses : Closes quote tripled (body ++ rest) (body.length - closingLength tripled) := by
    cases tripled with
    | true => exact closes_of_ends hends rest
    | false => exact closes_append_right (hfirm _ _ _ rfl hletters hquote hends) rest
  have hle := closingLength_le hends
  have hdrop (behind : Text) : (openingText letters quote tripled ++ behind).drop
      (Opening.length ⟨letters.length, quote, tripled⟩) = behind := by
    rw [← hlength, List.drop_left]
  have hletters (behind : Text) : (openingText letters quote tripled ++ behind).take
      letters.length = letters := by
    rw [openingText, List.append_assoc, List.take_left]
  rw [token?_of_closes (hopening rest hplain) (by rwa [List.append_assoc, hdrop]), contentOf?,
    hspace, Option.bind_some]
  simp only [List.append_assoc, hdrop, hletters, ← List.drop_drop]
  rw [← hlength, List.length_append, Nat.add_sub_cancel_left, List.drop_drop,
    Nat.sub_add_cancel hle, List.drop_left, List.take_append_of_le_length (Nat.sub_le _ _)]

end

-- The symbols that a literal of text or of an integer can have.
def simpleSymbols : List (Char × Symbol) :=
  [('(', .openParen), (')', .closeParen), ('+', .plus), ('-', .minus)]

-- A lexeme of such a literal, and its token, whatever stands behind it.
inductive Fits (l : Lexeme) : Token → Prop
  | string {content : StringContent} (kind : l.kind = .string) (firm : Firm l.text)
      (holds : contentOf? l.text = some content) : Fits l (.string content)
  | int {n : Nat} {c : Char} {t : Text} (kind : l.kind = .number) (made : l.text = c :: t)
      (digit : isDigit c = true)
      (read : ∀ after, Ended after → number? (l.text ++ after) = some (.int n, after)) :
      Fits l (.number (.int n))
  | symbol {c : Char} {symbol : Symbol} (kind : l.kind = .operator) (made : l.text = [c])
      (simple : (c, symbol) ∈ simpleSymbols) : Fits l (.symbol symbol)

section

variable {l : Lexeme} {token : Token} {rest : Text}

theorem token?_of_digit {c : Char} {t : Text} (hdigit : isDigit c = true) :
    token? (c :: t) = (number? (c :: t)).map fun (value, rest) => (.number value, rest) := by
  have hletter : isAsciiLetter c = false := by
    by_contra hletter
    rw [Bool.not_eq_false] at hletter
    rw [not_isDigit_of_isAsciiLetter hletter] at hdigit
    cases hdigit
  have hquote : isQuote c = false := by
    by_contra hquote
    rw [Bool.not_eq_false] at hquote
    have hcases : c = '\'' ∨ c = '"' := by simpa [isQuote] using hquote
    rcases hcases with rfl | rfl <;> cases hdigit
  have hdot : c ≠ '.' := by
    rintro rfl
    cases hdigit
  have hstarts : startsNumber (c :: t) = true := by
    rw [startsNumber, hdigit]
    exact fun _ _ heq => absurd heq hdot
  simp only [token?, opening?_eq_none hletter hquote, hstarts, if_true]

theorem symbol?_of_simple {c : Char} {symbol : Symbol} (hsimple : (c, symbol) ∈ simpleSymbols)
    (h : ∀ d ∈ rest.head?, [c, d] ∉ Lexeme.operators) :
    symbol? (c :: rest) = some (.symbol symbol, rest) := by
  have hequal (hmem : [c, '='] ∈ Lexeme.operators) : ∀ d ∈ rest.head?, d ≠ '=' := by
    rintro d hd rfl
    exact h _ hd hmem
  have harrow (hmem : [c, '>'] ∈ Lexeme.operators) : ∀ d ∈ rest.head?, d ≠ '>' := by
    rintro d hd rfl
    exact h _ hd hmem
  simp only [simpleSymbols, List.mem_cons, Prod.mk.injEq, List.not_mem_nil, or_false] at hsimple
  rcases hsimple with ⟨rfl, rfl⟩ | ⟨rfl, rfl⟩ | ⟨rfl, rfl⟩ | ⟨rfl, rfl⟩
  · rfl
  · rfl
  · cases rest with
    | nil => rfl
    | cons d rest =>
      have hne := hequal (by decide) d rfl
      simp [symbol?, symbolTable, List.isPrefixOf, hne.symm]
  · cases rest with
    | nil => rfl
    | cons d rest =>
      have hne := hequal (by decide) d rfl
      have hne' := harrow (by decide) d rfl
      simp [symbol?, symbolTable, List.isPrefixOf, hne.symm, hne'.symm]

theorem token?_of_simple {c : Char} {symbol : Symbol} (hsimple : (c, symbol) ∈ simpleSymbols)
    (h : ∀ d ∈ rest.head?, [c, d] ∉ Lexeme.operators) :
    token? (c :: rest) = some (.symbol symbol, rest) := by
  have hother : ∀ p ∈ simpleSymbols, (isAsciiLetter p.1 || isQuote p.1 || isDigit p.1 ||
      continuesName p.1 || p.1 = '.') = false := List.all_iff_forall_prop.mp (by decide)
  have hc := hother _ hsimple
  simp only [Bool.or_eq_false_iff, decide_eq_false_iff_not] at hc
  obtain ⟨⟨⟨⟨hletter, hquote⟩, hdigit⟩, hname⟩, hdot⟩ := hc
  have hstarts : startsNumber (c :: rest) = false := by
    rw [startsNumber, hdigit]
    exact fun _ _ heq => absurd heq hdot
  simp only [token?, opening?_eq_none hletter hquote, hstarts, List.head?_cons, Option.any_some,
    hname, Bool.false_eq_true, if_false, symbol?_of_simple hsimple h]

theorem longest_of_simple {c : Char} {symbol : Symbol} (h : Stands rest .operator [c])
    (hsimple : (c, symbol) ∈ simpleSymbols) : ∀ d ∈ rest.head?, [c, d] ∉ Lexeme.operators := by
  generalize htext : [c] = text at h
  cases h with
  | operator _ hlongest =>
    subst htext
    exact hlongest
  | word _ _ hmade =>
    cases htext
    have hother : ∀ p ∈ simpleSymbols, ¬ isWordPart p.1 = true :=
      List.all_iff_forall_prop.mp (by decide)
    exact absurd (hmade c List.mem_cons_self) (hother _ hsimple)

theorem token?_of_fits (h : Fits l token) (hstands : Stands rest l.kind l.text)
    (hended : l.kind = .number → Ended rest) : token? (l.text ++ rest) = some (token, rest) := by
  cases h with
  | string hkind hfirm hcontent =>
    rw [hkind] at hstands
    rw [token?_string hstands hfirm, hcontent]
    rfl
  | int hkind hmade hdigit hread =>
    have hnumber := hread rest (hended hkind)
    rw [hmade] at hnumber ⊢
    rw [List.cons_append, token?_of_digit hdigit, ← List.cons_append, hnumber]
    rfl
  | @symbol c symbol hkind hmade hsimple =>
    rw [hmade, hkind] at hstands
    rw [hmade]
    exact token?_of_simple hsimple (longest_of_simple hstands hsimple)

end

-- Tokens of a literal of text or of an integer. Behind an integer comes nothing but a closing
-- parenthesis.
def Sparse : List Token → Prop
  | [] => True
  | .string _ :: tokens => Sparse tokens
  | .number (.int _) :: tokens =>
    (∀ token ∈ tokens.head?, token = .symbol .closeParen) ∧ Sparse tokens
  | .symbol symbol :: tokens => (∃ c, (c, symbol) ∈ simpleSymbols) ∧ Sparse tokens
  | _ => False

section

variable {l : Lexeme} {lexemes : List Lexeme} {token : Token} {text rest t : Text}
  {kind : LexemeKind} {symbol : Symbol} {n fuel : Nat} {tokens : List Token}

-- What each kind of token is read by.
def ReadBy (t : Text) (token : Token) (rest : Text) : Prop :=
  match token with
  | .string _ => opening? t ≠ none
  | .number value => startsNumber t = true ∧ number? t = some (value, rest)
  | .symbol symbol => symbol? t = some (.symbol symbol, rest)
  | .name _ | .keyword _ => True

theorem readBy_of_token? (h : token? t = some (token, rest)) : ReadBy t token rest := by
  unfold token? at h
  split at h
  · rename_i o hopening
    obtain ⟨⟨body, behind⟩, -, hcontent⟩ := Option.bind_eq_some_iff.mp h
    obtain ⟨content, -, heq⟩ := Option.bind_eq_some_iff.mp hcontent
    cases heq
    simp [ReadBy, hopening]
  · split_ifs at h with hstarts
    · obtain ⟨⟨value, behind⟩, hvalue, heq⟩ := Option.map_eq_some_iff.mp h
      cases heq
      exact ⟨hstarts, hvalue⟩
    · unfold word? at h
      simp only at h
      split at h
      · cases h
        trivial
      · split at h
        · cases h
          trivial
        · cases h
    · obtain ⟨⟨text, symbol⟩, -, heq⟩ := Option.map_eq_some_iff.mp h
      cases heq
      exact h

-- Only its own character is read as a symbol of those.
theorem symbol?_simple {c : Char} (h : symbol? t = some (.symbol symbol, rest))
    (hsimple : (c, symbol) ∈ simpleSymbols) : t = c :: rest := by
  obtain ⟨⟨key, found⟩, hfind, heq⟩ := Option.map_eq_some_iff.mp h
  cases heq
  have hkeys : ∀ entry ∈ symbolTable, ∀ p ∈ simpleSymbols, entry.2 = p.2 → entry.1 = [p.1] := by
    decide
  have hkey := hkeys _ (List.mem_of_find?_eq_some hfind) _ hsimple rfl
  have hstart := List.find?_some hfind
  simp only at hkey hstart
  obtain ⟨behind, rfl⟩ := List.isPrefixOf_iff_prefix.mp hstart
  rw [hkey]
  simp

-- The first character of a lexeme tells numbers and operators apart.
theorem number_of_digit {c : Char} (h : Stands rest kind (c :: t)) (hkind : kind ≠ .string)
    (hdigit : isDigit c = true) : kind = .number ∧ ∀ d ∈ c :: t, IsNumberPart d := by
  generalize htext : c :: t = text at h
  cases h with
  | string => exact absurd rfl hkind
  | number _ hmade => exact ⟨rfl, hmade⟩
  | operator hknown =>
    subst htext
    have hnone : ∀ operator ∈ Lexeme.operators, operator.head?.any isDigit = false := by decide
    have hhead := hnone _ hknown
    rw [List.head?_cons, Option.any_some, hdigit] at hhead
    cases hhead
  | word _ hother =>
    cases htext
    rw [hdigit] at hother
    cases hother

theorem operator_of_simple {c : Char} (h : Stands rest kind (c :: t)) (hkind : kind ≠ .string)
    (hsimple : (c, symbol) ∈ simpleSymbols) : kind = .operator ∧ c :: t ∈ Lexeme.operators := by
  have hother : ∀ p ∈ simpleSymbols, isDigit p.1 = false ∧ p.1 ≠ '.' ∧ ¬ isWordPart p.1 = true :=
    by decide
  obtain ⟨hdigit, hdot, hword⟩ := hother _ hsimple
  generalize htext : c :: t = text at h
  cases h with
  | string => exact absurd rfl hkind
  | operator hknown => exact ⟨rfl, hknown⟩
  | number hhead =>
    cases htext
    rw [hdigit] at hhead
    exact absurd (hhead.resolve_left (by decide)) hdot
  | word _ _ hmade =>
    cases htext
    exact absurd (hmade c List.mem_cons_self) hword

theorem mem_gaps {c : Char} (h : isGap c = true) : c ∈ [' ', '\t', '\x0c'] := by
  simpa [isGap, or_assoc] using h

theorem not_isGap_of_isNumberPart {c : Char} (h : IsNumberPart c) : isGap c = false := by
  rw [Bool.eq_false_iff]
  intro hgap
  have hnone : ∀ d ∈ [' ', '\t', '\x0c'], ¬ IsNumberPart d :=
    List.all_iff_forall_prop.mp (by decide)
  exact hnone c (mem_gaps hgap) h

-- Only strings have blanks in them.
theorem gap_not_mem (h : Stands rest kind text) (hkind : kind ≠ .string) :
    ∀ c ∈ text, isGap c = false := by
  intro c hc
  cases h with
  | string => exact absurd rfl hkind
  | number _ hmade => exact not_isGap_of_isNumberPart (hmade c hc)
  | word _ _ hmade =>
    rw [Bool.eq_false_iff]
    intro hgap
    have hnone : ∀ d ∈ [' ', '\t', '\x0c'], ¬ isWordPart d = true :=
      List.all_iff_forall_prop.mp (by decide)
    exact hnone c (mem_gaps hgap) (hmade c hc)
  | operator hknown =>
    rw [Bool.eq_false_iff]
    intro hgap
    have hnone : ∀ operator ∈ Lexeme.operators, ∀ d ∈ [' ', '\t', '\x0c'], d ∉ operator := by
      decide
    exact hnone text hknown c (mem_gaps hgap) hc

-- A lexeme neither begins nor ends in a blank.
theorem exists_head (h : Stands rest kind text) :
    ∃ c t, text = c :: t ∧ isGap c = false ∧ c ≠ '\n' := by
  by_cases hkind : kind = .string
  · subst hkind
    obtain ⟨letters, quote, tripled, body, rfl, hletters, hquote, -⟩ := h.parts
    cases letters with
    | nil =>
      refine ⟨quote, _, rfl, ?_, isQuote_ne_break hquote⟩
      rw [Bool.eq_false_iff]
      intro hgap
      have hnone : ∀ d ∈ [' ', '\t', '\x0c'], isQuote d = false := by decide
      rw [hnone quote (mem_gaps hgap)] at hquote
      cases hquote
    | cons c letters =>
      have hletter := isAsciiLetter_of_isStringPrefix hletters c List.mem_cons_self
      refine ⟨c, _, rfl, ?_, ?_⟩
      · rw [Bool.eq_false_iff]
        intro hgap
        have hnone : ∀ d ∈ [' ', '\t', '\x0c'], isAsciiLetter d = false := by decide
        rw [hnone c (mem_gaps hgap)] at hletter
        cases hletter
      · rintro rfl
        cases hletter
  · obtain ⟨c, t, rfl⟩ := List.exists_cons_of_ne_nil h.ne_nil
    refine ⟨c, t, rfl, gap_not_mem h hkind c List.mem_cons_self, ?_⟩
    rintro rfl
    rcases special_of_stands h hkind with hspecial | ⟨-, hknown⟩
    · exact hspecial '\n' List.mem_cons_self (by decide)
    · have hnone : ∀ operator ∈ Lexeme.operators, '\n' ∉ operator :=
        List.all_iff_forall_prop.mp (by decide)
      exact hnone _ hknown List.mem_cons_self

theorem isGap_getLast (h : Stands rest kind text) :
    ∀ c, text.getLast? = some c → isGap c = false := by
  intro c hc
  by_cases hkind : kind = .string
  · subst hkind
    obtain ⟨letters, quote, tripled, body, rfl, hletters, hquote, hends, -⟩ := h.parts
    rw [List.getLast?_append_of_ne_nil _ hends.ne_nil, hends.getLast] at hc
    cases hc
    rw [Bool.eq_false_iff]
    intro hgap
    have hnone : ∀ d ∈ [' ', '\t', '\x0c'], isQuote d = false := by decide
    rw [hnone c (mem_gaps hgap)] at hquote
    cases hquote
  · exact gap_not_mem h hkind c (List.mem_of_getLast? hc)

theorem quote_not_mem (h : Stands rest kind text) (hkind : kind ≠ .string) :
    ∀ c ∈ text, isQuote c = false := by
  intro c hc
  by_contra hquote
  have hquote : isQuote c = true := by simpa using hquote
  have hcases : c = '\'' ∨ c = '"' := by simpa [isQuote] using hquote
  have hmem : c ∈ special := by
    rcases hcases with rfl | rfl
    · decide
    · decide
  rcases special_of_stands h hkind with hspecial | ⟨-, hknown⟩
  · exact hspecial c hc hmem
  · have hnone : ∀ operator ∈ Lexeme.operators, '\'' ∉ operator ∧ '"' ∉ operator :=
      List.all_iff_forall_prop.mp (by decide)
    rcases hcases with rfl | rfl
    · exact (hnone _ hknown).1 hc
    · exact (hnone _ hknown).2 hc

-- Only a string begins like one, if a blank is behind it.
theorem opening?_of_stands (h : Stands rest kind text) (hkind : kind ≠ .string)
    (lexemes : List Lexeme) : opening? (text ++ spaced lexemes) = none := by
  by_contra hsome
  obtain ⟨o, ho⟩ := Option.ne_none_iff_exists'.mp hsome
  obtain ⟨letters, behind, heq, -, hletters, hquote, -⟩ := opening?_split ho
  rcases List.append_eq_append_iff.mp heq with ⟨more, rfl, hmore⟩ | ⟨more, rfl, hmore⟩
  · cases lexemes with
    | nil => simp [spaced] at hmore
    | cons l lexemes =>
      rw [spaced_cons] at hmore
      cases more with
      | nil =>
        rw [List.nil_append, List.cons.injEq] at hmore
        rw [← hmore.1] at hquote
        cases hquote
      | cons c more =>
        rw [List.cons_append, List.cons.injEq] at hmore
        have hletter := isAsciiLetter_of_isStringPrefix hletters c (by simp)
        rw [← hmore.1] at hletter
        cases hletter
  · cases more with
    | nil =>
      rw [List.nil_append] at hmore
      cases lexemes with
      | nil => simp [spaced] at hmore
      | cons l lexemes =>
        rw [spaced_cons, List.cons.injEq] at hmore
        rw [hmore.1] at hquote
        cases hquote
    | cons c more =>
      rw [List.cons_append, List.cons.injEq] at hmore
      have hnot := quote_not_mem h hkind c (by simp)
      rw [← hmore.1, hquote] at hnot
      cases hnot

theorem Sparse.tail (h : Sparse (token :: tokens)) : Sparse tokens := by
  cases token with
  | string => exact h
  | number value =>
    cases value with
    | int => exact h.2
    | _ => exact h.elim
  | symbol => exact h.2
  | _ => exact h.elim

-- Behind the whole of an integer comes no more of its number.
theorem nil_of_number {left : Text} (hleft : ∀ c ∈ left, IsNumberPart c)
    (h : tokensUpTo fuel (left ++ rest) = some tokens)
    (hclosed : ∀ token ∈ tokens.head?, token = .symbol .closeParen) : left = [] := by
  cases left with
  | nil => rfl
  | cons c left =>
    exfalso
    have hc := hleft c List.mem_cons_self
    have hgap := not_isGap_of_isNumberPart hc
    cases fuel with
    | zero => cases h
    | succ fuel =>
      simp only [List.cons_append, tokensUpTo, hgap, Bool.false_eq_true, if_false] at h
      obtain ⟨⟨token, behind⟩, htoken, hothers⟩ := Option.bind_eq_some_iff.mp h
      obtain ⟨others, -, heq⟩ := Option.bind_eq_some_iff.mp hothers
      cases heq
      obtain rfl := hclosed token rfl
      have hparen := symbol?_simple (c := ')') (readBy_of_token? htoken) (by decide)
      rw [(List.cons.inj hparen).1] at hc
      exact absurd hc (by decide)

theorem fits_of_int (hstands : Stands rest l.kind l.text) (hkind : l.kind ≠ .string)
    {others : List Token}
    (h : token? (l.text ++ spaced lexemes) = some (.number (.int n), t))
    (hothers : tokensUpTo fuel t = some others)
    (hclosed : ∀ token ∈ others.head?, token = .symbol .closeParen) :
    t = spaced lexemes ∧ Fits l (.number (.int n)) := by
  obtain ⟨hstarts, hnumber⟩ := readBy_of_token? h
  obtain ⟨c, text, heq, hparts, hdigit, hread⟩ := number?_int hstarts hnumber
  obtain ⟨hkind, hmade⟩ : l.kind = .number ∧ ∀ d ∈ l.text, IsNumberPart d := by
    obtain ⟨d, behind, htext, -⟩ := exists_head hstands
    rw [htext] at heq hstands ⊢
    obtain rfl := (List.cons.inj heq).1
    exact number_of_digit hstands hkind hdigit
  obtain ⟨left, hleft, rfl⟩ : ∃ left, l.text = c :: text ++ left ∧ t = left ++ spaced lexemes := by
    rcases List.append_eq_append_iff.mp heq with ⟨more, hmore, hspaced⟩ | ⟨left, hleft, ht⟩
    · -- A blank is no part of the number.
      obtain rfl : more = [] := by
        cases more with
        | nil => rfl
        | cons d more =>
          exfalso
          have hd := hparts d (by rw [hmore]; simp)
          cases lexemes with
          | nil => simp [spaced] at hspaced
          | cons next lexemes =>
            rw [spaced_cons, List.cons_append, List.cons.injEq] at hspaced
            rw [← hspaced.1] at hd
            exact absurd hd (by decide)
      exact ⟨[], by rw [hmore]; simp, hspaced.symm⟩
    · exact ⟨left, hleft, ht⟩
  have hnil : left = [] := by
    refine nil_of_number (fun d hd => hmade d ?_) hothers hclosed
    rw [hleft]
    exact List.mem_append_right _ hd
  subst hnil
  rw [List.append_nil] at hleft
  rw [← hleft] at hread
  exact ⟨rfl, .int hkind hleft hdigit hread⟩

-- An operator that begins like one of the symbols, and is read as that, is no longer than it.
theorem nil_of_symbol {c : Char} (hknown : c :: text ∈ Lexeme.operators)
    (h : symbol? (c :: text ++ rest) = some (.symbol symbol, t))
    (hsimple : (c, symbol) ∈ simpleSymbols) : text = [] := by
  have hcases : ∀ operator ∈ Lexeme.operators, ∀ p ∈ simpleSymbols, operator.head? = some p.1 →
      operator = [p.1] ∨ operator ∈ [['+', '='], ['-', '='], ['-', '>']] := by decide
  have hother : ∀ p ∈ simpleSymbols, p.2 ≠ .augmented ∧ p.2 ≠ .arrow := by decide
  obtain ⟨haugmented, harrow⟩ := hother _ hsimple
  rcases hcases _ hknown _ hsimple rfl with hsame | hlonger
  · exact (List.cons.inj hsame).2
  · simp only [List.mem_cons, List.cons.injEq, List.not_mem_nil, or_false] at hlonger
    rcases hlonger with ⟨rfl, rfl⟩ | ⟨rfl, rfl⟩ | ⟨rfl, rfl⟩
    · have hread : symbol? ('+' :: '=' :: rest) = some (.symbol .augmented, rest) := rfl
      cases hread.symm.trans h
      exact absurd rfl haugmented
    · have hread : symbol? ('-' :: '=' :: rest) = some (.symbol .augmented, rest) := rfl
      cases hread.symm.trans h
      exact absurd rfl haugmented
    · have hread : symbol? ('-' :: '>' :: rest) = some (.symbol .arrow, rest) := rfl
      cases hread.symm.trans h
      exact absurd rfl harrow

theorem fits_of_token? (hstands : Stands rest l.kind l.text)
    (hfirm : l.kind = .string → Firm l.text) {others : List Token}
    (h : token? (l.text ++ spaced lexemes) = some (token, t))
    (hothers : tokensUpTo fuel t = some others) (hsparse : Sparse (token :: others)) :
    t = spaced lexemes ∧ Fits l token := by
  by_cases hkind : l.kind = .string
  · have hspaced := stands_spaced hstands lexemes
    rw [hkind] at hspaced
    rw [token?_string hspaced (hfirm hkind)] at h
    obtain ⟨content, hcontent, heq⟩ := Option.map_eq_some_iff.mp h
    cases heq
    exact ⟨rfl, .string hkind (hfirm hkind) hcontent⟩
  obtain ⟨c, text, htext, -⟩ := exists_head hstands
  have hread := readBy_of_token? h
  cases token with
  | string => exact absurd (opening?_of_stands hstands hkind lexemes) hread
  | name => exact hsparse.elim
  | keyword => exact hsparse.elim
  | number value =>
    cases value with
    | int => exact fits_of_int hstands hkind h hothers hsparse.1
    | _ => exact hsparse.elim
  | symbol symbol =>
    obtain ⟨⟨d, hsimple⟩, -⟩ := hsparse
    have hwhole := symbol?_simple hread hsimple
    rw [htext] at hread hwhole hstands
    rw [List.cons_append, List.cons.injEq] at hwhole
    obtain ⟨rfl, rfl⟩ := hwhole
    obtain ⟨hoperator, hknown⟩ := operator_of_simple hstands hkind hsimple
    obtain rfl := nil_of_symbol hknown hread hsimple
    exact ⟨rfl, .symbol hoperator htext hsimple⟩

-- The tokens of a row of lexemes with blanks between them.
theorem fits_of_tokensUpTo (hstands : ∀ l ∈ lexemes, ∃ rest, Stands rest l.kind l.text)
    (hfirm : ∀ l ∈ lexemes, l.kind = .string → Firm l.text)
    (h : tokensUpTo fuel (spaced lexemes) = some tokens) (hsparse : Sparse tokens) :
    List.Forall₂ Fits lexemes tokens := by
  induction lexemes generalizing fuel tokens with
  | nil =>
    rw [spaced, List.flatMap_nil, tokensUpTo] at h
    cases h
    exact .nil
  | cons l lexemes ih =>
    rw [List.forall_mem_cons] at hstands hfirm
    obtain ⟨⟨rest, hl⟩, hlexemes⟩ := hstands
    rw [spaced_cons] at h
    cases fuel with
    | zero => cases h
    | succ fuel =>
      rw [tokensUpTo, if_pos (by decide)] at h
      obtain ⟨c, text, htext, hgap, -⟩ := exists_head hl
      cases fuel with
      | zero =>
        rw [htext] at h
        cases h
      | succ fuel =>
        have htokens : ∃ token t others, token? (l.text ++ spaced lexemes) = some (token, t) ∧
            tokensUpTo fuel t = some others ∧ token :: others = tokens := by
          rw [htext] at h ⊢
          simp only [List.cons_append, tokensUpTo, hgap, Bool.false_eq_true, if_false] at h
          obtain ⟨⟨token, t⟩, htoken, hothers⟩ := Option.bind_eq_some_iff.mp h
          obtain ⟨others, hothers, heq⟩ := Option.bind_eq_some_iff.mp hothers
          exact ⟨token, t, others, htoken, hothers, Option.some.inj heq⟩
        obtain ⟨token, t, others, htoken, hothers, rfl⟩ := htokens
        obtain ⟨rfl, hfits⟩ := fits_of_token? hl hfirm.1 htoken hothers hsparse
        exact .cons hfits (ih hlexemes hfirm.2 hothers hsparse.tail)

end

end Ghostwriter.Grammar

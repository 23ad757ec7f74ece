import Ghostwriter.Proofs.Directive.Payload
import Ghostwriter.Proofs.Grammar.Literal

/-!
Payloads in writing: options and a prompt are written as items with semicolons between them, and
what is read from such a payload is what was written.
-/

namespace Ghostwriter

open Ghostwriter.Grammar Ghostwriter.Lexeme Ghostwriter.Text

-- A lexeme without its place.
abbrev Word := LexemeKind × Text

namespace Lexeme

def word (l : Lexeme) : Word := (l.kind, l.text)

-- A text within one row that the scanner takes for these words.
inductive Spells : Text → List Word → Prop
  | nil : Spells [] []
  | next {gaps text rest : Text} {kind : LexemeKind} {words : List Word} (nonempty : text ≠ [])
      (taken : piece (gaps ++ (text ++ rest)) = .lexeme gaps.length text.length kind)
      (inside : kind ≠ .newline) (behind : Spells rest words) :
      Spells (gaps ++ (text ++ rest)) ((kind, text) :: words)

section

variable {row fuel column : Nat} {t rest gaps : Text} {words : List Word} {state : ScanState}
  {c : Char}

theorem scanRest_of_spells (h : Spells rest words) (hfuel : rest.length ≤ fuel) :
    ∃ lexemes, lexemes.map word = words ∧ scanRest row fuel column rest state =
      (lexemes, { state with depth := state.depth + Directive.depth lexemes }) := by
  induction h generalizing fuel column state with
  | nil => exact ⟨[], rfl, by rw [scanRest_nil]; simp⟩
  | @next gaps text rest kind words hne hpiece hkind _ ih =>
    have hlength := List.length_pos_of_ne_nil hne
    simp only [List.length_append] at hfuel
    obtain ⟨fuel, rfl⟩ : ∃ more, fuel = more + 1 := ⟨fuel - 1, by omega⟩
    let l : Lexeme := ⟨kind, text, ⟨row, column + gaps.length⟩,
      ⟨row, column + gaps.length + text.length⟩⟩
    obtain ⟨lexemes, hwords, hscan⟩ := @ih fuel (column + gaps.length + text.length)
      { state with depth := state.depth + l.depthChange } (by omega)
    refine ⟨l :: lexemes, by rw [List.map_cons, hwords]; rfl, ?_⟩
    have htake : ((gaps ++ (text ++ rest)).drop gaps.length).take text.length = text := by simp
    have hdrop : (gaps ++ (text ++ rest)).drop (gaps.length + text.length) = rest := by
      rw [← List.drop_drop, List.drop_left, List.drop_left]
    have hsettle : settleKind state.depth kind = kind := settleKind_of_ne hkind
    simp only [scanRest, hpiece, htake, hdrop, hsettle]
    rw [show (⟨kind, text, ⟨row, column + gaps.length⟩,
      ⟨row, column + gaps.length + text.length⟩⟩ : Lexeme) = l from rfl, hscan]
    simp [Int.add_assoc]

theorem lines_of_row (hne : t ≠ []) (hrow : '\n' ∉ t) : lines t = [t] := by
  induction t with
  | nil => exact absurd rfl hne
  | cons c t ih =>
    rw [List.mem_cons, not_or] at hrow
    cases t with
    | nil => simp [lines, Ne.symm hrow.1]
    | cons d t =>
      rw [lines, if_neg (Ne.symm hrow.1), ih (by simp) hrow.2]

-- A text of one row with balanced brackets.
theorem scan_of_spells (h : Spells (c :: t) words) (hrow : '\n' ∉ c :: t)
    (hhead : isGap c = false ∧ c ≠ '#' ∧ c ≠ '\r')
    (hbalanced : ∀ lexemes : List Lexeme, lexemes.map word = words → Directive.depth lexemes = 0) :
    ∃ lexemes, lexemes.map word = words ∧
      scan (c :: t) = .ok (lexemes ++ closing 1 (c :: t) [0]) := by
  obtain ⟨lexemes, hwords, hscan⟩ :=
    @scanRest_of_spells 1 (c :: t).length 0 (c :: t) words .start h le_rfl
  refine ⟨lexemes, hwords, ?_⟩
  have hleading : leadingColumn 0 (c :: t) = (0, 0) := by
    have hgap := hhead.1
    simp only [isGap, Bool.or_eq_false_iff, decide_eq_false_iff_not] at hgap
    rw [leadingColumn]
    · exact fun _ heq => hgap.1.1 (List.cons.inj heq).1
    · exact fun _ heq => hgap.1.2 (List.cons.inj heq).1
    · exact fun _ heq => hgap.2 (List.cons.inj heq).1
  have hbreak : c ≠ '\n' := by
    rintro rfl
    simp at hrow
  have hmargin : indentation 1 0 0 (c :: t) [0] = .ok ([], [0]) := rfl
  have hfirst : scanFirst 1 (c :: t) .start = .ok (lexemes, .start) := by
    have hdepth := hbalanced lexemes hwords
    simp only [scanFirst, hleading, List.drop_zero, hhead.2, hbreak, decide_false, Bool.or_self,
      Bool.false_eq_true, if_false]
    rw [show ScanState.start.margins = [0] from rfl, hmargin]
    simp only [List.nil_append, Except.ok.injEq, Prod.mk.injEq]
    rw [show { ScanState.start with margins := [0] } = ScanState.start from rfl, hscan, hdepth]
    exact ⟨rfl, rfl⟩
  have hlines : scanLines 1 [c :: t] .start = .ok (lexemes, .start) := by
    rw [scanLines, scanLine, show ScanState.start.openString = none from rfl]
    simp only [hfirst]
    simp [ScanState.start, scanLines]
  rw [scan, lines_of_row (by simp) hrow]
  simp only [hlines]
  rfl

end

section

variable {gaps body rest : Text} {c : Char}

theorem piece_gaps_append (hgaps : ∀ c ∈ gaps, isGap c = true)
    (hbody : ∀ c ∈ body.head?, isGap c = false) :
    piece (gaps ++ body) = pieceAfter gaps.length body := by
  have htake : (gaps ++ body).takeWhile isGap = gaps := by
    rw [List.takeWhile_append_of_pos hgaps]
    cases body with
    | nil => simp
    | cons c body => simp [hbody c rfl]
  rw [piece, htake, List.drop_left]

theorem Spells.word {kind : LexemeKind} {words : List Word} (gaps : Text)
    (hgaps : ∀ c ∈ gaps, isGap c = true) (hhead : ∃ c others, body = c :: others ∧ isGap c = false)
    (hkind : kind ≠ .newline)
    (htaken : pieceAfter gaps.length (body ++ rest) = .lexeme gaps.length body.length kind)
    (h : Spells rest words) : Spells (gaps ++ (body ++ rest)) ((kind, body) :: words) := by
  obtain ⟨c, others, rfl, hgap⟩ := hhead
  refine .next (List.cons_ne_nil c others) ?_ hkind h
  rw [piece_gaps_append hgaps (by simpa using hgap), htaken]

-- An operator of one character before a text that makes no longer one of it.
theorem pieceAfter_operator (hc : c ∈ ['(', ')', ';', '='])
    (hrest : c = '=' → rest.head? = some ' ') (blanks : Nat) :
    pieceAfter blanks (c :: rest) = .lexeme blanks 1 .operator := by
  have hkind : ∀ c ∈ ['(', ')', ';', '='], isAsciiLetter c = false ∧ isQuote c = false ∧
      isDigit c = false ∧ c ≠ '.' ∧ c ≠ '\\' ∧ c ≠ '#' ∧ ∀ t, breakLength (c :: t) = 0 := by
    simp [isAsciiLetter, isQuote, isDigit, breakLength]
  obtain ⟨hletter, hquote, hdigit, hdot, hslash, hhash, hbreak⟩ := hkind c hc
  have hlength : operatorLength (c :: rest) = 1 := by
    simp only [List.mem_cons, List.not_mem_nil, or_false] at hc
    rcases hc with rfl | rfl | rfl | rfl
    · rfl
    · rfl
    · rfl
    · cases rest with
      | nil => rfl
      | cons d rest =>
        obtain rfl : d = ' ' := by simpa using hrest rfl
        rfl
  simp only [pieceAfter, hslash, hhash, opening?_eq_none hletter hquote, hbreak, hlength,
    numberLength_eq_zero hdigit hdot]
  rfl

theorem Spells.operator {words : List Word} (hc : c ∈ ['(', ')', ';']) (h : Spells rest words) :
    Spells (c :: rest) ((.operator, [c]) :: words) := by
  have hother : c ∈ ['(', ')', ';', '='] ∧ isGap c = false ∧ c ≠ '=' := by
    simp only [List.mem_cons, List.not_mem_nil, or_false] at hc
    rcases hc with rfl | rfl | rfl <;> decide
  refine Spells.word [] (by simp) ⟨c, [], rfl, hother.2.1⟩ (by simp) ?_ h
  exact pieceAfter_operator hother.1 (fun heq => absurd heq hother.2.2) 0

theorem pieceAfter_name (key : Options.Key) (blanks : Nat) (rest : Text) :
    pieceAfter blanks (key.text ++ ' ' :: rest) = .lexeme blanks key.text.length .name := by
  cases key <;> rfl

theorem pieceAfter_quoted (t : Text) (hrest : rest.head?.all (!isQuote ·) = true) (blanks : Nat) :
    pieceAfter blanks (quoted t ++ rest) = .lexeme blanks (quoted t).length .string := by
  obtain ⟨quote, hquote, hquoted⟩ := exists_quoted t
  have hhead : rest.head? ≠ some quote := by
    intro hhead
    simp [hhead, hquote] at hrest
  have hopening := opening?_escaped hquote t hhead
  have hcloses := closes_escaped hquote t rest
  have hprints := isPrintable_of_mem_quoted t
  generalize t.flatMap (escapeChar quote) = body at *
  have hrow : Within body.length (body ++ quote :: rest) := by
    rw [Within, List.take_left]
    intro hmem
    have hbreak := hprints '\n' (by simp [hquoted, hmem])
    cases hbreak
  have hline := firstLine?_of_closes hquote hcloses hrow
  have hkind : quote ≠ '\\' ∧ quote ≠ '#' := by
    have hcases : quote = '\'' ∨ quote = '"' := by simpa [isQuote] using hquote
    rcases hcases with rfl | rfl <;> decide
  have hsplit : quoted t ++ rest = quote :: (body ++ quote :: rest) := by simp [hquoted]
  rw [hsplit]
  simp [pieceAfter, hkind, hopening, plainString, hline, hquoted, Nat.add_comm 1]

theorem pieceAfter_decimal (n : Nat) (hrest : Ended rest) (blanks : Nat) :
    pieceAfter blanks (decimal n ++ rest) = .lexeme blanks (decimal n).length .number := by
  have hlength := numberLength_decimal n hrest
  obtain ⟨c, digits, hn⟩ := List.exists_cons_of_ne_nil (decimal_ne_nil n)
  obtain ⟨hletter, hquote, hslash, hhash⟩ :=
    of_mem_decimal (p := fun c => isAsciiLetter c = false ∧ isQuote c = false ∧ c ≠ '\\' ∧
      c ≠ '#') (by decide) n c (by simp [hn])
  rw [hn, List.cons_append] at hlength ⊢
  simp [pieceAfter, hslash, hhash, opening?_eq_none hletter hquote, hlength]

end

end Lexeme

namespace Options

-- The keys that are set, in this order, with their values.
def settings (options : Options) (order : List Key) : List (Key × Value) :=
  order.filterMap fun key => (options.value? key).map (key, ·)

-- Options whose values a directive may set, with no number that is too long for a literal.
structure Writable (options : Options) : Prop where
  admitted : ∀ key v, options.value? key = some v → key.Admits v
  short : ∀ n, options.maxCompletionTokens = some n → (decimal n).length ≤ maxDecimalDigits

variable {options : Options} {order : List Key} {key : Key}

theorem settings_cons (key : Key) (order : List Key) :
    options.settings (key :: order) =
      ((options.value? key).map (key, ·)).toList ++ options.settings order := by
  unfold settings
  cases h : options.value? key <;> simp [h]

theorem value?_of_mem_settings {s : Key × Value} (h : s ∈ options.settings order) :
    options.value? s.1 = some s.2 := by
  obtain ⟨key, -, hkey⟩ := List.mem_filterMap.mp h
  obtain ⟨v, hv, rfl⟩ := Option.map_eq_some_iff.mp hkey
  exact hv

theorem map_fst_settings :
    (options.settings order).map Prod.fst =
      order.filter fun key => (options.value? key).isSome := by
  induction order with
  | nil => rfl
  | cons key order ih =>
    rw [settings_cons, List.map_append, ih, List.filter_cons]
    cases options.value? key <;> simp

theorem lookup_settings (key : Key) (order : List Key) :
    (options.settings order).lookup key = if key ∈ order then options.value? key else none := by
  induction order with
  | nil => rfl
  | cons first order ih =>
    rw [settings_cons, List.lookup_append, ih]
    by_cases hsame : key = first
    · subst hsame
      cases options.value? key <;> simp
    · have hmem : key ∈ first :: order ↔ key ∈ order := by simp [hsame]
      have hother : List.lookup key ((options.value? first).map (first, ·)).toList = none := by
        cases options.value? first <;> simp [List.lookup_cons, beq_false_of_ne hsame]
      simp only [hother, Option.none_or, hmem]

end Options

namespace Directive

-- What may stand behind an item of a payload.
def Stops (rest : Text) : Prop := rest.head? = some ';' ∨ rest.head? = some ')'

-- A literal of one lexeme for this value, which is how the value is written.
structure Denotes (literal : Text) (kind : LexemeKind) (v : Value) : Prop where
  write : v.write? = some literal
  taken : ∀ blanks rest, Stops rest →
    pieceAfter blanks (literal ++ rest) = .lexeme blanks literal.length kind
  kind : kind = .string ∨ kind = .number
  prints : ∀ c ∈ literal, isPrintable c = true
  head : ∃ c others, literal = c :: others ∧ isGap c = false
  value : Value.ofText literal = .ok v

section

variable {rest : Text} {key : Options.Key} {v : Value}

theorem Stops.ended (h : Stops rest) : Ended rest := by
  intro c hc
  rcases h with h | h
  all_goals
    rw [h] at hc
    cases hc
    decide

theorem Stops.not_quote (h : Stops rest) : rest.head?.all (!isQuote ·) = true := by
  rcases h with h | h <;> rw [h] <;> rfl

theorem denotes_quoted (t : Text) : Denotes (quoted t) .string (.text t) where
  write := rfl
  taken blanks rest h := pieceAfter_quoted t h.not_quote blanks
  kind := .inl rfl
  prints := isPrintable_of_mem_quoted t
  head := by
    obtain ⟨quote, hquote, hquoted⟩ := exists_quoted t
    have hcases : quote = '\'' ∨ quote = '"' := by simpa [isQuote] using hquote
    exact ⟨quote, _, hquoted, by rcases hcases with rfl | rfl <;> rfl⟩
  value := Value.ofText_quoted t

theorem denotes_decimal {n : Nat} (h : (decimal n).length ≤ maxDecimalDigits) :
    Denotes (decimal n) .number (.int n) where
  write := by
    have hsign : ¬ (n : Int) < 0 := by omega
    simp [Value.write?, Value.writeInt?, Nat.not_lt.mpr h, hsign]
  taken blanks rest hrest := pieceAfter_decimal n hrest.ended blanks
  kind := .inr rfl
  prints := of_mem_decimal (by decide) n
  head := by
    obtain ⟨c, digits, hn⟩ := List.exists_cons_of_ne_nil (decimal_ne_nil n)
    exact ⟨c, digits, hn, of_mem_decimal (p := (isGap · = false)) (by decide) n c (by simp [hn])⟩
  value := Value.ofText_decimal h

theorem exists_denotes {options : Options} (h : options.Writable)
    (hv : options.value? key = some v) : ∃ literal kind, Denotes literal kind v := by
  cases h.admitted key v hv with
  | model => exact ⟨_, _, denotes_quoted _⟩
  | @seed n hsmall =>
    have hdigits : (decimal n).length ≤ 19 :=
      (Nat.length_toDigits_le_iff (by decide) (by decide)).mpr (hsmall.trans_lt (by decide))
    exact ⟨_, _, denotes_decimal (hdigits.trans (by decide))⟩
  | @maxCompletionTokens n =>
    exact ⟨_, _, denotes_decimal (h.short n (by simpa [Options.value?] using hv))⟩

end

-- An item of a payload in writing, with the words that the scanner takes it for. No word of it is a
-- bracket or a semicolon.
structure Item (text : Text) (words : List Word) : Prop where
  spells : ∀ gaps rest more, (∀ c ∈ gaps, isGap c = true) → Stops rest → Spells rest more →
    Spells (gaps ++ (text ++ rest)) (words ++ more)
  flat : ∀ w ∈ words, w.1 = .operator → w.2 = ['=']
  content : ∀ w ∈ words, IsContent w.1
  row : '\n' ∉ text
  nonempty : words ≠ []

-- The item that sets a key to a value in writing.
def settingText (key : Options.Key) (literal : Text) : Text := key.text ++ " = ".toList ++ literal

def settingWords (key : Options.Key) (literal : Text) (kind : LexemeKind) : List Word :=
  [(.name, key.text), (.operator, ['=']), (kind, literal)]

section

variable {literal rest gaps : Text} {kind : LexemeKind} {v : Value} {more : List Word}

theorem spells_literal (h : Denotes literal kind v) (hgaps : ∀ c ∈ gaps, isGap c = true)
    (hrest : Stops rest) (hmore : Spells rest more) :
    Spells (gaps ++ (literal ++ rest)) ((kind, literal) :: more) := by
  refine Spells.word gaps hgaps h.head ?_ (h.taken _ _ hrest) hmore
  rcases h.kind with rfl | rfl <;> simp

theorem item_prompt (t : Text) : Item (quoted t) [(.string, quoted t)] where
  spells gaps rest more hgaps hrest hmore := spells_literal (denotes_quoted t) hgaps hrest hmore
  flat := by simp
  content := by simp [IsContent]
  row hmem := by cases isPrintable_of_mem_quoted t _ hmem
  nonempty := by simp

theorem item_setting (key : Options.Key) (h : Denotes literal kind v) :
    Item (settingText key literal) (settingWords key literal kind) where
  spells gaps rest more hgaps hrest hmore := by
    have hliteral := @spells_literal _ _ [' '] _ _ _ h (by decide) hrest hmore
    have hequals := Spells.word [' '] (by decide) ⟨'=', [], rfl, rfl⟩ (by simp)
      (pieceAfter_operator (by simp) (fun _ => rfl) 1) hliteral
    have hname : ∃ c others, key.text = c :: others ∧ isGap c = false := by
      cases key <;> exact ⟨_, _, rfl, rfl⟩
    have hall := Spells.word gaps hgaps hname (by simp) (pieceAfter_name key _ _) hequals
    simpa [settingText, settingWords] using hall
  flat := by
    have hkind : kind ≠ .operator := by rcases h.kind with rfl | rfl <;> simp
    simp [settingWords, hkind]
  content := by
    have hkind : IsContent kind := by rcases h.kind with rfl | rfl <;> simp [IsContent]
    simp [settingWords, hkind]
    simp [IsContent]
  row := by
    have hliteral : '\n' ∉ literal := fun hmem => by cases h.prints _ hmem
    have hkey : '\n' ∉ key.text := by cases key <;> decide
    simp [settingText, hkey, hliteral]
  nonempty := by simp [settingWords]

end

-- Words of items with a semicolon between neighbours.
def joinWords : List (List Word) → List Word
  | [] => []
  | [words] => words
  | words :: rest => words ++ (.operator, [';']) :: joinWords rest

section

variable {texts : List Text} {items : List (List Word)} {sep rest : Text} {more words : List Word}
  {lexemes : List Lexeme}

theorem joinWords_cons (words : List Word) (h : items ≠ []) :
    joinWords (words :: items) = words ++ (.operator, [';']) :: joinWords items := by
  obtain ⟨first, others, rfl⟩ := List.exists_cons_of_ne_nil h
  rfl

theorem joinWords_concat_nil (h : items ≠ []) :
    joinWords (items ++ [[]]) = joinWords items ++ [(.operator, [';'])] := by
  induction items with
  | nil => exact absurd rfl h
  | cons words items ih =>
    rw [List.cons_append, joinWords_cons _ (by simp)]
    cases items with
    | nil => rfl
    | cons first others =>
      rw [ih (by simp), joinWords_cons words (List.cons_ne_nil first others), List.append_assoc]
      rfl

theorem Item.exists_words (h : List.Forall₂ Item texts items) {text : Text} (hmem : text ∈ texts) :
    ∃ words ∈ items, Item text words := by
  induction h with
  | nil => cases hmem
  | cons hitem _ ih =>
    rcases List.mem_cons.mp hmem with rfl | hmem
    · exact ⟨_, List.mem_cons_self, hitem⟩
    · exact (ih hmem).imp fun words hwords => ⟨List.mem_cons_of_mem _ hwords.1, hwords.2⟩

theorem Item.exists_text (h : List.Forall₂ Item texts items) (words : List Word)
    (hmem : words ∈ items) : ∃ text, Item text words := by
  induction h with
  | nil => cases hmem
  | cons hitem _ ih =>
    rcases List.mem_cons.mp hmem with rfl | hmem
    · exact ⟨_, hitem⟩
    · exact ih hmem

theorem spells_joinWith (gaps : Text) (hitems : List.Forall₂ Item texts items) (hne : texts ≠ [])
    (hgaps : ∀ c ∈ gaps, isGap c = true) (hsep : ∀ c ∈ sep, isGap c = true) (hrest : Stops rest)
    (hmore : Spells rest more) :
    Spells (gaps ++ (joinWith (';' :: sep) texts ++ rest)) (joinWords items ++ more) := by
  induction hitems generalizing gaps with
  | nil => exact absurd rfl hne
  | @cons text words texts items hitem hitems ih =>
    cases hitems with
    | nil => exact hitem.spells gaps rest more hgaps hrest hmore
    | cons hfirst hothers =>
      have hbehind := ih sep (by simp) hsep
      have hsemicolon := Spells.operator (c := ';') (by simp) hbehind
      have hall := hitem.spells gaps _ _ hgaps (.inl rfl) hsemicolon
      rw [joinWords_cons _ (by simp), joinWith]
      · simpa using hall
      · simp

theorem mem_joinWords {w : Word} (h : w ∈ joinWords items) :
    w = (.operator, [';']) ∨ ∃ words ∈ items, w ∈ words := by
  induction items with
  | nil => cases h
  | cons words items ih =>
    cases items with
    | nil => exact .inr ⟨words, by simp, h⟩
    | cons first others =>
      rw [joinWords_cons words (List.cons_ne_nil first others), List.mem_append, List.mem_cons] at h
      rcases h with h | h | h
      · exact .inr ⟨words, by simp, h⟩
      · exact .inl h
      · exact (ih h).imp_right fun ⟨words', hmem, hw⟩ => ⟨words', List.mem_cons_of_mem _ hmem, hw⟩

theorem mem_joinWith {c : Char} {t : Text} (h : c ∈ joinWith t texts) :
    c ∈ t ∨ ∃ text ∈ texts, c ∈ text := by
  induction texts with
  | nil => cases h
  | cons text texts ih =>
    cases texts with
    | nil => exact .inr ⟨text, by simp, h⟩
    | cons first others =>
      rw [joinWith, List.mem_append, List.mem_append] at h
      · rcases h with (h | h) | h
        · exact .inr ⟨text, by simp, h⟩
        · exact .inl h
        · rcases ih h with hbetween | ⟨text', hmem, hc⟩
          · exact .inl hbetween
          · exact .inr ⟨text', List.mem_cons_of_mem _ hmem, hc⟩
      · simp

-- Lexemes without brackets, and without a semicolon.
theorem depth_of_flat (h : ∀ l ∈ lexemes, l.kind = .operator → l.text = ['='] ∨ l.text = [';']) :
    depth lexemes = 0 := by
  induction lexemes with
  | nil => rfl
  | cons l lexemes ih =>
    rw [List.forall_mem_cons] at h
    have hflat : l.depthChange = 0 := by
      by_cases hkind : l.kind = .operator
      · rcases h.1 hkind with htext | htext <;>
          simp [Lexeme.depthChange, Lexeme.opens, Lexeme.closes, Lexeme.isOperator, htext]
      · exact depthChange_of_kind hkind
    rw [depth_cons, hflat, ih h.2, Int.add_zero]

theorem whole_of_flat (h : ∀ l ∈ lexemes, l.kind = .operator → l.text = ['=']) :
    Whole lexemes := by
  rintro before l after rfl -
  by_cases hkind : l.kind = .operator
  · simp [Lexeme.isOperator, h l (by simp) hkind]
  · simp [Lexeme.isOperator, hkind]

-- The items come apart at the semicolons.
theorem exists_runs (hitems : ∀ words ∈ items, ∀ w ∈ words, w.1 = .operator → w.2 = ['='])
    (hne : items ≠ []) (hwords : lexemes.map word = joinWords items) :
    ∃ runs, Runs lexemes runs ∧ runs.map (List.map word) = items := by
  induction items generalizing lexemes with
  | nil => exact absurd rfl hne
  | cons words items ih =>
    rw [List.forall_mem_cons] at hitems
    have hflat {item : List Lexeme} (hitem : item.map word = words) :
        ∀ l ∈ item, l.kind = .operator → l.text = ['='] := fun l hl =>
      hitems.1 l.word (hitem ▸ List.mem_map_of_mem hl)
    cases items with
    | nil =>
      exact ⟨[lexemes], .last (whole_of_flat (hflat hwords)), congrArg (fun ws => [ws]) hwords⟩
    | cons first others =>
      rw [joinWords_cons words (List.cons_ne_nil first others)] at hwords
      obtain ⟨item, behind, rfl, hitem, hbehind⟩ := List.map_eq_append_iff.mp hwords
      obtain ⟨semicolon, rest, rfl, hsemicolon, hrest⟩ := List.map_eq_cons_iff.mp hbehind
      obtain ⟨runs, hruns, hmap⟩ := ih hitems.2 (by simp) hrest
      have hbalanced : depth item = 0 :=
        depth_of_flat fun l hl hkind => .inl (hflat hitem l hl hkind)
      have hmark : semicolon.isOperator [';'] = true := by
        obtain ⟨hkind, htext⟩ := Prod.mk.inj hsemicolon
        simp [Lexeme.isOperator, hkind, htext]
      exact ⟨item :: runs, .next (whole_of_flat (hflat hitem)) hbalanced hmark hruns,
        by rw [List.map_cons, hitem, hmap]⟩

theorem isLayout_of_isContent {l : Lexeme} (h : IsContent l.kind) : l.isLayout = false := by
  rcases h with h | h | h | h | h <;> simp [Lexeme.isLayout, h]

-- Words within parentheses.
def inParens (words : List Word) : List Word :=
  (.operator, ['(']) :: (words ++ [(.operator, [')'])])

theorem exists_inParens (h : lexemes.map word = inParens words) :
    ∃ opener inner closer, lexemes = opener :: (inner ++ [closer]) ∧
      opener.word = (.operator, ['(']) ∧ inner.map word = words ∧
      closer.word = (.operator, [')']) := by
  obtain ⟨opener, rest, rfl, hopener, hrest⟩ := List.map_eq_cons_iff.mp h
  obtain ⟨inner, behind, rfl, hinner, hbehind⟩ := List.map_eq_append_iff.mp hrest
  obtain ⟨closer, rfl, hcloser⟩ := List.map_eq_singleton_iff.mp hbehind
  exact ⟨opener, inner, closer, rfl, hopener, hinner, hcloser⟩

theorem depth_inParens (hflat : ∀ w ∈ words, w.1 = .operator → w.2 = ['='] ∨ w.2 = [';'])
    (h : lexemes.map word = inParens words) : depth lexemes = 0 := by
  obtain ⟨opener, inner, closer, rfl, hopener, rfl, hcloser⟩ := exists_inParens h
  have hup : opener.depthChange = 1 := by
    obtain ⟨hkind, htext⟩ := Prod.mk.inj hopener
    simp [Lexeme.depthChange, Lexeme.opens, Lexeme.isOperator, hkind, htext]
  have hdown : closer.depthChange = -1 := by
    obtain ⟨hkind, htext⟩ := Prod.mk.inj hcloser
    simp [Lexeme.depthChange, Lexeme.opens, Lexeme.closes, Lexeme.isOperator, hkind, htext]
  have hinner : depth inner = 0 :=
    depth_of_flat fun l hl => hflat l.word (List.mem_map_of_mem hl)
  simp [depth_append, hup, hdown, hinner]

-- A last item that is empty is left out.
theorem map_word_items {runs : List (List Lexeme)} {closed : Bool} (hne : items ≠ [])
    (hfull : [] ∈ items → items = [[]])
    (h : runs.map (List.map word) = items ++ if closed then [[]] else []) :
    (if 1 < runs.length ∧ runs.getLast? = some [] then runs.dropLast else runs).map
      (List.map word) = items := by
  cases closed with
  | true =>
    obtain ⟨runs, last, rfl, hruns, hlast⟩ := List.map_eq_append_iff.mp h
    obtain ⟨item, rfl, hitem⟩ := List.map_eq_singleton_iff.mp hlast
    obtain rfl := List.map_eq_nil_iff.mp hitem
    have hlength : 1 < (runs ++ [[]]).length := by
      have hpos := List.length_pos_of_ne_nil hne
      rw [← hruns, List.length_map] at hpos
      simpa using hpos
    rw [if_pos ⟨hlength, List.getLast?_concat⟩, List.dropLast_concat, hruns]
  | false =>
    replace h : runs.map (List.map word) = items := by simpa using h
    rw [if_neg, h]
    rintro ⟨hlength, hlast⟩
    have hmem : [] ∈ items := by
      rw [← h]
      exact List.mem_map.mpr ⟨[], List.mem_of_getLast? hlast, rfl⟩
    have hone := congrArg List.length (h.trans (hfull hmem))
    rw [List.length_map, List.length_singleton] at hone
    omega

-- What is scanned within parentheses on one row comes apart into its items.
theorem itemized_of_spells {payload : Text} (closed : Bool) (hrow : '\n' ∉ payload)
    (hne : items ≠ []) (hfull : [] ∈ items → items = [[]])
    (hflat : ∀ words ∈ items, ∀ w ∈ words, w.1 = .operator → w.2 = ['='])
    (hcontent : ∀ words ∈ items, ∀ w ∈ words, IsContent w.1)
    (h : Spells (payload ++ [')'])
      (joinWords (items ++ if closed then [[]] else []) ++ [(.operator, [')'])])) :
    ∃ read, Itemized payload read ∧ read.map (List.map word) = items := by
  generalize hall : (items ++ if closed then [[]] else []) = all at h
  have hmem {words : List Word} (hwords : words ∈ all) : words ∈ items ∨ words = [] := by
    rw [← hall, List.mem_append] at hwords
    refine hwords.imp_right fun hlast => ?_
    split at hlast
    · exact List.mem_singleton.mp hlast
    · cases hlast
  have hflat : ∀ words ∈ all, ∀ w ∈ words, w.1 = .operator → w.2 = ['='] := by
    intro words hwords
    rcases hmem hwords with hwords | rfl
    · exact hflat words hwords
    · simp
  have hkind : ∀ w ∈ joinWords all, IsContent w.1 ∧
      (w.1 = .operator → w.2 = ['='] ∨ w.2 = [';']) := by
    intro w hw
    rcases mem_joinWords hw with rfl | ⟨words, hwords, hw⟩
    · simp [IsContent]
    · refine ⟨?_, fun hop => .inl (hflat words hwords w hw hop)⟩
      rcases hmem hwords with hwords | rfl
      · exact hcontent words hwords w hw
      · cases hw
  have hopen : Spells ('(' :: (payload ++ [')'])) (inParens (joinWords all)) :=
    Spells.operator (by simp) h
  obtain ⟨lexemes, hlexemes, hscan⟩ := scan_of_spells hopen (by simpa using hrow) (by decide)
    fun _ => depth_inParens fun w hw => (hkind w hw).2
  have hkept : ∀ l ∈ lexemes, l.isLayout = false := by
    intro l hl
    refine isLayout_of_isContent ?_
    have hw : l.word ∈ inParens (joinWords all) := hlexemes ▸ List.mem_map_of_mem hl
    simp only [inParens, List.mem_cons, List.mem_append, List.not_mem_nil, or_false] at hw
    rcases hw with hw | hw | hw
    · simp [IsContent, (Prod.mk.inj hw).1]
    · exact (hkind _ hw).1
    · simp [IsContent, (Prod.mk.inj hw).1]
  have hfilter : (lexemes ++ closing 1 ('(' :: (payload ++ [')'])) [0]).filter (!·.isLayout) =
      lexemes := by
    rw [List.filter_append, List.filter_eq_self.mpr (by simpa using hkept),
      List.filter_eq_nil_iff.mpr fun l hl => by simp [isLayout_of_mem_closing hl],
      List.append_nil]
  obtain ⟨opener, inner, closer, rfl, -, hinner, -⟩ := exists_inParens hlexemes
  obtain ⟨runs, hruns, hmap⟩ := exists_runs hflat (by simp [← hall, hne]) hinner
  refine ⟨_, ⟨_, runs, hscan, ?_, rfl⟩, map_word_items hne hfull (hmap.trans hall.symm)⟩
  rw [hfilter, List.drop_one, List.tail_cons, List.dropLast_concat]
  exact hruns

end

namespace Payload

-- The items of a payload in writing: the keys that are set, in this order, then the prompt.
def itemTexts (payload : Payload) (order : List Options.Key) : List Text :=
  ((payload.options.settings order).filterMap fun s => s.2.write?.map (settingText s.1)) ++
    (payload.prompt.map quoted).toList

def promptWords (payload : Payload) : List (List Word) :=
  (payload.prompt.map fun t => [(.string, quoted t)]).toList

-- A payload in writing, with so many blanks behind each semicolon between two items, and with a
-- semicolon at the end or not.
def write (payload : Payload) (order : List Options.Key) (blanks : Nat) (closed : Bool) : Text :=
  joinWith (';' :: List.replicate blanks ' ') (payload.itemTexts order) ++
    if closed then [';'] else []

variable {payload : Payload} {order : List Options.Key} {texts : List Text}
  {items : List (List Word)}

-- What the written items are: their words, and what each of them sets.
theorem exists_items {settings : List (Options.Key × Value)}
    (h : ∀ s ∈ settings, ∃ literal kind, Denotes literal kind s.2) :
    ∃ items, List.Forall₂ Item
        (settings.filterMap fun s => s.2.write?.map (settingText s.1)) items ∧
      List.Forall₂ (fun words s => ∃ literal kind, Denotes literal kind s.2 ∧
        words = settingWords s.1 literal kind) items settings := by
  induction settings with
  | nil => exact ⟨[], .nil, .nil⟩
  | cons s settings ih =>
    rw [List.forall_mem_cons] at h
    obtain ⟨⟨literal, kind, hs⟩, hothers⟩ := h
    obtain ⟨items, hitems, hsettings⟩ := ih hothers
    refine ⟨settingWords s.1 literal kind :: items, ?_, .cons ⟨literal, kind, hs, rfl⟩ hsettings⟩
    rw [List.filterMap_cons_some (by rw [hs.write]; rfl)]
    exact .cons (item_setting s.1 hs) hitems

-- The items of a payload in writing are the items that are read from it.
theorem itemized_write (hitems : List.Forall₂ Item (payload.itemTexts order) items) (blanks : Nat)
    (closed : Bool) :
    ∃ read, Itemized (payload.write order blanks closed) read ∧
      read.map (List.map word) = if items = [] then [[]] else items := by
  have hstops : Stops ((if closed then [';'] else []) ++ [')']) := by
    cases closed
    · exact .inr rfl
    · exact .inl rfl
  have hclose : Spells [')'] [(.operator, [')'])] :=
    Spells.operator (by simp) .nil
  have hend : Spells ((if closed then [';'] else []) ++ [')'])
      ((if closed then [(.operator, [';'])] else []) ++ [(.operator, [')'])]) := by
    cases closed with
    | false => exact hclose
    | true =>
      exact Spells.operator (by simp) hclose
  have hsep : ∀ c ∈ List.replicate blanks ' ', isGap c = true := by
    intro c hc
    rw [(List.mem_replicate.mp hc).2]
    rfl
  have hrow : '\n' ∉ payload.write order blanks closed := by
    rw [write, List.mem_append, not_or]
    constructor
    · intro hmem
      rcases mem_joinWith hmem with hmem | ⟨text, htext, hmem⟩
      · rcases List.mem_cons.mp hmem with hmem | hmem
        · cases hmem
        · cases (List.mem_replicate.mp hmem).2
      · obtain ⟨words, -, hitem⟩ := Item.exists_words hitems htext
        exact hitem.row hmem
    · cases closed <;> simp
  by_cases hnil : items = []
  · subst hnil
    have hnone : payload.itemTexts order = [] := List.forall₂_nil_right_iff.mp hitems
    rw [if_pos rfl]
    refine itemized_of_spells closed hrow (by simp) (fun _ => rfl) (by simp) (by simp) ?_
    rw [write, hnone]
    cases closed <;> exact hend
  · have htexts : payload.itemTexts order ≠ [] := fun hnone => by
      rw [hnone] at hitems
      exact hnil (List.forall₂_nil_left_iff.mp hitems)
    have hwords : joinWords (items ++ if closed then [[]] else []) =
        joinWords items ++ if closed then [(.operator, [';'])] else [] := by
      cases closed with
      | false => simp
      | true => exact joinWords_concat_nil hnil
    rw [if_neg hnil]
    refine itemized_of_spells closed hrow hnil (fun hmem => ?_) (fun words hwords => ?_)
      (fun words hwords => ?_) ?_
    · obtain ⟨text, hitem⟩ := Item.exists_text hitems _ hmem
      exact absurd rfl hitem.nonempty
    · obtain ⟨text, hitem⟩ := Item.exists_text hitems _ hwords
      exact hitem.flat
    · obtain ⟨text, hitem⟩ := Item.exists_text hitems _ hwords
      exact hitem.content
    · rw [hwords, write, List.append_assoc, List.append_assoc]
      exact spells_joinWith [] hitems htexts (by simp) hsep hstops hend

theorem sets_of_words {item : List Lexeme} {key : Options.Key} {literal : Text} {kind : LexemeKind}
    {v : Value} (hitem : item.map word = settingWords key literal kind)
    (h : Denotes literal kind v) (hadmits : key.Admits v) : Sets item key v := by
  obtain ⟨name, behind, rfl, hname, hbehind⟩ := List.map_eq_cons_iff.mp hitem
  obtain ⟨equals, value, rfl, hequals, hvalue⟩ := List.map_eq_cons_iff.mp hbehind
  obtain ⟨l, rfl, hl⟩ := List.map_eq_singleton_iff.mp hvalue
  obtain ⟨hkind, htext⟩ := Prod.mk.inj hequals
  refine ⟨name, equals, [l], rfl, (Prod.mk.inj hname).1, (Prod.mk.inj hname).2, ?_, ?_, hadmits⟩
  · simp [Lexeme.isOperator, hkind, htext]
  · have hsource : literalSource [l] = literal := (Prod.mk.inj hl).2
    rw [hsource, h.value]

theorem prompts_of_words {item : List Lexeme} {t : Text}
    (hitem : item.map word = [(.string, quoted t)]) : Prompts item t := by
  obtain ⟨l, rfl, hl⟩ := List.map_eq_singleton_iff.mp hitem
  have hsource : literalSource [l] = quoted t := (Prod.mk.inj hl).2
  exact ⟨by simp, by simpa using (Prod.mk.inj hl).1, by rw [hsource, Value.ofText_quoted]⟩

-- What the items that are read say.
theorem says_of_words {read : List (List Lexeme)} (hoptions : payload.options.Writable)
    (horder : order.Perm Options.Key.all)
    (hwords : List.Forall₂ (fun words s => ∃ literal kind, Denotes literal kind s.2 ∧
      words = settingWords s.1 literal kind) items (payload.options.settings order))
    (h : read.map (List.map word) = items ++ payload.promptWords) : Says read payload := by
  obtain ⟨options, prompts, rfl, hmap, hprompts⟩ := List.map_eq_append_iff.mp h
  refine ⟨options, prompts, payload.options.settings order, rfl, ?_, ?_, fun key => ?_, ?_⟩
  · rw [← hmap, List.forall₂_map_left_iff] at hwords
    have hadmits : ∀ s ∈ payload.options.settings order, s.1.Admits s.2 := fun s hs =>
      hoptions.admitted s.1 s.2 (Options.value?_of_mem_settings hs)
    generalize payload.options.settings order = settings at *
    clear h hmap
    induction hwords with
    | nil => exact .nil
    | cons hitem _ ih =>
      rw [List.forall_mem_cons] at hadmits
      obtain ⟨literal, kind, hdenotes, hitem⟩ := hitem
      exact .cons (sets_of_words hitem hdenotes hadmits.1) (ih hadmits.2)
  · rw [Options.map_fst_settings]
    exact (horder.nodup_iff.mpr (by decide)).filter _
  · have hmem : key ∈ order := horder.mem_iff.mpr (by cases key <;> decide)
    rw [Options.lookup_settings, if_pos hmem]
  · unfold promptWords at hprompts
    cases hprompt : payload.prompt with
    | none =>
      rw [hprompt] at hprompts
      rw [List.map_eq_nil_iff.mp hprompts]
      exact .nil
    | some t =>
      rw [hprompt] at hprompts
      obtain ⟨item, rfl, hitem⟩ := List.map_eq_singleton_iff.mp hprompts
      exact .cons (prompts_of_words hitem) .nil

-- Whatever options and prompt are written, in whatever order of the keys, are read back, and no
-- others.
theorem ofText_write (payload : Payload) (order : List Options.Key) (blanks : Nat) (closed : Bool)
    (hoptions : payload.options.Writable) (horder : order.Perm Options.Key.all) :
    ofText (payload.write order blanks closed) = .ok payload := by
  obtain ⟨items, hitems, hwords⟩ := exists_items fun s hs =>
    exists_denotes hoptions (Options.value?_of_mem_settings hs)
  have hall : List.Forall₂ Item (payload.itemTexts order) (items ++ payload.promptWords) := by
    refine List.rel_append hitems ?_
    unfold promptWords
    cases payload.prompt with
    | none => exact .nil
    | some t => exact .cons (item_prompt t) .nil
  obtain ⟨read, hread, hmap⟩ := itemized_write hall blanks closed
  split_ifs at hmap with hnil
  · -- no item at all: nothing is set
    obtain ⟨item, rfl, hitem⟩ := List.map_eq_singleton_iff.mp hmap
    obtain rfl := List.map_eq_nil_iff.mp hitem
    have hempty : payload = empty := says_nil.mp <|
      says_of_words hoptions horder hwords (by rw [hnil]; rfl)
    rw [ofText, items_eq_ok_iff.mpr hread, hempty]
    rfl
  · have hne : read ≠ [[]] := by
      rintro rfl
      obtain ⟨text, hitem⟩ := Item.exists_text hall [] (by rw [← hmap]; simp)
      exact hitem.nonempty rfl
    rw [ofText_eq hread hne]
    exact addItems_eq_ok_iff.mpr (says_of_words hoptions horder hwords hmap)

-- A model with both quotes and a backslash, and a prompt over two lines.
def spokenPayload : Payload :=
  ⟨⟨some "a'\"\\;".toList, some 0, some 7⟩, some "write\n# it".toList⟩

theorem ofText_write_spoken :
    ofText (spokenPayload.write [.seed, .model, .maxCompletionTokens] 1 true) = .ok spokenPayload :=
  ofText_write spokenPayload _ 1 true
    ⟨by
      intro key v hv
      cases key <;> cases hv
      · exact .model (by decide)
      · exact .seed (by decide)
      · exact .maxCompletionTokens (by decide),
      by
      rintro n ⟨⟩
      decide⟩
    (by decide)

end Payload

end Directive

end Ghostwriter

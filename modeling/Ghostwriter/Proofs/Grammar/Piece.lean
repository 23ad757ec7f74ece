import Ghostwriter.Proofs.Grammar.OpenString
import Mathlib.Data.Bool.AllAny

/-!
Piece by piece: what the tolerant scanner takes off a row takes the reader from one place outside
strings to the next, and changes the number of open brackets as the lexeme says.
-/

namespace Ghostwriter.Grammar

open Ghostwriter.Lexeme Ghostwriter.Splice Ghostwriter.Text

-- The characters that outside strings are more to the reader than part of a row.
def special : List Char := ['\'', '"', '#', '\\', '\n', '(', '[', '\x7b', ')', ']', '\x7d']

-- The reader is outside strings, and what follows makes no tripled quote of two quotes before it.
def Outside (s : RowState) (t : Text) : Prop :=
  match s.mode with
  | .code | .joined => True
  | .emptied quote => t.head? ≠ some quote
  | .comment => ∀ c ∈ t.head?, c = '\n'
  | _ => False

-- The state behind a text that stands outside strings, with that many brackets open before it.
def Follows (depth : Int) (t : Text) (last : RowState) : Prop :=
  ∃ s : RowState, s.depth = depth ∧ Outside s t ∧ Reaches s t last

-- A row has its line feed, unless it is the last one. Behind that the reader is in no string, and
-- no backslash joins a row to it.
def RowEnds (t : Text) (last : RowState) : Prop :=
  '\n' ∈ t ∨ ¬ last.InString ∧ last.mode ≠ .backslash ∧ last.mode ≠ .joined

section

variable {s next last : RowState} {c : Char} {t u : Text} {mark : Option Mark} {opened n : Nat}
  {depth : Int}

theorem RowEnds.drop (h : RowEnds t last) (hwithin : Within n t) : RowEnds (t.drop n) last :=
  h.imp_left (mem_drop_of_within hwithin)

theorem RowEnds.closed (h : RowEnds t last) : '\n' ∈ t ∨ ¬ last.InString := h.imp_right And.left

theorem RowEnds.mem (h : RowEnds t last) (hstring : last.InString) : '\n' ∈ t :=
  h.resolve_right fun hclosed => hclosed.1 hstring

theorem follows_of_code (h : Reaches ⟨.code, opened⟩ t last) : Follows opened t last :=
  ⟨⟨.code, opened⟩, rfl, trivial, h⟩

theorem Outside.step?_eq (h : Outside s (c :: t)) : s.step? c = s.codeStep? c := by
  obtain ⟨mode, opened⟩ := s
  cases mode with
  | code => rfl
  | joined => rfl
  | emptied quote =>
    have hne : c ≠ quote := fun heq => h (by rw [heq]; rfl)
    simp [RowState.step?, hne]
  | comment =>
    obtain rfl : c = '\n' := h c rfl
    rfl
  | _ => exact absurd h id

theorem codeStep?_of_not_mem (hc : c ∉ special) :
    s.codeStep? c = some (some (.keep c), ⟨.code, s.depth⟩) := by
  simp only [special, List.mem_cons, List.not_mem_nil, or_false, not_or] at hc
  simp [RowState.codeStep?, hc]

theorem Follows.cons (h : Follows depth (c :: t) last) :
    ∃ (s : RowState) (mark : Option Mark) (next : RowState),
      s.depth = depth ∧ s.codeStep? c = some (mark, next) ∧ Reaches next t last := by
  obtain ⟨s, hdepth, houtside, hreaches⟩ := h
  obtain ⟨mark, next, hstep, hrest⟩ := reaches_cons.mp hreaches
  exact ⟨s, mark, next, hdepth, houtside.step?_eq ▸ hstep, hrest⟩

theorem Follows.plain (hu : ∀ c ∈ u, c ∉ special) (h : Follows depth (u ++ t) last) :
    Follows depth t last := by
  induction u with
  | nil => exact h
  | cons c u ih =>
    rw [List.forall_mem_cons] at hu
    obtain ⟨s, mark, next, rfl, hstep, hrest⟩ := Follows.cons h
    rw [codeStep?_of_not_mem hu.1] at hstep
    cases hstep
    exact ih hu.2 (follows_of_code hrest)

theorem mode_of_comment (hu : '\n' ∉ u) (h : Reaches ⟨.comment, opened⟩ (u ++ t) last) :
    Reaches ⟨.comment, opened⟩ t last := by
  induction u with
  | nil => exact h
  | cons c u ih =>
    rw [List.mem_cons, not_or] at hu
    obtain ⟨mark, next, hstep, hrest⟩ := reaches_cons.mp h
    simp only [RowState.step?, Ne.symm hu.1, if_false, Option.some.injEq, Prod.mk.injEq] at hstep
    obtain ⟨-, rfl⟩ := hstep
    exact ih hu.2 hrest

theorem Follows.comment (hu : '\n' ∉ u) (ht : ∀ c ∈ t.head?, c = '\n')
    (h : Follows depth ('#' :: u ++ t) last) : Follows depth t last := by
  obtain ⟨s, mark, next, hdepth, hstep, hrest⟩ := Follows.cons h
  cases hstep
  exact ⟨⟨.comment, s.depth⟩, hdepth, ht, mode_of_comment hu hrest⟩

theorem Follows.endRow (h : Follows depth ['\n'] last) : last.mode = .code ∧ last.depth = depth := by
  obtain ⟨s, mark, next, hdepth, hstep, hrest⟩ := h.cons
  cases hstep
  rw [reaches_nil.mp hrest]
  exact ⟨rfl, hdepth⟩

theorem Follows.continuation (h : Follows depth ['\\', '\n'] last) :
    last.mode = .joined ∧ last.depth = depth := by
  obtain ⟨s, mark, next, hdepth, hstep, hrest⟩ := h.cons
  cases hstep
  obtain ⟨mark', next', hstep', hrest'⟩ := reaches_cons.mp hrest
  cases hstep'
  rw [reaches_nil.mp hrest']
  exact ⟨rfl, hdepth⟩

end

section

variable {body : Text} {o : Opening} {last : RowState} {depth : Int}

theorem not_special_of {p : Char → Prop} (hp : ∀ d ∈ special, ¬ p d) {c : Char} (h : p c) :
    c ∉ special := fun hmem => hp c hmem h

-- The letters before a string change nothing.
theorem Follows.opened (hopening : opening? body = some o) (h : Follows depth body last) :
    ∃ opened : Nat, opened = depth ∧
      Reaches ⟨.opened o.quote, opened⟩ (body.drop (o.letters + 1)) last := by
  obtain ⟨letters, rest, rfl, hlength, hletters, hquote, -⟩ := opening?_cases hopening
  have hplain : ∀ c ∈ letters, c ∉ special := fun c hc =>
    not_special_of (p := (isAsciiLetter · = true)) (List.all_iff_forall_prop.mp (by decide))
      (hletters c hc)
  obtain ⟨s, mark, next, hdepth, hstep, hrest⟩ := (h.plain hplain).cons
  have hquote' : (o.quote = '\'' || o.quote = '"') = true := hquote
  rw [RowState.codeStep?, if_pos hquote'] at hstep
  cases hstep
  refine ⟨s.depth, hdepth, ?_⟩
  rwa [hlength, ← List.drop_drop, List.drop_left, List.drop_one, List.tail_cons]

theorem follows_firstLine {quote : Char} {rest : Text} {opened : Nat}
    (hquote : isQuote quote = true) (hrow : IsRow rest) (hend : RowEnds rest last)
    (hreturn : '\r' ∉ rest) (htwo : rest.take 2 ≠ [quote, quote])
    (h : Reaches ⟨.opened quote, opened⟩ rest last) :
    (∃ n, firstLine? quote rest = some (.closed n) ∧ Follows opened (rest.drop n) last) ∨
      ∃ n, firstLine? quote rest = some (.continued n) ∧
        last = ⟨.string quote false 0, opened⟩ := by
  cases rest with
  | nil =>
    have hstring : last.InString := by
      rw [reaches_nil.mp h]
      trivial
    cases hend.mem hstring
  | cons c t =>
    by_cases hc : c = quote
    · subst hc
      refine .inl ⟨1, firstLine?_quote hquote t, ⟨.emptied c, opened⟩, rfl, ?_, reaches_emptied h⟩
      intro hhead
      cases t with
      | nil => cases hhead
      | cons d t =>
        cases hhead
        exact htwo rfl
    · rcases firstLine_cases hquote hrow hend.closed hreturn (reaches_opened hc h) with
        ⟨n, hline, hrest⟩ | ⟨n, hline, hlast⟩
      · exact .inl ⟨n, hline, follows_of_code hrest⟩
      · exact .inr ⟨n, hline, hlast⟩

theorem follows_plainString {blanks : Nat} (hrow : IsRow body) (hend : RowEnds body last)
    (hreturn : '\r' ∉ body) (hopening : opening? body = some o) (hplain : o.tripled = false)
    (h : Follows depth body last) :
    (∃ n, plainString blanks o body = some (.lexeme blanks n .string) ∧
      Follows depth (body.drop n) last) ∨
      (plainString blanks o body = some (.openString blanks o) ∧
        last.mode = .string o.quote o.tripled 0 ∧ last.depth = depth) := by
  obtain ⟨hquote, hwithin⟩ := opening?_within hopening
  obtain ⟨opened, rfl, hopened⟩ := h.opened hopening
  have hwithin : Within (o.letters + 1) body := by simpa [Opening.length, hplain] using hwithin
  have htwo : (body.drop (o.letters + 1)).take 2 ≠ [o.quote, o.quote] := by
    obtain ⟨letters, rest, rfl, hletters, -, -, htripled⟩ := opening?_cases hopening
    rw [hletters, ← List.drop_drop, List.drop_left, List.drop_one, List.tail_cons]
    exact fun htake => Bool.false_ne_true (hplain ▸ htripled.mpr htake)
  rcases follows_firstLine hquote (hrow.drop _) (hend.drop hwithin)
      (fun hmem => hreturn (List.mem_of_mem_drop hmem)) htwo hopened with
    ⟨n, hline, hrest⟩ | ⟨n, hline, hlast⟩
  · refine .inl ⟨o.letters + 1 + n, by rw [plainString, hline]; rfl, ?_⟩
    rwa [← List.drop_drop]
  · refine .inr ⟨?_, by rw [hlast, hplain], by rw [hlast]⟩
    rw [plainString, hline, ← hplain]
    rfl

theorem follows_tripledString {blanks : Nat} (hrow : IsRow body) (hend : RowEnds body last)
    (hopening : opening? body = some o) (htripled : o.tripled = true)
    (h : Follows depth body last) :
    (∃ n, tripledString blanks o body = .lexeme blanks n .string ∧
      Follows depth (body.drop n) last) ∨
      (tripledString blanks o body = .openString blanks o ∧
        last.mode = .string o.quote o.tripled 0 ∧ last.depth = depth) := by
  obtain ⟨hquote, hwithin⟩ := opening?_within hopening
  obtain ⟨opened, rfl, hopened⟩ := h.opened hopening
  have hlength : o.length = o.letters + 1 + 2 := by simp [Opening.length, htripled]
  have hrest : Reaches ⟨.string o.quote true 0, opened⟩ (body.drop o.length) last := by
    obtain ⟨letters, rest, rfl, hletters, -, -, htwo⟩ := opening?_cases hopening
    have hquotes := htwo.mp htripled
    rw [← List.take_append_drop 2 rest, hquotes] at hopened ⊢
    rw [hletters, ← List.drop_drop, List.drop_left, List.drop_one, List.tail_cons] at hopened
    rw [hlength, hletters, ← List.drop_drop, ← List.drop_drop, List.drop_left]
    exact reaches_tripled hopened
  unfold tripledString
  cases hclose : closeTripleLength? o.quote (body.drop o.length) with
  | some n =>
    refine .inl ⟨o.length + n, rfl, ?_⟩
    rw [← List.drop_drop]
    exact follows_of_code (tripled_closed (.inl rfl) hclose hrest)
  | none =>
    have hbreak := (hend.drop hwithin).mem (tripled_unclosed (.inl rfl) (hrow.drop _) hclose hrest)
    have hlast := tripled_open hquote (.inl rfl) (hrow.drop _) hbreak hclose hrest
    exact .inr ⟨rfl, by rw [hlast, htripled], by rw [hlast]⟩

end

section

variable {c : Char} {t rest : Text} {last : RowState} {n : Nat} {depth : Int}

theorem not_isGap_of_special : ∀ d ∈ special, ¬ isGap d = true :=
  List.all_iff_forall_prop.mp (by decide)

theorem not_special_of_isGap (h : isGap c = true) : c ∉ special :=
  not_special_of (p := (isGap · = true)) not_isGap_of_special h

theorem Follows.made {p : Char → Prop} (hp : ∀ d ∈ special, ¬ p d) (hmade : Made p n t)
    (h : Follows depth t last) : Follows depth (t.drop n) last := by
  rw [← List.take_append_drop n t] at h
  exact h.plain fun c hc => not_special_of hp (hmade c hc)

theorem opening?_of_isQuote (h : isQuote c = true) (t : Text) :
    ∃ o, opening? (c :: t) = some o := by
  have hletters : ((c :: t).take 3).takeWhile (fun d => !isQuote d) = [] := by simp [h]
  unfold opening?
  simp only [hletters]
  match t with
  | [] => exact ⟨_, by simp [isStringPrefix, openingAfter, h]; rfl⟩
  | [d] => exact ⟨_, by simp [isStringPrefix, openingAfter, h]; rfl⟩
  | d :: e :: t => exact ⟨_, by simp [isStringPrefix, openingAfter, h]; rfl⟩

end

-- The change of the depth with a piece of text.
def changeOf (kind : LexemeKind) (text : Text) : Int :=
  (⟨kind, text, default, default⟩ : Lexeme).depthChange

theorem changeOf_of_kind {kind : LexemeKind} (h : kind ≠ .operator) (text : Text) :
    changeOf kind text = 0 := depthChange_of_kind h

theorem changeOf_of_plain (kind : LexemeKind) {text : Text} (h : ∀ c ∈ text, c ∉ special) :
    changeOf kind text = 0 := by
  have hne {c : Char} (hc : c ∈ special) : text ≠ [c] := by
    rintro rfl
    exact h c (List.mem_singleton_self c) hc
  simp [changeOf, Lexeme.depthChange, Lexeme.opens, Lexeme.closes, Lexeme.isOperator,
    @hne '(' (by decide), @hne '[' (by decide), @hne '\x7b' (by decide), @hne ')' (by decide),
    @hne ']' (by decide), @hne '\x7d' (by decide)]

-- The next piece of a row, and the state behind the row: either the row goes on outside strings, or
-- the piece is its last.
inductive NextPiece (depth : Int) (rest : Text) (last : RowState) : Piece → Prop
  | nothing (missing : '\n' ∉ rest) (same : last.depth = depth) : NextPiece depth rest last .nothing
  | lexeme {blanks length : Nat} {kind : LexemeKind} (other : kind ≠ .newline)
      (behind : Follows (depth + changeOf kind ((rest.drop blanks).take length))
        (rest.drop (blanks + length)) last) :
      NextPiece depth rest last (.lexeme blanks length kind)
  | newline {blanks length : Nat} (ended : last.mode = .code) (same : last.depth = depth) :
      NextPiece depth rest last (.lexeme blanks length .newline)
  | continuation (joined : last.mode = .joined) (same : last.depth = depth) :
      NextPiece depth rest last .continuation
  | openString {blanks : Nat} {o : Opening} (goes : last.mode = .string o.quote o.tripled 0)
      (same : last.depth = depth) : NextPiece depth rest last (.openString blanks o)

section

variable {c : Char} {gaps body rest t : Text} {last : RowState} {depth : Int}

theorem eq_break_of_breakLength (hrow : IsRow body) (hreturn : '\r' ∉ body)
    (h : breakLength body ≠ 0) : body = ['\n'] := by
  unfold breakLength at h
  split at h
  · rename_i rest
    by_contra hne
    exact hrow.head_ne (fun hnil => hne (by rw [hnil])) rfl
  · simp at hreturn
  · exact absurd rfl h

theorem not_slash_of_follows (hbreak : breakLength t = 0) (hend : RowEnds ('\\' :: t) last) :
    ¬ Follows depth ('\\' :: t) last := by
  intro h
  obtain ⟨s, mark, next, -, hstep, hrest⟩ := h.cons
  cases hstep
  cases t with
  | nil =>
    rw [reaches_nil.mp hrest] at hend
    rcases hend with hmem | ⟨-, hmode, -⟩
    · simp at hmem
    · exact hmode rfl
  | cons c t =>
    obtain ⟨mark, next, hstep, -⟩ := reaches_cons.mp hrest
    by_cases hc : c = '\n'
    · subst hc
      cases hbreak
    · simp [RowState.step?, hc] at hstep

-- An operator is a bracket, or it is nothing special.
theorem operator_cases {operator : Text} (hmem : operator ∈ Lexeme.operators) :
    (∀ c ∈ operator, c ∉ special) ∨
      (∃ c, operator = [c] ∧ changeOf .operator [c] = 1 ∧
        ∀ s : RowState, s.codeStep? c = some (some (.keep c), ⟨.code, s.depth + 1⟩)) ∨
      ∃ c, operator = [c] ∧ changeOf .operator [c] = -1 ∧ ∀ s : RowState, s.codeStep? c =
        if s.depth = 0 then none else some (some (.keep c), ⟨.code, s.depth - 1⟩) := by
  have hcases : ∀ operator ∈ Lexeme.operators, operator.all (· ∉ special) = true ∨
      operator ∈ [['('], ['['], ['\x7b']] ∨ operator ∈ [[')'], [']'], ['\x7d']] := by
    decide +kernel
  rcases hcases operator hmem with hplain | hbracket | hbracket
  · exact .inl (List.all_iff_forall_prop.mp hplain)
  · simp only [List.mem_cons, List.not_mem_nil, or_false] at hbracket
    refine .inr (.inl ?_)
    rcases hbracket with rfl | rfl | rfl <;> exact ⟨_, rfl, rfl, fun _ => rfl⟩
  · simp only [List.mem_cons, List.not_mem_nil, or_false] at hbracket
    refine .inr (.inr ?_)
    rcases hbracket with rfl | rfl | rfl <;> exact ⟨_, rfl, rfl, fun _ => rfl⟩

theorem follows_operator (hoperator : operatorLength body ≠ 0) (h : Follows depth body last) :
    Follows (depth + changeOf .operator (body.take (operatorLength body)))
      (body.drop (operatorLength body)) last := by
  obtain ⟨operator, t, hmem, rfl, hlength⟩ :=
    (operatorLength_cases body).resolve_left fun hzero => hoperator hzero.1
  rw [hlength, List.take_left, List.drop_left]
  rcases operator_cases hmem with hplain | ⟨c, rfl, hchange, hopen⟩ | ⟨c, rfl, hchange, hclose⟩
  · rw [changeOf_of_plain _ hplain, Int.add_zero]
    exact h.plain hplain
  · obtain ⟨s, mark, next, rfl, hstep, hrest⟩ := Follows.cons h
    rw [hopen] at hstep
    cases hstep
    rw [hchange]
    exact follows_of_code hrest
  · obtain ⟨s, mark, next, rfl, hstep, hrest⟩ := Follows.cons h
    rw [hclose] at hstep
    rw [hchange]
    split at hstep
    · cases hstep
    · cases hstep
      have hbehind := follows_of_code hrest
      rwa [show ((s.depth - 1 : Nat) : Int) = s.depth + -1 by omega] at hbehind

-- A character that the scanner leaves over is nothing special.
theorem not_special_of_stray (hopening : opening? (c :: t) = none) (hhash : c ≠ '#')
    (hbreak : breakLength (c :: t) = 0) (hslash : c = '\\' → breakLength t = 0)
    (hoperator : operatorLength (c :: t) = 0) (hend : RowEnds (c :: t) last)
    (h : Follows depth (c :: t) last) : c ∉ special := by
  have hquote : isQuote c = false := by
    by_contra hquote
    obtain ⟨o, ho⟩ := opening?_of_isQuote (by simpa using hquote) t
    rw [hopening] at ho
    cases ho
  have hbracket : ¬ [c] ∈ Lexeme.operators := by
    rcases operatorLength_cases (c :: t) with ⟨-, hnone⟩ | ⟨operator, rest, hmem, -, hlength⟩
    · exact fun hmem => hnone [c] hmem (by simp)
    · have hne : ∀ operator ∈ Lexeme.operators, operator.length ≠ 0 := by decide +kernel
      exact absurd (hlength ▸ hoperator) (hne operator hmem)
  have hslash : c ≠ '\\' := by
    rintro rfl
    exact not_slash_of_follows (hslash rfl) hend h
  have hbreak : c ≠ '\n' := by
    rintro rfl
    cases hbreak
  have hcases : ∀ d ∈ special,
      isQuote d = true ∨ d = '#' ∨ d = '\\' ∨ d = '\n' ∨ [d] ∈ Lexeme.operators :=
    List.all_iff_forall_prop.mp (by decide +kernel)
  intro hspecial
  rcases hcases c hspecial with h | h | h | h | h
  · rw [hquote] at h
    cases h
  · exact hhash h
  · exact hslash h
  · exact hbreak h
  · exact hbracket h

theorem follows_comment (hreturn : '\r' ∉ '#' :: t) (h : Follows depth ('#' :: t) last) :
    Follows depth (('#' :: t).drop (commentLength ('#' :: t))) last := by
  have hbreaks := breaksFirst_comment ('#' :: t)
  have hlength : commentLength ('#' :: t) =
      (t.takeWhile fun c => c ≠ '\r' && c ≠ '\n').length + 1 := by simp [commentLength]
  have hfirst : ∀ c ∈ (('#' :: t).drop (commentLength ('#' :: t))).head?, c = '\n' := by
    intro c hc
    refine (hbreaks c hc).resolve_left ?_
    rintro rfl
    exact hreturn (List.mem_of_mem_drop (List.mem_of_mem_head? hc))
  rw [hlength, List.drop_succ_cons, drop_takeWhile] at hfirst ⊢
  refine Follows.comment (u := t.takeWhile fun c => c ≠ '\r' && c ≠ '\n') ?_ hfirst ?_
  · intro hmem
    simpa using List.mem_takeWhile_imp hmem
  · rwa [List.cons_append, List.takeWhile_append_dropWhile]

theorem NextPiece.behind {n : Nat} {kind : LexemeKind} (hkind : kind ≠ .newline)
    (h : Follows (depth + changeOf kind (body.take n)) (body.drop n) last) :
    NextPiece depth (gaps ++ body) last (.lexeme gaps.length n kind) :=
  .lexeme hkind (by rwa [← List.drop_drop, List.drop_left])

theorem NextPiece.behind_same {n : Nat} {kind : LexemeKind} (hkind : kind ≠ .newline)
    (hother : kind ≠ .operator) (h : Follows depth (body.drop n) last) :
    NextPiece depth (gaps ++ body) last (.lexeme gaps.length n kind) :=
  .behind hkind (by rwa [changeOf_of_kind hother, Int.add_zero])

theorem nextPiece_string {o : Opening} (hrow : IsRow body) (hend : RowEnds body last)
    (hreturn : '\r' ∉ body) (hopening : opening? body = some o) (h : Follows depth body last)
    (other : Piece) :
    NextPiece depth (gaps ++ body) last
      (if o.tripled then tripledString gaps.length o body
      else match plainString gaps.length o body with
        | some piece => piece
        | none => other) := by
  split
  · rename_i htripled
    rcases follows_tripledString hrow hend hopening htripled h with
      ⟨n, hpiece, hbehind⟩ | ⟨hpiece, hlast, hsame⟩
    · rw [hpiece]
      exact .behind_same (by simp) (by simp) hbehind
    · rw [hpiece]
      exact .openString hlast hsame
  · rename_i htripled
    rcases follows_plainString hrow hend hreturn hopening (by simpa using htripled) h with
      ⟨n, hpiece, hbehind⟩ | ⟨hpiece, hlast, hsame⟩
    · rw [hpiece]
      exact .behind_same (by simp) (by simp) hbehind
    · rw [hpiece]
      exact .openString hlast hsame

theorem nextPiece_word (h : Follows depth body last) :
    NextPiece depth (gaps ++ body) last (.lexeme gaps.length (wordLength body) (wordKind body)) := by
  have hword : ∀ d ∈ special, ¬ isWordPart d = true := List.all_iff_forall_prop.mp (by decide)
  have hmade : Made (isWordPart · = true) (wordLength body) body := Made.takeWhile _
  refine .behind (fun heq => ?_) ?_
  · have hcontent := wordKind_isContent body
    rw [heq] at hcontent
    simp [IsContent] at hcontent
  · rw [changeOf_of_plain _ fun d hd => not_special_of hword (hmade d hd), Int.add_zero]
    exact h.made hword hmade

-- The scanner may take a blank before a character that fits nothing in its place.
theorem nextPiece_stray (hgaps : ∀ c ∈ gaps, isGap c = true) (hplain : c ∉ special)
    (h : Follows depth (gaps ++ c :: t) last) :
    NextPiece depth (gaps ++ c :: t) last (.lexeme 0 1 .stray) := by
  refine .lexeme (by simp) ?_
  rw [changeOf_of_kind (by simp), Int.add_zero]
  cases gaps with
  | nil => exact h.plain (u := [c]) (by simpa using hplain)
  | cons d gaps => exact h.plain (u := [d]) (by simpa using not_special_of_isGap (hgaps d (by simp)))

theorem nextPiece_pieceAfter (hgaps : ∀ c ∈ gaps, isGap c = true) (hrow : IsRow body)
    (hend : RowEnds body last) (hreturn : '\r' ∉ body) (h : Follows depth (gaps ++ body) last) :
    NextPiece depth (gaps ++ body) last (pieceAfter gaps.length body) := by
  have hbody : Follows depth body last :=
    h.plain fun c hc => not_special_of_isGap (hgaps c hc)
  cases body with
  | nil =>
    obtain ⟨s, hdepth, -, hreaches⟩ := hbody
    refine .nothing ?_ (reaches_nil.mp hreaches ▸ hdepth)
    rw [List.append_nil]
    exact fun hmem => by cases hgaps '\n' hmem
  | cons c t =>
    simp only [pieceAfter]
    split
    · rename_i hslash
      simp only [Bool.and_eq_true, decide_eq_true_eq] at hslash
      obtain ⟨rfl, hlength⟩ := hslash
      have hreturnTail : '\r' ∉ t := fun hmem => hreturn (List.mem_cons_of_mem _ hmem)
      obtain rfl := eq_break_of_breakLength hrow.tail hreturnTail hlength
      exact .continuation hbody.continuation.1 hbody.continuation.2
    rename_i hslash
    split
    · rename_i hhash
      subst hhash
      exact .behind_same (by simp) (by simp) (follows_comment hreturn hbody)
    rename_i hhash
    cases hopening : opening? (c :: t) with
    | some o => exact nextPiece_string hrow hend hreturn hopening hbody _
    | none =>
      simp only
      split_ifs with hlength hbreak hoperator hword
      · have hnumber : ∀ d ∈ special, ¬ IsNumberPart d := List.all_iff_forall_prop.mp (by decide)
        exact .behind_same (by simp) (by simp) (hbody.made hnumber (numberLength_made _))
      · have heq := eq_break_of_breakLength hrow hreturn hbreak
        rw [heq] at hbody
        exact .newline hbody.endRow.1 hbody.endRow.2
      · exact .behind (by simp) (follows_operator hoperator hbody)
      · exact nextPiece_word hbody
      · exact nextPiece_stray hgaps (not_special_of_stray hopening hhash (by simpa using hbreak)
          (fun hc => by simpa [hc] using hslash) (by simpa using hoperator) hend hbody) h

theorem nextPiece (hrow : IsRow rest) (hend : RowEnds rest last) (hreturn : '\r' ∉ rest)
    (h : Follows depth rest last) : NextPiece depth rest last (piece rest) := by
  have hsplit : rest.takeWhile isGap ++ rest.drop (rest.takeWhile isGap).length = rest := by
    rw [drop_takeWhile, List.takeWhile_append_dropWhile]
  have hwithin : Within (rest.takeWhile isGap).length rest := Within.takeWhile (by decide) rest
  have hpiece := @nextPiece_pieceAfter (rest.takeWhile isGap) _ last depth
    (fun c hc => List.mem_takeWhile_imp hc) (hrow.drop (rest.takeWhile isGap).length)
    (hend.drop hwithin) (fun hmem => hreturn (List.mem_of_mem_drop hmem)) (by rwa [hsplit])
  rwa [hsplit] at hpiece

end

end Ghostwriter.Grammar

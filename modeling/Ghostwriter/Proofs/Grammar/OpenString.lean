import Ghostwriter.Proofs.Grammar.Seam
import Ghostwriter.Proofs.Splice.Strings

/-!
The state of the reader behind a text. The tolerant scanner looks for the end of a string in its row,
and the reader goes through it character by character. Where the reader finds nothing wrong, both
come to the same end.
-/

namespace Ghostwriter.Grammar

open Ghostwriter.Lexeme Ghostwriter.Splice Ghostwriter.Text

-- The state behind a text.
def Reaches (s : RowState) (t : Text) (last : RowState) : Prop :=
  ∃ marks, s.run? t = some (marks, last)

section

variable {s next last : RowState} {c : Char} {t a b : Text} {mark : Option Mark}

theorem reaches_nil : Reaches s [] last ↔ last = s := by
  simp [Reaches, RowState.run?, eq_comm]

theorem reaches_cons :
    Reaches s (c :: t) last ↔ ∃ mark next, s.step? c = some (mark, next) ∧ Reaches next t last := by
  constructor
  · rintro ⟨marks, h⟩
    obtain ⟨mark, next, others, hstep, hrest, -⟩ := RowState.exists_of_run?_cons h
    exact ⟨mark, next, hstep, others, hrest⟩
  · rintro ⟨mark, next, hstep, others, hrest⟩
    exact ⟨_, RowState.run?_cons hstep hrest⟩

theorem reaches_append :
    Reaches s (a ++ b) last ↔ ∃ middle, Reaches s a middle ∧ Reaches middle b last := by
  constructor
  · rintro ⟨marks, h⟩
    obtain ⟨marks₁, middle, marks₂, ha, hb, -⟩ := RowState.run?_split h
    exact ⟨middle, ⟨marks₁, ha⟩, marks₂, hb⟩
  · rintro ⟨middle, ⟨marks₁, ha⟩, marks₂, hb⟩
    exact ⟨_, RowState.run?_append ha hb⟩

-- What a line feed is: part of a string, the end of a row or the end of a line.
theorem step?_break (hs : s.IsSound) (h : s.step? '\n' = some (mark, next)) :
    (mark = some (.keep '\n') ∧ next.InString ∧ next.depth = s.depth) ∨
      (mark = some .cut ∧ next.mode = .code ∧ next.depth = s.depth ∧ 0 < s.depth) ∨
      (mark = some .cut ∧ next.mode = .joined ∧ next.depth = s.depth) ∨
      (mark = some .ended ∧ next = .start) := by
  obtain ⟨mode, depth⟩ := s
  have hne {quote : Char} (hquote : isQuote quote = true) : '\n' ≠ quote :=
    (isQuote_ne_break hquote).symm
  have hend (h : some (RowState.mk mode depth).endRow = some (mark, next)) :
      (mark = some .cut ∧ next.mode = .code ∧ next.depth = depth ∧ 0 < depth) ∨
        (mark = some .ended ∧ next = .start) := by
    unfold RowState.endRow at h
    simp only at h
    split at h
    · rename_i hdepth
      cases h
      exact .inr ⟨rfl, by rw [hdepth]; rfl⟩
    · cases h
      exact .inl ⟨rfl, rfl, rfl, by omega⟩
  cases mode with
  | code => exact .inr ((hend h).imp_right .inr)
  | joined => exact .inr ((hend h).imp_right .inr)
  | comment => exact .inr ((hend h).imp_right .inr)
  | backslash =>
    cases h
    exact .inr (.inr (.inl ⟨rfl, rfl, rfl⟩))
  | emptied quote =>
    simp only [RowState.step?, hne hs] at h
    exact .inr ((hend h).imp_right .inr)
  | opened quote => simp [RowState.step?, RowState.stringMode?, hne hs] at h
  | string quote tripled quotes =>
    cases tripled with
    | false => simp [RowState.step?, RowState.stringMode?, hne hs] at h
    | true =>
      simp only [RowState.step?, RowState.stringMode?, hne hs] at h
      cases h
      exact .inl ⟨rfl, trivial, rfl⟩
  | escape quote tripled =>
    cases h
    exact .inl ⟨rfl, trivial, rfl⟩

-- The reader at the start of a row: no comment goes on, and no quotes stand before it.
def BeginsRow (s : RowState) : Prop := s.mode ≠ .comment ∧ ∀ quote, s.mode ≠ .emptied quote

theorem beginsRow_start : BeginsRow .start := by simp [BeginsRow, RowState.start]

theorem exists_eq_append_break (hrow : IsRow t) (hbreak : '\n' ∈ t) :
    ∃ before, t = before ++ ['\n'] := by
  have hne : t ≠ [] := List.ne_nil_of_mem hbreak
  have hsplit := List.dropLast_append_getLast hne
  rw [← hsplit, List.mem_append] at hbreak
  have hlast : '\n' = t.getLast hne := List.mem_singleton.mp (hbreak.resolve_left hrow)
  exact ⟨t.dropLast, by rw [hlast, hsplit]⟩

theorem beginsRow_of_row (hs : s.IsSound) (hrow : IsRow t) (hbreak : '\n' ∈ t)
    (h : Reaches s t last) : BeginsRow last := by
  obtain ⟨before, rfl⟩ := exists_eq_append_break hrow hbreak
  obtain ⟨middle, ⟨marks, hbefore⟩, hend⟩ := reaches_append.mp h
  obtain ⟨mark, next, hstep, hnext⟩ := reaches_cons.mp hend
  obtain rfl := reaches_nil.mp hnext
  rcases step?_break (RowState.run?_isSound hs hbefore) hstep with
    ⟨-, hstring, -⟩ | ⟨-, hmode, -⟩ | ⟨-, hmode, -⟩ | ⟨-, rfl⟩
  · obtain ⟨mode, depth⟩ := last
    cases mode <;> simp_all [BeginsRow, RowState.InString]
  · simp [BeginsRow, hmode]
  · simp [BeginsRow, hmode]
  · exact beginsRow_start

end

section

variable {quote c : Char} {t : Text} {n quotes depth : Nat} {tripled : Bool} {last : RowState}

theorem reaches_string_cons :
    Reaches ⟨.string quote tripled quotes, depth⟩ (c :: t) last ↔
      ∃ mode, RowState.stringMode? quote tripled quotes c = some mode ∧
        Reaches ⟨mode, depth⟩ t last := by
  rw [reaches_cons]
  simp only [RowState.step?, Option.map_eq_some_iff, Prod.mk.injEq]
  constructor
  · rintro ⟨mark, next, ⟨mode, hmode, rfl, rfl⟩, hrest⟩
    exact ⟨mode, hmode, hrest⟩
  · rintro ⟨mode, hmode, hrest⟩
    exact ⟨_, _, ⟨mode, hmode, rfl, rfl⟩, hrest⟩

theorem reaches_escape_cons :
    Reaches ⟨.escape quote tripled, depth⟩ (c :: t) last ↔
      Reaches ⟨.string quote tripled 0, depth⟩ t last := by
  rw [reaches_cons]
  simp [RowState.step?]

-- The quotes behind which the reader is do not make three with those that follow.
def Few (quotes : Nat) (quote : Char) (t : Text) : Prop :=
  quotes = 0 ∨ quotes ≤ 2 ∧ t.take (3 - quotes) ≠ List.replicate (3 - quotes) quote

-- In a tripled string, a character that is no backslash and with which no three quotes begin.
theorem tripled_cons (hc : c ≠ '\\') (hclose : ¬ (c = quote ∧ t.take 2 = [quote, quote]))
    (hfew : Few quotes quote (c :: t))
    (h : Reaches ⟨.string quote true quotes, depth⟩ (c :: t) last) :
    ∃ more, Few more quote t ∧ (c = '\n' → quote ≠ '\n' → more = 0) ∧
      Reaches ⟨.string quote true more, depth⟩ t last := by
  obtain ⟨mode, hmode, hrest⟩ := reaches_string_cons.mp h
  by_cases hq : c = quote
  · subst hq
    have htwo : quotes ≠ 2 := by
      rintro rfl
      rcases hfew with hzero | ⟨-, hne⟩
      · cases hzero
      · exact hne rfl
    simp only [RowState.stringMode?, hc, htwo, if_false, if_true, Bool.not_true, decide_false,
      Bool.or_self, Bool.false_eq_true, Option.some.injEq] at hmode
    subst hmode
    refine ⟨quotes + 1, .inr ?_, fun hbreak hne => absurd hbreak hne, hrest⟩
    rcases hfew with rfl | ⟨hle, hne⟩
    · exact ⟨by omega, fun htake => hclose ⟨rfl, htake⟩⟩
    · obtain rfl | rfl : quotes = 0 ∨ quotes = 1 := by omega
      · exact ⟨by omega, fun htake => hclose ⟨rfl, htake⟩⟩
      · exact ⟨by omega, fun htake => hne (congrArg (c :: ·) htake)⟩
  · simp only [RowState.stringMode?, hc, hq, if_false, Bool.not_true, Bool.and_false,
      Bool.false_eq_true, Option.some.injEq] at hmode
    subst hmode
    exact ⟨0, .inl rfl, fun _ _ => rfl, hrest⟩

theorem tripled_closed (hfew : Few quotes quote t)
    (h : closeTripleLength? quote t = some n)
    (hreaches : Reaches ⟨.string quote true quotes, depth⟩ t last) :
    Reaches ⟨.code, depth⟩ (t.drop n) last := by
  fun_induction closeTripleLength? quote t generalizing n quotes with
  | case1 => cases h
  | case2 => cases h
  | case3 => cases h
  | case4 d rest hd ih =>
    obtain ⟨m, hm, rfl⟩ := Option.map_eq_some_iff.mp h
    obtain ⟨mode, hmode, hrest⟩ := reaches_string_cons.mp hreaches
    cases hmode
    exact ih (.inl rfl) hm (reaches_escape_cons.mp hrest)
  | case5 c rest hc hclose =>
    cases h
    simp only [Bool.and_eq_true, decide_eq_true_eq, beq_iff_eq] at hclose
    obtain ⟨rfl, htwo⟩ := hclose
    obtain ⟨rest, rfl⟩ : ∃ behind, rest = c :: c :: behind :=
      ⟨rest.drop 2, by rw [← List.take_append_drop 2 rest, htwo]; simp⟩
    obtain rfl : quotes = 0 := by
      rcases hfew with hzero | ⟨hle, hne⟩
      · exact hzero
      · obtain rfl | rfl | rfl : quotes = 0 ∨ quotes = 1 ∨ quotes = 2 := by omega
        · rfl
        · exact absurd rfl hne
        · exact absurd rfl hne
    obtain ⟨mode, hmode, hrest⟩ := reaches_string_cons.mp hreaches
    simp only [RowState.stringMode?, hc, if_false, if_true] at hmode
    cases hmode
    obtain ⟨mode, hmode, hrest⟩ := reaches_string_cons.mp hrest
    simp only [RowState.stringMode?, hc, if_false, if_true] at hmode
    cases hmode
    obtain ⟨mode, hmode, hrest⟩ := reaches_string_cons.mp hrest
    simp only [RowState.stringMode?, hc, if_false, if_true] at hmode
    cases hmode
    exact hrest
  | case6 c rest hc hclose ih =>
    obtain ⟨m, hm, rfl⟩ := Option.map_eq_some_iff.mp h
    obtain ⟨more, hmore, -, hrest⟩ := tripled_cons hc (by simpa using hclose) hfew hreaches
    exact ih hmore hm hrest

-- A row that a tripled string takes up to its end.
theorem tripled_open (hquote : isQuote quote = true) (hfew : Few quotes quote t) (hrow : IsRow t)
    (hbreak : '\n' ∈ t) (h : closeTripleLength? quote t = none)
    (hreaches : Reaches ⟨.string quote true quotes, depth⟩ t last) :
    last = ⟨.string quote true 0, depth⟩ := by
  fun_induction closeTripleLength? quote t generalizing quotes with
  | case1 => cases hbreak
  | case2 => simp at hbreak
  | case3 rest =>
    obtain rfl : rest = [] := by
      by_contra hne
      exact hrow.tail.head_ne hne rfl
    obtain ⟨mode, hmode, hrest⟩ := reaches_string_cons.mp hreaches
    cases hmode
    exact reaches_nil.mp (reaches_escape_cons.mp hrest)
  | case4 d rest hd ih =>
    obtain ⟨mode, hmode, hrest⟩ := reaches_string_cons.mp hreaches
    cases hmode
    refine ih (.inl rfl) hrow.tail.tail ?_ (by simpa using h) (reaches_escape_cons.mp hrest)
    simpa [Ne.symm hd] using hbreak
  | case5 => cases h
  | case6 c rest hc hclose ih =>
    obtain ⟨more, hmore, hzero, hrest⟩ := tripled_cons hc (by simpa using hclose) hfew hreaches
    by_cases hnil : rest = []
    · subst hnil
      rw [List.mem_singleton] at hbreak
      rw [hzero hbreak.symm (isQuote_ne_break hquote)] at hrest
      exact reaches_nil.mp hrest
    · refine ih hmore hrow.tail ?_ (by simpa using h) hrest
      exact (List.mem_cons.mp hbreak).resolve_left (Ne.symm (hrow.head_ne hnil))

-- The same for a string with plain quotes.
theorem plain_cons (hc : c ≠ '\\') (hq : c ≠ quote)
    (h : Reaches ⟨.string quote false quotes, depth⟩ (c :: t) last) :
    c ≠ '\n' ∧ Reaches ⟨.string quote false 0, depth⟩ t last := by
  obtain ⟨mode, hmode, hrest⟩ := reaches_string_cons.mp h
  simp only [RowState.stringMode?, hc, hq, if_false, Bool.not_false, Bool.and_true,
    decide_eq_true_eq] at hmode
  split at hmode
  · cases hmode
  · cases hmode
    exact ⟨‹_›, hrest⟩

theorem isQuote_ne_slash (h : isQuote quote = true) : quote ≠ '\\' := by
  rintro rfl
  cases h

theorem plain_quote (hquote : isQuote quote = true)
    (h : Reaches ⟨.string quote false quotes, depth⟩ (quote :: t) last) :
    Reaches ⟨.code, depth⟩ t last := by
  obtain ⟨mode, hmode, hrest⟩ := reaches_string_cons.mp h
  simp only [RowState.stringMode?, isQuote_ne_slash hquote, if_false, if_true, Bool.not_false,
    Bool.true_or] at hmode
  cases hmode
  exact hrest

theorem plain_escape
    (h : Reaches ⟨.string quote false quotes, depth⟩ ('\\' :: c :: t) last) :
    Reaches ⟨.string quote false 0, depth⟩ t last := by
  obtain ⟨mode, hmode, hrest⟩ := reaches_string_cons.mp h
  cases hmode
  exact reaches_escape_cons.mp hrest

theorem plain_closed (hquote : isQuote quote = true) (h : closeLength? quote t = some n)
    (hreaches : Reaches ⟨.string quote false quotes, depth⟩ t last) :
    Reaches ⟨.code, depth⟩ (t.drop n) last := by
  fun_induction closeLength? quote t generalizing n quotes with
  | case1 => cases h
  | case2 =>
    cases h
    exact plain_quote hquote hreaches
  | case3 c hc => cases h
  | case4 rest => cases h
  | case5 d rest hd ih =>
    obtain ⟨m, hm, rfl⟩ := Option.map_eq_some_iff.mp h
    exact ih hm (plain_escape hreaches)
  | case6 d rest hc =>
    cases h
    exact plain_quote hquote hreaches
  | case7 c d rest hc hq ih =>
    obtain ⟨m, hm, rfl⟩ := Option.map_eq_some_iff.mp h
    exact ih hm (plain_cons hc hq hreaches).2

-- A row that a plain string takes up to its end.
theorem plain_open (hrow : IsRow t) (hbreak : '\n' ∈ t) (h : closeLength? quote t = none)
    (hreaches : Reaches ⟨.string quote false quotes, depth⟩ t last) :
    last = ⟨.string quote false 0, depth⟩ ∧ ['\\', '\n'] <:+ t := by
  fun_induction closeLength? quote t generalizing quotes with
  | case1 => cases hbreak
  | case2 => cases h
  | case3 c hc =>
    obtain rfl : '\n' = c := by simpa using hbreak
    exact absurd rfl (plain_cons (by decide) hc hreaches).1
  | case4 rest =>
    obtain rfl : rest = [] := by
      by_contra hne
      exact hrow.tail.head_ne hne rfl
    exact ⟨reaches_nil.mp (plain_escape hreaches), List.suffix_rfl⟩
  | case5 d rest hd ih =>
    obtain ⟨hlast, hsuffix⟩ := ih hrow.tail.tail (by simpa [Ne.symm hd] using hbreak)
      (by simpa using h) (plain_escape hreaches)
    exact ⟨hlast, (hsuffix.trans (List.suffix_cons d rest)).trans (List.suffix_cons _ _)⟩
  | case6 => cases h
  | case7 c d rest hc hq ih =>
    obtain ⟨hne, hrest⟩ := plain_cons hc hq hreaches
    obtain ⟨hlast, hsuffix⟩ := ih hrow.tail ((List.mem_cons.mp hbreak).resolve_left (Ne.symm hne))
      (by simpa using h) hrest
    exact ⟨hlast, hsuffix.trans (List.suffix_cons c _)⟩

-- A string that is not closed in its row is open behind it.
theorem plain_unclosed (hrow : IsRow t) (h : closeLength? quote t = none)
    (hreaches : Reaches ⟨.string quote false quotes, depth⟩ t last) : last.InString := by
  fun_induction closeLength? quote t generalizing quotes with
  | case1 =>
    rw [reaches_nil.mp hreaches]
    trivial
  | case2 => cases h
  | case3 c hc =>
    obtain ⟨mode, hmode, hrest⟩ := reaches_string_cons.mp hreaches
    rw [reaches_nil.mp hrest]
    unfold RowState.stringMode? at hmode
    repeat' split at hmode
    all_goals cases hmode
    all_goals trivial
  | case4 rest =>
    obtain rfl : rest = [] := by
      by_contra hne
      exact hrow.tail.head_ne hne rfl
    rw [reaches_nil.mp (plain_escape hreaches)]
    trivial
  | case5 d rest hd ih => exact ih hrow.tail.tail (by simpa using h) (plain_escape hreaches)
  | case6 => cases h
  | case7 c d rest hc hq ih => exact ih hrow.tail (by simpa using h) (plain_cons hc hq hreaches).2

theorem tripled_unclosed (hfew : Few quotes quote t) (hrow : IsRow t)
    (h : closeTripleLength? quote t = none)
    (hreaches : Reaches ⟨.string quote true quotes, depth⟩ t last) : last.InString := by
  fun_induction closeTripleLength? quote t generalizing quotes with
  | case1 =>
    rw [reaches_nil.mp hreaches]
    trivial
  | case2 =>
    obtain ⟨mode, hmode, hrest⟩ := reaches_string_cons.mp hreaches
    cases hmode
    rw [reaches_nil.mp hrest]
    trivial
  | case3 rest =>
    obtain rfl : rest = [] := by
      by_contra hne
      exact hrow.tail.head_ne hne rfl
    obtain ⟨mode, hmode, hrest⟩ := reaches_string_cons.mp hreaches
    cases hmode
    rw [reaches_nil.mp (reaches_escape_cons.mp hrest)]
    trivial
  | case4 d rest hd ih =>
    obtain ⟨mode, hmode, hrest⟩ := reaches_string_cons.mp hreaches
    cases hmode
    exact ih (.inl rfl) hrow.tail.tail (by simpa using h) (reaches_escape_cons.mp hrest)
  | case5 => cases h
  | case6 c rest hc hclose ih =>
    obtain ⟨more, hmore, -, hrest⟩ := tripled_cons hc (by simpa using hclose) hfew hreaches
    exact ih hmore hrow.tail (by simpa using h) hrest

-- The first row of a string with plain quotes, behind its first quote.
theorem firstLine_cases (hquote : isQuote quote = true) (hrow : IsRow t)
    (hend : '\n' ∈ t ∨ ¬ last.InString) (hreturn : '\r' ∉ t)
    (hreaches : Reaches ⟨.string quote false quotes, depth⟩ t last) :
    (∃ n, firstLine? quote t = some (.closed n) ∧ Reaches ⟨.code, depth⟩ (t.drop n) last) ∨
      ∃ n, firstLine? quote t = some (.continued n) ∧ last = ⟨.string quote false 0, depth⟩ := by
  have hshift {k : Nat} {t u : Text}
      (h : (∃ n, firstLine? quote u = some (.closed n) ∧ Reaches ⟨.code, depth⟩ (u.drop n) last) ∨
        ∃ n, firstLine? quote u = some (.continued n) ∧ last = ⟨.string quote false 0, depth⟩)
      (hu : u = t.drop k) :
      (∃ n, (firstLine? quote u).map (FirstLine.shift k) = some (.closed n) ∧
        Reaches ⟨.code, depth⟩ (t.drop n) last) ∨
      ∃ n, (firstLine? quote u).map (FirstLine.shift k) = some (.continued n) ∧
        last = ⟨.string quote false 0, depth⟩ := by
    rcases h with ⟨n, hn, hrest⟩ | ⟨n, hn, hlast⟩
    · refine .inl ⟨n + k, by rw [hn]; rfl, ?_⟩
      rwa [Nat.add_comm, ← List.drop_drop, ← hu]
    · exact .inr ⟨n + k, by rw [hn]; rfl, hlast⟩
  fun_induction firstLine? quote t generalizing quotes with
  | case1 =>
    exact absurd (plain_unclosed hrow rfl hreaches) (hend.resolve_left List.not_mem_nil)
  | case2 => exact .inl ⟨1, rfl, plain_quote hquote hreaches⟩
  | case3 c hc =>
    rcases hend with hbreak | hclosed
    · obtain rfl : '\n' = c := by simpa using hbreak
      exact absurd rfl (plain_cons (by decide) hc hreaches).1
    · exact absurd (plain_unclosed hrow (by simp [closeLength?, hc]) hreaches) hclosed
  | case4 rest =>
    obtain rfl : rest = [] := by
      by_contra hne
      exact hrow.tail.head_ne hne rfl
    exact .inr ⟨2, rfl, reaches_nil.mp (plain_escape hreaches)⟩
  | case5 d rest hd hreturn' =>
    simp only [Bool.and_eq_true, decide_eq_true_eq] at hreturn'
    exact absurd (by simp [hreturn'.1]) hreturn
  | case6 d rest hd hreturn' ih =>
    refine hshift (ih hrow.tail.tail (hend.imp_left fun hbreak => ?_) (fun hmem => hreturn ?_)
      (plain_escape hreaches)) rfl
    · simpa [Ne.symm hd] using hbreak
    · exact List.mem_cons_of_mem _ (List.mem_cons_of_mem _ hmem)
  | case7 d rest hc =>
    exact .inl ⟨1, rfl, plain_quote hquote hreaches⟩
  | case8 d rest hc hq => exact absurd rfl (plain_cons hc hq hreaches).1
  | case9 c d rest hc hq hne ih =>
    refine hshift (ih hrow.tail (hend.imp_left fun hbreak => ?_) (fun hmem => hreturn ?_)
      (plain_cons hc hq hreaches).2) rfl
    · exact (List.mem_cons.mp hbreak).resolve_left (Ne.symm hne)
    · exact List.mem_cons_of_mem _ hmem

-- Behind the first quote of a string, another one makes it empty, or tripled.
theorem reaches_opened (hc : c ≠ quote) (h : Reaches ⟨.opened quote, depth⟩ (c :: t) last) :
    Reaches ⟨.string quote false 0, depth⟩ (c :: t) last := by
  obtain ⟨mark, next, hstep, hrest⟩ := reaches_cons.mp h
  refine reaches_cons.mpr ⟨mark, next, ?_, hrest⟩
  simpa [RowState.step?, hc] using hstep

theorem reaches_emptied (h : Reaches ⟨.opened quote, depth⟩ (quote :: t) last) :
    Reaches ⟨.emptied quote, depth⟩ t last := by
  obtain ⟨mark, next, hstep, hrest⟩ := reaches_cons.mp h
  simp only [RowState.step?, if_true, Option.some.injEq, Prod.mk.injEq] at hstep
  rwa [← hstep.2] at hrest

theorem reaches_tripled (h : Reaches ⟨.opened quote, depth⟩ (quote :: quote :: t) last) :
    Reaches ⟨.string quote true 0, depth⟩ t last := by
  obtain ⟨mark, next, hstep, hrest⟩ := reaches_cons.mp (reaches_emptied h)
  simp only [RowState.step?, if_true, Option.some.injEq, Prod.mk.injEq] at hstep
  rwa [← hstep.2] at hrest

end

theorem firstLine?_quote {quote : Char} (hquote : isQuote quote = true) (t : Text) :
    firstLine? quote (quote :: t) = some (.closed 1) := by
  cases t with
  | nil => simp [firstLine?]
  | cons c t => simp [firstLine?, isQuote_ne_slash hquote]

theorem mem_drop_of_within {n : Nat} {t : Text} (hwithin : Within n t) (hbreak : '\n' ∈ t) :
    '\n' ∈ t.drop n := hwithin.mem_drop_iff.mpr hbreak

end Ghostwriter.Grammar

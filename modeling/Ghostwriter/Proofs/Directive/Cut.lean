import Ghostwriter.Proofs.Directive.Found
import Ghostwriter.Proofs.Lexeme.Tiled
import Ghostwriter.Proofs.Splice.Cut

/-!
Where the directives that are found stand in the text: one after the other, each from its name to its
closing bracket, and each the first thing on its row.
-/

namespace Ghostwriter.Directive

open Ghostwriter.Lexeme Ghostwriter.Splice Ghostwriter.Text

-- The position in a text with one more character in front.
def moved (c : Char) (p : Position) : Position :=
  if c = '\n' then ⟨p.line + 1, p.column⟩ else if p.line = 1 then ⟨1, p.column + 1⟩ else p

section

variable {c : Char} {t : Text} {p q : Position}

theorem positionOf_cons (c : Char) (t : Text) : positionOf (c :: t) = moved c (positionOf t) := rfl

theorem lines_cons (hc : c ≠ '\n') (t : Text) :
    ∃ first others, lines (c :: t) = (c :: first) :: others ∧
      (lines t = first :: others ∨ lines t = [] ∧ first = [] ∧ others = []) := by
  rw [lines, if_neg hc]
  cases lines t with
  | nil => exact ⟨[], [], rfl, .inr ⟨rfl, rfl, rfl⟩⟩
  | cons first others => exact ⟨first, others, rfl, .inl rfl⟩

theorem slice_moved (hp : 1 ≤ p.line) (hpq : p.line ≤ q.line) :
    slice (lines (c :: t)) (moved c p) (moved c q) = slice (lines t) p q := by
  obtain ⟨m, hm⟩ : ∃ m, p.line = m + 1 := ⟨p.line - 1, by omega⟩
  obtain ⟨n, hn⟩ : ∃ n, q.line = m + n + 1 := ⟨q.line - p.line, by omega⟩
  by_cases hc : c = '\n'
  · subst hc
    simp [slice, moved, lines, hm, hn]
  obtain ⟨first, others, hcons, hlines⟩ := lines_cons hc t
  rw [hcons]
  -- The row of `c` is that of both positions, of the first one, or of none.
  cases m with
  | zero =>
    cases n with
    | zero =>
      rcases hlines with hlines | ⟨hlines, rfl, rfl⟩ <;> simp [slice, moved, hc, hm, hn, hlines]
    | succ n =>
      rcases hlines with hlines | ⟨hlines, rfl, rfl⟩ <;> simp [slice, moved, hc, hm, hn, hlines]
  | succ m =>
    have hrow : q.line = m + n + 2 := by omega
    rcases hlines with hlines | ⟨hlines, rfl, rfl⟩ <;> simp [slice, moved, hc, hm, hrow, hlines]

theorem slice_from_start (hq : 1 ≤ q.line) :
    slice (lines (c :: t)) ⟨1, 0⟩ (moved c q) = c :: slice (lines t) ⟨1, 0⟩ q := by
  obtain ⟨n, hn⟩ : ∃ n, q.line = n + 1 := ⟨q.line - 1, by omega⟩
  by_cases hc : c = '\n'
  · subst hc
    cases n with
    | zero => simp [slice, moved, lines, hn]
    | succ n => cases hlines : lines t <;> simp [slice, moved, lines, hn, hlines]
  obtain ⟨first, others, hcons, hlines⟩ := lines_cons hc t
  rw [hcons]
  cases n with
  | zero => rcases hlines with hlines | ⟨hlines, rfl, rfl⟩ <;> simp [slice, moved, hc, hn, hlines]
  | succ n => rcases hlines with hlines | ⟨hlines, rfl, rfl⟩ <;> simp [slice, moved, hc, hn, hlines]

-- What stands between two positions.
theorem slice_positionOf (a b behind : Text) :
    slice (lines (a ++ (b ++ behind))) (positionOf a) (positionOf (a ++ b)) = b := by
  induction a with
  | nil =>
    induction b with
    | nil => simp [slice, positionOf]
    | cons c b ih =>
      have hstart : positionOf [] = ⟨1, 0⟩ := rfl
      rw [List.nil_append, List.nil_append, hstart] at ih ⊢
      rw [List.cons_append, positionOf_cons, slice_from_start (line_positionOf_pos b), ih]
  | cons c a ih =>
    have hlines : (positionOf a).line ≤ (positionOf (a ++ b)).line := by
      rw [positionOf_append]
      exact Nat.le_add_right _ _
    rw [List.cons_append, List.cons_append, positionOf_cons, positionOf_cons,
      slice_moved (line_positionOf_pos a) hlines, ih]

end

-- The part of a text that is a directive.
structure IsSpan (before span behind : Text) (site : Site) : Prop where
  start : site.start = positionOf before
  stop : site.stop = positionOf (before ++ span)
  -- what is before the name on its row
  margin : ∃ rows, before = rows ++ site.indent ∧ (∀ c ∈ rows.getLast?, c = '\n') ∧
    ∀ c ∈ site.indent, isGap c = true
  made : ∃ gap closer, Filler gap ∧ closer ∈ [')', ']', '\x7d'] ∧
    span = site.entryPoint ++ gap ++ '(' :: (site.payload ++ [closer])

-- Directives that stand in `behind` one after the other, where `before` is what comes before it.
inductive Spans : Text → List Site → Text → Prop
  | nil {before behind : Text} : Spans before [] behind
  | cons {before kept span behind : Text} {site : Site} {sites : List Site}
      (spans : IsSpan (before ++ kept) span behind site)
      (others : Spans (before ++ kept ++ span) sites behind) :
      Spans before (site :: sites) (kept ++ (span ++ behind))

section

variable {before behind part t u whole : Text} {site : Site} {sites : List Site}

theorem Spans.prepend (h : Spans (before ++ part) sites behind) :
    Spans before sites (part ++ behind) := by
  cases h with
  | nil => exact .nil
  | @cons _ kept span behind site sites hspans hothers =>
    rw [List.append_assoc before] at hspans hothers
    rw [← List.append_assoc part]
    exact .cons hspans hothers

theorem column_of_getLast (h : ∀ c ∈ t.getLast?, c = '\n') : (positionOf t).column = 0 := by
  rcases List.eq_nil_or_concat t with rfl | ⟨u, c, rfl⟩
  · rfl
  · rw [List.concat_eq_append, List.getLast?_concat] at h
    rw [List.concat_eq_append, h c rfl, positionOf_append]
    simp [positionOf]

-- What a row begins with.
theorem take_row (hrow : ∀ c ∈ t.getLast?, c = '\n') (hfeed : '\n' ∉ part) :
    ((lines (t ++ (part ++ behind))).getD ((positionOf (t ++ part)).line - 1) []).take
      (positionOf (t ++ part)).column = part := by
  have hslice := slice_positionOf t part behind
  have hline : (positionOf t).line = (positionOf (t ++ part)).line := by
    rw [positionOf_append, List.count_eq_zero_of_not_mem hfeed, Nat.add_zero]
  rwa [slice, if_pos hline, column_of_getLast hrow, List.drop_zero, hline] at hslice

theorem isSpan_siteOf {path : Path} {name opener closer : Lexeme} {gap payload : Text} {c : Char}
    (hmargin : AtMargin before) (hstart : positionOf before = name.start)
    (hgap : Filler gap) (hopen : positionOf (before ++ name.text ++ gap ++ ['(']) = opener.stop)
    (hclose : positionOf (before ++ name.text ++ gap ++ ['('] ++ payload) = closer.start)
    (hstop : positionOf (before ++ name.text ++ gap ++ ['('] ++ payload ++ [c]) = closer.stop)
    (hc : c ∈ [')', ']', '\x7d']) :
    IsSpan before (name.text ++ gap ++ '(' :: (payload ++ [c])) behind
      (siteOf path (lines (before ++ (name.text ++ gap ++ '(' :: (payload ++ [c]) ++ behind))) name
        opener closer) := by
  have hpayload := slice_positionOf (before ++ name.text ++ gap ++ ['(']) payload ([c] ++ behind)
  rw [hopen, hclose] at hpayload
  obtain ⟨rows, margin, rfl, hrows, hblank⟩ := hmargin
  have hfeed : '\n' ∉ margin := fun hmem => absurd (hblank _ hmem) (by decide)
  have hindent := @take_row (name.text ++ gap ++ '(' :: (payload ++ [c]) ++ behind) _ _ hrows hfeed
  rw [hstart] at hindent
  simp only [List.append_assoc, List.cons_append, List.nil_append] at hpayload hindent hstop ⊢
  rw [← List.append_assoc rows] at hstop
  refine ⟨hstart.symm, hstop.symm, ⟨rows, ?_, hrows, ?_⟩, gap, c, hgap, hc, ?_⟩
  · simp only [siteOf, hindent]
  · simpa only [siteOf, hindent] using hblank
  · simp only [siteOf, hpayload, List.append_assoc]

theorem spans_sitesUpTo {path : Path} {bound : List Text} {fuel : Nat} {previous : Option Lexeme}
    {lexemes : List Lexeme}
    (h : sitesUpTo path (lines whole) bound fuel previous lexemes = .ok sites)
    (hwhole : whole = before ++ t) (htiled : Tiled before t lexemes)
    (hmargin : startsLine previous = true → AtMargin before ∨ t = []) : Spans before sites t := by
  induction fuel generalizing previous lexemes sites before t with
  | zero =>
    cases h
    exact .nil
  | succ fuel ih =>
    cases lexemes with
    | nil =>
      cases h
      exact .nil
    | cons name rest =>
      cases rest with
      | nil =>
        cases h
        exact .nil
      | cons opener body =>
        simp only [sitesUpTo] at h
        split_ifs at h with hbegins
        · cases hclosing : closing? 1 body with
          | none => simp [hclosing] at h
          | some found =>
            obtain ⟨closer, tail⟩ := found
            simp only [hclosing] at h
            obtain ⟨others, hothers, h⟩ := bind_eq_ok.mp h
            obtain ⟨hcloses, within, rfl⟩ := closing?_spec hclosing
            obtain ⟨hcloserKind, c, hc, hcloserText⟩ := closes_cases hcloses
            simp only [begins, Bool.and_eq_true, decide_eq_true_eq, Option.any_some] at hbegins
            obtain ⟨⟨⟨⟨hname, hisName⟩, -⟩, hfirst⟩, hopener⟩ := hbegins
            simp only [isOperator, Bool.and_eq_true, beq_iff_eq] at hopener
            obtain ⟨u, v, rfl, hfills, hstart, -, hrest⟩ := htiled.head (.inl hname)
            obtain ⟨gap, v, rfl, hgap, -, hopen, hbody⟩ := hrest.head (.inr hopener.1)
            obtain ⟨payload, behind, rfl, hclose, hstop, hbehind⟩ := hbody.split (.inr hcloserKind)
            have hpast : Spans (before ++ u ++ (name.text ++ gap ++ '(' :: (payload ++ [c])))
                others behind := by
              refine ih hothers ?_ ?_ fun hlayout => ?_
              · rw [hwhole, hopener.2, hcloserText]
                simp
              · rw [hopener.2, hcloserText] at hbehind
                simpa using hbehind
              · simp [startsLine, precedesLine, hcloserKind] at hlayout
            have htext : u ++ (name.text ++ (gap ++ (opener.text ++ (payload ++
                (closer.text ++ behind))))) =
                u ++ (name.text ++ gap ++ '(' :: (payload ++ [c]) ++ behind) := by
              rw [hopener.2, hcloserText]
              simp
            rw [htext] at hwhole hmargin ⊢
            split_ifs at h
            · cases h
              refine .cons ?_ hpast
              rw [hwhole, ← List.append_assoc before]
              refine isSpan_siteOf ?_ hstart hgap ?_ ?_ ?_ hc
              · refine ((hmargin hfirst).resolve_right ?_).filler hfills
                simp
              · rw [hopener.2] at hopen
                exact hopen
              · rw [hopener.2] at hclose
                exact hclose
              · rw [hopener.2, hcloserText] at hstop
                exact hstop
            · cases h
              rw [List.append_assoc before] at hpast
              simpa using hpast.prepend
        · obtain ⟨u, v, rfl, hrest, hmargin'⟩ := htiled.tail
          exact (ih h (by rw [hwhole, List.append_assoc]) hrest hmargin').prepend

-- The directives that are found are parts of the text, one after the other.
theorem spans_find {path : Path} (h : find path t = .ok sites) : Spans [] sites t := by
  unfold find at h
  cases hscan : scan t with
  | error e => simp [hscan] at h
  | ok lexemes =>
    simp only [hscan] at h
    have hmargin : AtMargin [] := atMargin_of_getLast (by simp)
    exact spans_sitesUpTo h rfl (tiled_scan hscan) fun _ => .inl hmargin

theorem IsSpan.ne_nil (h : IsSpan before part behind site) : part ≠ [] := by
  obtain ⟨gap, closer, -, -, rfl⟩ := h.made
  simp

theorem Spans.cut (h : Spans before sites behind) : Cut before sites behind := by
  induction h with
  | nil => exact .nil
  | cons hspan _ ih => exact .cons hspan.ne_nil hspan.start hspan.stop ih

theorem cut_find {path : Path} (h : find path t = .ok sites) : Cut [] sites t := (spans_find h).cut

theorem Spans.exists_span (h : Spans before sites behind) (hsite : site ∈ sites) :
    ∃ kept span rest, behind = kept ++ (span ++ rest) ∧
      IsSpan (before ++ kept) span rest site := by
  induction h with
  | nil => cases hsite
  | @cons before kept span behind first others hspan _ ih =>
    rcases List.mem_cons.mp hsite with rfl | hsite
    · exact ⟨kept, span, behind, rfl, hspan⟩
    · obtain ⟨kept', span', rest, rfl, hspan'⟩ := ih hsite
      rw [List.append_assoc, List.append_assoc] at hspan'
      exact ⟨kept ++ (span ++ kept'), span', rest, by simp, hspan'⟩

end

-- The text from one position to another, by their offsets.
def textBetween (t : Text) (p q : Position) : Text :=
  (t.take (offset (lines t) q)).drop (offset (lines t) p)

-- What a directive is in its text, where offsets and rows are two ways to cut it.
structure Exact (t : Text) (site : Site) : Prop where
  ordered : offset (lines t) site.start < offset (lines t) site.stop
  inside : offset (lines t) site.stop ≤ t.length
  made : ∃ gap closer, Filler gap ∧ closer ∈ [')', ']', '\x7d'] ∧
    textBetween t site.start site.stop =
      site.entryPoint ++ gap ++ '(' :: (site.payload ++ [closer]) ∧
    ∃ p q, site.payload = slice (lines t) p q ∧
      offset (lines t) p = offset (lines t) site.start + site.entryPoint.length + gap.length + 1 ∧
      offset (lines t) q + 1 = offset (lines t) site.stop
  indent : site.indent = textBetween t ⟨site.start.line, 0⟩ site.start ∧
    site.indent = ((lines t).getD (site.start.line - 1) []).take site.start.column
  blank : ∀ c ∈ site.indent, isGap c = true

section

variable {before behind part span t whole : Text} {site : Site} {sites : List Site}
  {p q : Position}

theorem offset_of_positionOf (hp : p = positionOf before) (hwhole : whole = before ++ behind) :
    offset (lines whole) p = before.length := by
  rw [hp, hwhole, offset_positionOf]

theorem textBetween_of_positionOf (hp : p = positionOf before) (hq : q = positionOf (before ++ part))
    (hwhole : whole = before ++ (part ++ behind)) : textBetween whole p q = part := by
  rw [textBetween, offset_of_positionOf hp hwhole,
    offset_of_positionOf hq (hwhole.trans (List.append_assoc _ _ _).symm), hwhole,
    ← List.append_assoc, List.take_left, List.drop_left]

theorem IsSpan.exact (h : IsSpan before span behind site) :
    Exact (before ++ (span ++ behind)) site := by
  have hne := List.length_pos_of_ne_nil h.ne_nil
  obtain ⟨hstart, hstop, ⟨rows, hbefore, hrows, hblank⟩, gap, closer, hgap, hcloser, rfl⟩ := h
  generalize hspan : site.entryPoint ++ gap ++ '(' :: (site.payload ++ [closer]) = span at *
  generalize hwhole : before ++ (span ++ behind) = whole
  have hoffset : offset (lines whole) site.start = before.length :=
    offset_of_positionOf hstart hwhole.symm
  have hoffset' : offset (lines whole) site.stop = (before ++ span).length :=
    offset_of_positionOf hstop (by rw [← hwhole, List.append_assoc])
  have hfeed : '\n' ∉ site.indent := fun hmem => absurd (hblank _ hmem) (by decide)
  have hrow : (⟨site.start.line, 0⟩ : Position) = positionOf rows := by
    have hcolumn := column_of_getLast hrows
    have hline : site.start.line = (positionOf rows).line := by
      rw [hstart, hbefore, positionOf_append, List.count_eq_zero_of_not_mem hfeed, Nat.add_zero]
    rw [hline, ← hcolumn]
  refine ⟨?_, ?_, ⟨gap, closer, hgap, hcloser, ?_, ?_⟩, ⟨?_, ?_⟩, hblank⟩
  · rw [hoffset, hoffset', List.length_append]
    omega
  · rw [hoffset', ← hwhole]
    simp
  · rw [hspan]
    exact textBetween_of_positionOf hstart hstop hwhole.symm
  · have hpayload : whole = before ++ (site.entryPoint ++ gap ++ ['(']) ++
        (site.payload ++ (closer :: behind)) := by
      rw [← hwhole, ← hspan]
      simp
    refine ⟨positionOf (before ++ (site.entryPoint ++ gap ++ ['('])),
      positionOf (before ++ (site.entryPoint ++ gap ++ ['(']) ++ site.payload), ?_, ?_, ?_⟩
    · rw [hpayload, slice_positionOf]
    · rw [hoffset, offset_of_positionOf rfl hpayload]
      simp [Nat.add_assoc]
    · rw [hoffset', offset_of_positionOf rfl (hpayload.trans (List.append_assoc _ _ _).symm),
        ← hspan]
      simp [Nat.add_assoc]
  · have hwhole' : whole = rows ++ (site.indent ++ (span ++ behind)) := by
      rw [← hwhole, hbefore, List.append_assoc]
    exact (textBetween_of_positionOf hrow (hbefore ▸ hstart) hwhole').symm
  · have htake := @take_row (span ++ behind) _ _ hrows hfeed
    rw [← List.append_assoc, ← hbefore, ← hstart, hwhole] at htake
    exact htake.symm

theorem Spans.pairwise (h : Spans before sites behind) :
    sites.Pairwise fun a b =>
      offset (lines (before ++ behind)) a.stop ≤ offset (lines (before ++ behind)) b.start ∧
        '\n' ∈ textBetween (before ++ behind) a.stop b.start := by
  induction h with
  | nil => exact List.Pairwise.nil
  | @cons before kept span behind site sites hspan hothers ih =>
    have hwhole : before ++ (kept ++ (span ++ behind)) = before ++ kept ++ span ++ behind := by simp
    rw [hwhole]
    refine List.pairwise_cons.mpr ⟨fun other hother => ?_, ih⟩
    obtain ⟨kept', span', rest, rfl, hspan'⟩ := hothers.exists_span hother
    have hstop := hspan.stop
    have hstart := hspan'.start
    constructor
    · rw [offset_of_positionOf hstop rfl, offset_of_positionOf hstart
        (List.append_assoc _ kept' _).symm]
      simp
    · rw [textBetween_of_positionOf hstop hstart rfl]
      -- The other directive begins its row, and a bracket is on the row of this one.
      obtain ⟨gap, closer, -, hcloser, rfl⟩ := hspan.made
      obtain ⟨rows, hbefore, hrows, hblank⟩ := hspan'.margin
      have hclosers : ∀ c ∈ [')', ']', '\x7d'], isGap c = false ∧ c ≠ '\n' := by decide
      have hmargin : AtMargin (before ++ kept ++ (site.entryPoint ++ gap ++
          '(' :: site.payload) ++ closer :: kept') := by
        refine ⟨rows, other.indent, ?_, hrows, hblank⟩
        rw [← hbefore]
        simp
      exact hmargin.newline_mem (hclosers closer hcloser).1 (hclosers closer hcloser).2

-- The directives that are found are exact parts of the text, in their order, each on rows of its own.
theorem exact_find {path : Path} (h : find path t = .ok sites) :
    (∀ site ∈ sites, Exact t site) ∧
      sites.Pairwise fun a b => offset (lines t) a.stop ≤ offset (lines t) b.start ∧
        '\n' ∈ textBetween t a.stop b.start := by
  refine ⟨fun site hsite => ?_, (spans_find h).pairwise⟩
  obtain ⟨kept, span, rest, rfl, hspan⟩ := (spans_find h).exists_span hsite
  exact hspan.exact

end

-- A directive over several rows that end in both ways, one in a block, and no line end at the end.
def rowsText : Text := "do_it\\\r\n ('a'\r\n, [1]) # c\r\nif a:\n\tmagic(\"\"\"b\nc\"\"\")".toList

theorem exact_rowsText : ∃ first second, find modulePath rowsText = .ok [first, second] ∧
    Exact rowsText first ∧ Exact rowsText second ∧
      offset (lines rowsText) first.stop ≤ offset (lines rowsText) second.start ∧
        '\n' ∈ textBetween rowsText first.stop second.start := by
  have hfind : find modulePath rowsText = .ok [
      ⟨modulePath, "do_it".toList, "'a'\r\n, [1]".toList, ⟨1, 0⟩, ⟨3, 6⟩, []⟩,
      ⟨modulePath, "magic".toList, "\"\"\"b\nc\"\"\"".toList, ⟨5, 1⟩, ⟨6, 5⟩, ['\t']⟩] :=
    ok_of_toOption (by decide +kernel)
  obtain ⟨hexact, hpairwise⟩ := exact_find hfind
  exact ⟨_, _, hfind, hexact _ (by simp), hexact _ (by simp), hpairwise.rel_head_tail (by simp)⟩

end Ghostwriter.Directive

import Ghostwriter.Proofs.Directive.Reread
import Ghostwriter.Proofs.Grammar.Scannable
import Ghostwriter.Proofs.Splice.Fill

/-!
Where the directives of a text stand. At the row of each the scanner has no string and no bracket
open, and from behind each it goes on like a reader that has found a word in its place.
-/

namespace Ghostwriter.Splice

open Ghostwriter.Directive Ghostwriter.Grammar Ghostwriter.Lexeme Ghostwriter.Text

-- The scanner behind the rows of a text.
def Arrives (t : Text) (state : ScanState) : Prop :=
  ∃ lexemes, scanLines 1 (lines t) ScanState.start = .ok (lexemes, state)

-- Behind each row from some place on the scanner is where the reader is that begins at that place.
def Resumes (before behind : Text) : Prop :=
  ∀ u v state last, behind = u ++ v → (∀ c ∈ (before ++ u).getLast?, c = '\n') →
    Arrives (before ++ u) state → Reaches .start u last → Agree last state ∧ BeginsRow last

section

variable {row : Nat} {t u w x behind : Text} {rows : List Text} {s last : RowState}
  {state final : ScanState} {lexemes : List Lexeme}

theorem agree_scansLines (h : ScansLines row rows state lexemes final)
    (hbreaks : ∀ line ∈ rows, '\n' ∈ line) (hreturn : ∀ line ∈ rows, '\r' ∉ line)
    (hagree : Agree s state) (hbegins : BeginsRow s) (hsound : s.IsSound)
    (hreaches : Reaches s rows.flatten last) : Agree last final ∧ BeginsRow last := by
  induction h generalizing s with
  | nil =>
    obtain rfl := reaches_nil.mp hreaches
    exact ⟨hagree, hbegins⟩
  | cons hrow hline _ ih =>
    rw [List.forall_mem_cons] at hbreaks hreturn
    obtain ⟨middle, hfirst, hbehind⟩ := reaches_append.mp hreaches
    exact ih hbreaks.2 hreturn.2
      (agree_scansLine hline hagree hbegins hsound hrow (.inl hbreaks.1) hreturn.1 hfirst)
      (beginsRow_of_row hsound hrow hbreaks.1 hfirst) (hfirst.isSound hsound) hbehind

theorem rows_of_getLast (h : ∀ c ∈ t.getLast?, c = '\n') :
    ∀ line ∈ lines t, IsRow line ∧ '\n' ∈ line := by
  intro line hline
  refine ⟨(rows_lines t).isRow line hline, ?_⟩
  obtain ⟨above, below, hlines⟩ := List.append_of_mem hline
  have hrows := rows_lines t
  rw [hlines] at hrows
  by_cases hbelow : below = []
  · have hne : line ≠ [] := fun hnil => nil_not_mem_lines t (hnil ▸ hline)
    have hflat := lines_flatten t
    rw [hlines, hbelow, List.flatten_append, List.flatten_singleton] at hflat
    rw [← hflat, List.getLast?_append_of_ne_nil _ hne] at h
    rw [← h _ (List.getLast?_eq_some_getLast hne)]
    exact List.getLast_mem hne
  · exact (rows_split hrows).2.2.1 hbelow

theorem getLast_of_rows (h : ∀ line ∈ rows, IsRow line ∧ '\n' ∈ line) :
    ∀ c ∈ rows.flatten.getLast?, c = '\n' := by
  intro c hc
  rcases List.eq_nil_or_concat rows with rfl | ⟨above, line, rfl⟩
  · cases hc
  · rw [List.concat_eq_append] at h hc
    obtain ⟨hrow, hbreak⟩ := h line (by simp)
    rw [List.flatten_append, List.flatten_singleton,
      List.getLast?_append_of_ne_nil _ (List.ne_nil_of_mem hbreak),
      getLast_of_isRow hrow hbreak] at hc
    exact (Option.some.inj hc).symm

-- From the start of a text on the reader of rows is where the scanner is.
theorem resumes_start (hreturn : '\r' ∉ t) : Resumes [] t := by
  rintro u v state last rfl hlast ⟨lexemes, hscan⟩ hreaches
  have hrows := rows_of_getLast hlast
  have hscans := scansLines_of_eq (fun line hline => (hrows line hline).1) hscan
  refine agree_scansLines hscans (fun line hline => (hrows line hline).2) (fun line hline => ?_)
    agree_start beginsRow_start RowState.start_isSound (by rwa [lines_flatten])
  exact not_mem_of_mem_lines (fun hmem => hreturn (List.mem_append_left v hmem)) hline

-- The part of a text before a place in a row, and the part behind it.
theorem cut_at_row {n : Nat} {line : Text} {above below : List Text}
    (hlines : lines (x ++ behind) = above ++ line :: below)
    (hx : positionOf x = ⟨1 + above.length, n⟩) (hwithin : Within n line) :
    x = above.flatten ++ line.take n ∧ behind = line.drop n ++ below.flatten := by
  have htext : x ++ behind = above.flatten ++ (line ++ below.flatten) := by
    rw [← lines_flatten (x ++ behind), hlines]
    simp
  have hlength : x.length = above.flatten.length + n := by
    have hoffset := offset_positionOf x behind
    rw [hlines, hx, offset_eq (by simp)] at hoffset
    simpa using hoffset.symm
  have hn : (line ++ below.flatten).take n = line.take n ∧
      (line ++ below.flatten).drop n = line.drop n ++ below.flatten := by
    by_cases hle : n ≤ line.length
    · exact ⟨List.take_append_of_le_length hle, List.drop_append_of_le_length hle⟩
    · have hrows := rows_lines (x ++ behind)
      rw [hlines] at hrows
      have hnone : below = [] := by
        rw [Within, List.take_of_length_le (by omega)] at hwithin
        exact eq_nil_of_rows (rows_split hrows).2 hwithin
      simp [hnone]
  have hfirst : x = (above.flatten ++ (line ++ below.flatten)).take x.length := by
    rw [← htext, List.take_left]
  have hsecond : behind = (above.flatten ++ (line ++ below.flatten)).drop x.length := by
    rw [← htext, List.drop_left]
  rw [hlength, List.take_length_add_append, hn.1] at hfirst
  rw [hlength, List.drop_length_add_append, hn.2] at hsecond
  exact ⟨hfirst, hsecond⟩

end

section

variable {bound : List Text} {before behind span t : Text} {site : Site} {outer : Int}
  {fresh : Bool} {lexemes front within more tail : List Lexeme} {l name opener closer : Lexeme}
  {final : ScanState}

-- What can stand behind an operator.
theorem laid_behind (h : Laid outer fresh (front ++ l :: tail)) (hl : l.kind = .operator) :
    ∃ fresh', Laid (outer + depth (front ++ [l])) fresh' tail := by
  induction front generalizing outer fresh with
  | nil =>
    cases h with
    | content _ hrest => exact ⟨_, by simpa [depth_cons] using hrest⟩
    | newline hkind | lineBreak hkind | comment hkind | indent hkind | dedent hkind | close hkind
    | endMarker hkind =>
      rw [hl] at hkind
      cases hkind
  | cons first front ih =>
    have hstep {outer' : Int} {fresh' : Bool} (hsame : outer' = outer + first.depthChange)
        (hrest : Laid outer' fresh' (front ++ l :: tail)) :
        ∃ fresh', Laid (outer + depth (first :: front ++ [l])) fresh' tail := by
      obtain ⟨fresh'', htail⟩ := ih hrest
      refine ⟨fresh'', ?_⟩
      rwa [List.cons_append, depth_cons, ← Int.add_assoc, ← hsame]
    generalize hall : first :: front ++ l :: tail = all at h
    cases h with
    | content _ hrest =>
      cases hall
      exact hstep rfl hrest
    | newline hkind _ hrest | lineBreak hkind _ hrest | comment hkind _ hrest | indent hkind hrest
    | dedent hkind hrest | close hkind _ hrest =>
      cases hall
      exact hstep (by rw [depthChange_of_kind (by simp [hkind]), Int.add_zero]) hrest
    | endMarker => simp at hall

end

section

variable {n : Nat} {x behind line rest t u v w : Text} {above below : List Text}
  {middle next final : ScanState} {done here front more layout : List Lexeme} {name closer : Lexeme}

-- What goes on from a place in a row over a line feed has the rest of the row.
theorem exists_behind_row (hrows : Rows (line :: below)) (hwithin : Within n line) (hmem : '\n' ∈ u)
    (h : line.drop n ++ below.flatten = u ++ v) : '\n' ∈ line.drop n ∧ ∃ w, u = line.drop n ++ w := by
  have hrow := hrows.1.drop n
  have hbreak : '\n' ∈ line.drop n := by
    by_contra hnone
    have hbelow := eq_nil_of_rows hrows fun hmem => hnone (hwithin.mem_drop_iff.mpr hmem)
    rw [hbelow, List.flatten_nil, List.append_nil] at h
    exact hnone (h ▸ List.mem_append_left v hmem)
  refine ⟨hbreak, ?_⟩
  rcases List.append_eq_append_iff.mp h with ⟨w, hu, -⟩ | ⟨w, hline, -⟩
  · exact ⟨w, hu⟩
  · cases w with
    | nil => exact ⟨[], by rw [hline, List.append_nil, List.append_nil]⟩
    | cons c w => exact absurd hmem (not_mem_of_isRow (hline ▸ hrow))

-- Where the scanner is with the reader behind the first row, it is behind all the others.
theorem resumes_of_row (hlines : lines (x ++ behind) = above ++ line :: below)
    (hx : x = above.flatten ++ line.take n) (hbehind : behind = line.drop n ++ below.flatten)
    (hwithin : Within n line) (hreturn : '\r' ∉ behind)
    (hlast : ∃ c ∈ x.getLast?, c ≠ '\n' ∧ isGap c = false)
    (hscan : ScansLines 1 (above ++ [line]) ScanState.start done next)
    (hagree : ∀ last, '\n' ∈ line.drop n → Reaches .start (line.drop n) last → Agree last next) :
    Resumes x behind := by
  have hrows := rows_lines (x ++ behind)
  rw [hlines] at hrows
  obtain ⟨habove, hline⟩ := rows_split hrows
  rintro u v state last hsplit hend ⟨lexemes, harrives⟩ hreaches
  have hmem : '\n' ∈ u := by
    have hne : u ≠ [] := by
      rintro rfl
      obtain ⟨c, hc, hbreak, -⟩ := hlast
      rw [List.append_nil] at hend
      exact hbreak (hend c hc)
    rw [List.getLast?_append_of_ne_nil _ hne] at hend
    rw [← hend _ (List.getLast?_eq_some_getLast hne)]
    exact List.getLast_mem hne
  -- The text up to there begins with the rest of the row.
  obtain ⟨hbreak, u', rfl⟩ := exists_behind_row hline hwithin hmem (hbehind.symm.trans hsplit)
  have htext : x ++ (line.drop n ++ u') = (above ++ [line]).flatten ++ u' := by
    rw [hx, List.append_assoc, ← List.append_assoc (line.take n), List.take_append_drop]
    simp
  have hwhole : ∀ row ∈ above ++ [line], IsRow row ∧ '\n' ∈ row := by
    rw [List.forall_mem_append, List.forall_mem_singleton]
    exact ⟨habove, hline.1, List.mem_of_mem_drop hbreak⟩
  obtain ⟨middle, hfirstRow, hlater⟩ := reaches_append.mp hreaches
  have hends : ∀ c ∈ u'.getLast?, c = '\n' := by
    intro c hc
    have hne : u' ≠ [] := by
      rintro rfl
      cases hc
    refine hend c ?_
    rwa [htext, List.getLast?_append_of_ne_nil _ hne]
  have hlaterRows := rows_of_getLast hends
  rw [htext, lines_append_rows hwhole] at harrives
  have hall : ∀ row ∈ above ++ [line] ++ lines u', IsRow row :=
    List.forall_mem_append.mpr ⟨fun row hrow => (hwhole row hrow).1,
      fun row hrow => (hlaterRows row hrow).1⟩
  obtain ⟨others, rfl, hothers⟩ := (scansLines_of_eq hall harrives).of_rows hscan
  refine agree_scansLines hothers (fun row hrow => (hlaterRows row hrow).2) (fun row hrow => ?_)
    (hagree _ hbreak hfirstRow)
    (beginsRow_of_row RowState.start_isSound (hline.1.drop n) hbreak hfirstRow)
    (hfirstRow.isSound RowState.start_isSound) (by rwa [lines_flatten])
  exact not_mem_of_mem_lines (fun hmem => hreturn (by rw [hsplit]; simp [hmem])) hrow

-- Where the scanner comes to a name that begins a line, nothing is open but brackets.
theorem arrives_of_name
    (hscan : ScansLines 1 (lines (x ++ rest)) ScanState.start (front ++ name :: more) final)
    (hname : name.kind = .name) (hfirst : startsLine front.getLast? = true)
    (hstart : name.start = positionOf x) {indent : Text} (hindent : ∀ c ∈ indent, isGap c = true)
    (htake : indent = ((lines (x ++ rest)).getD (name.start.line - 1) []).take name.start.column) :
    ∃ rows state, x = rows ++ indent ∧ (∀ c ∈ rows.getLast?, c = '\n') ∧ Arrives rows state ∧
      state.openString = none ∧ state.depth = depth front := by
  obtain ⟨above, line, below, done, here, more, there, middle, next, hlines, rfl, rfl, habove,
    hisRow, hline, -⟩ := hscan.exists_row
  have hrows := rows_lines (x ++ rest)
  rw [hlines] at hrows
  have haboveRows := (rows_split hrows).1
  have hopened := habove.opened opened_start
  have hbefore : ∀ p ∈ here.getLast?, precedesLine p.kind = true := by
    intro p hp
    rw [List.getLast?_append, Option.mem_def.mp hp, Option.some_or] at hfirst
    exact hfirst
  obtain ⟨hrow, hdepth, hquote⟩ := hline.of_first_name hisRow hopened hname hbefore
  rw [hlines, hrow, Nat.add_sub_cancel_left, List.getD_eq_getElem?_getD,
    List.getElem?_append_right le_rfl, Nat.sub_self, List.getElem?_cons_zero,
    Option.getD_some] at htake
  have hwithin : Within name.start.column line := fun hmem => by
    cases hindent _ (htake ▸ hmem)
  have hposition : positionOf x = ⟨1 + above.length, name.start.column⟩ := by
    rw [← hstart, ← hrow]
  obtain ⟨hx, -⟩ := cut_at_row hlines hposition hwithin
  refine ⟨above.flatten, middle, by rw [hx, htake], ?_, ⟨done, ?_⟩, ?_, ?_⟩
  · exact getLast_of_rows haboveRows
  · have hlinesAbove := lines_append_rows haboveRows []
    rw [List.append_nil] at hlinesAbove
    rw [hlinesAbove]
    simpa [lines] using habove.eq
  · -- Its quote would stand in the margin.
    refine Option.eq_none_iff_forall_ne_some.mpr fun s hs => ?_
    have hgap := hindent _ (htake ▸ hquote s hs)
    have hisQuote := (hopened s hs).2
    simp only [isQuote, Bool.or_eq_true, decide_eq_true_eq] at hisQuote
    rcases hisQuote with h | h <;> simp [h, isGap] at hgap
  · have hmiddle := habove.depth_eq opened_start
    have hzero : ScanState.start.depth = 0 := rfl
    rw [hmiddle, depth_append, hdepth, hzero]
    omega

-- Behind an operator the scanner goes on outside strings, unless one has been broken off before. It
-- goes on like a reader there, and finds the end of the statement where that does.
theorem resumes_of_operator
    (hscan : ScansLines 1 (lines (x ++ behind)) ScanState.start (front ++ closer :: more) final)
    (hcloser : closer.kind = .operator) (hwhole : ∀ l ∈ front, l.isBroken = false)
    (hstop : closer.stop = positionOf x) (hreturn : '\r' ∉ x ++ behind)
    (hlast : ∃ c ∈ x.getLast?, c ≠ '\n' ∧ isGap c = false) :
    (depth (front ++ [closer]) = 0 → Resumes x behind) ∧
      (final.openString = none → final.continued = false →
        endsStatement (more ++ layout) = true → Trailing behind) := by
  obtain ⟨above, line, below, done, here, more, there, middle, next, hlines, rfl, rfl, habove,
    hisRow, hline, hbelow⟩ := hscan.exists_row
  have hrows := rows_lines (x ++ behind)
  rw [hlines] at hrows
  have hlineRows := (rows_split hrows).2
  have hopened := habove.opened opened_start
  have hplain : ∀ row ∈ above ++ line :: below, '\r' ∉ row := fun row hrow =>
    not_mem_of_mem_lines hreturn (hlines ▸ hrow)
  rw [List.forall_mem_append] at hplain hwhole
  have htidy : Tidy middle :=
    habove.tidy opened_start ⟨fun _ => rfl, fun _ => rfl⟩ hwhole.1
  obtain ⟨n, other, -, hposition, hwithin, hclosed, hdepth, hstraight, hrest⟩ :=
    hline.of_operator hisRow hopened hcloser
  obtain ⟨hfree, hcontinued⟩ := hstraight htidy
  rw [hstop] at hposition
  obtain ⟨hx, hbehind⟩ := cut_at_row hlines hposition hwithin
  have hplainRest : '\r' ∉ line.drop n := fun hmem =>
    hplain.2 line List.mem_cons_self (List.mem_of_mem_drop hmem)
  constructor
  · intro hzero
    have hnone : other.depth = 0 := by
      have hmiddle := habove.depth_eq opened_start
      have hstart : ScanState.start.depth = 0 := rfl
      rw [hdepth, hmiddle, hstart, Int.zero_add, ← depth_append, ← List.append_assoc, hzero]
    have hfirst : ScansLines 1 (above ++ [line]) ScanState.start
        (done ++ ((here ++ closer :: more) ++ [])) next :=
      habove.append (.cons hisRow hline .nil)
    refine resumes_of_row hlines hx hbehind hwithin
      (fun hmem => hreturn (List.mem_append_right x hmem)) hlast hfirst
      fun last hbreak hreaches => ?_
    refine agree_scansRest hrest (hisRow.drop n) (.inl hbreak) hplainRest ?_ hclosed hfree hcontinued
    rw [hnone]
    exact follows_of_code hreaches
  · intro hend hstopped hends
    have hrestRows : Rows (line.drop n :: below) :=
      ⟨hisRow.drop n, fun hne => hwithin.mem_drop_iff.mpr (hlineRows.2.1 hne), hlineRows.2.2⟩
    have hplainRows : ∀ row ∈ line.drop n :: below, '\r' ∉ row :=
      List.forall_mem_cons.mpr ⟨hplainRest, (List.forall_mem_cons.mp hplain.2).2⟩
    rw [List.append_assoc] at hends
    rw [hbehind]
    exact trailing_scansRest hrest hrestRows hplainRows hclosed hbelow hend hstopped hends

end

-- A directive that has a logical line of its own, as the scanner has it.
structure Alone (before span behind : Text) (site : Site) : Prop where
  margin : ∃ rows state, before = rows ++ site.indent ∧ (∀ c ∈ rows.getLast?, c = '\n') ∧
    Arrives rows state ∧ state.openString = none ∧ state.depth ≤ 0 ∧
    (state.depth = 0 → Resumes (before ++ span) behind)
  trailing : Trailing behind

section

variable {path : Path} {before span behind : Text} {site : Site} {bound : List Text}
  {lexemes front within tail : List Lexeme} {name opener closer : Lexeme}

-- A directive ends in a bracket.
theorem getLast?_of_isSpan (h : IsSpan before span behind site) (t : Text) :
    ∃ c ∈ (t ++ span).getLast?, c ≠ '\n' ∧ isGap c = false := by
  obtain ⟨gap, c, -, hc, rfl⟩ := h.made
  refine ⟨c, ?_, ?_⟩
  · rw [← List.append_assoc, ← List.cons_append, ← List.append_assoc, List.getLast?_concat]
    rfl
  · have hclosers : ∀ c ∈ [')', ']', '\x7d'], c ≠ '\n' ∧ isGap c = false := by decide
    exact hclosers c hc

-- No bracket is open before a directive, and behind it as many are as before.
theorem depth_of_begun (hlaid : Laid 0 true (front ++ name :: opener :: (within ++ closer :: tail)))
    (hname : name.kind = .name) (hopener : opener.isOperator ['('] = true)
    (hcloses : closing? 1 (within ++ closer :: tail) = some (closer, tail))
    (hends : endsStatement tail = true) :
    depth front ≤ 0 ∧ depth (front ++ name :: opener :: within ++ [closer]) = depth front := by
  have hcloser := (closes_cases (closing?_spec hcloses).1).1
  have hopens : opener.depthChange = 1 := by simp [Lexeme.depthChange, Lexeme.opens, hopener]
  have hflat : name.depthChange = 0 := depthChange_of_kind (by simp [hname])
  obtain ⟨within', hwithin, -, hbalanced⟩ := (closing?_eq_some_iff Int.zero_lt_one).mp hcloses
  obtain rfl := List.append_cancel_right hwithin
  have hdepth : depth (front ++ name :: opener :: within ++ [closer]) = depth front := by
    simp only [depth_append, depth_cons, depth_nil, hflat, hopens]
    omega
  have hsplit : front ++ name :: opener :: (within ++ closer :: tail) =
      front ++ name :: opener :: within ++ closer :: tail := by simp
  obtain ⟨fresh, htail⟩ := laid_behind (hsplit ▸ hlaid) hcloser
  rw [hdepth, Int.zero_add] at htail
  refine ⟨Int.not_lt.mp fun hopen => ?_, hdepth⟩
  rw [endsStatement_inside htail hopen] at hends
  cases hends

theorem alone_of_begun (hscan : scan (before ++ (span ++ behind)) = .ok lexemes)
    (hwhole : ∀ l ∈ lexemes, l.isBroken = false) (hreturn : '\r' ∉ before ++ (span ++ behind))
    (hspan : IsSpan before span behind site)
    (hbegun : Begun bound none lexemes name opener within closer tail)
    (hsite : site = siteOf path (lines (before ++ (span ++ behind))) name opener closer) :
    Alone before span behind site := by
  obtain ⟨⟨front, rfl, hbegins⟩, hcloses, hends⟩ := hbegun
  simp only [begins, Option.or_none, Option.any_some, Bool.and_eq_true, decide_eq_true_eq] at hbegins
  obtain ⟨⟨⟨⟨hname, -⟩, -⟩, hfirst⟩, hopener⟩ := hbegins
  have hcloser := (closes_cases (closing?_spec hcloses).1).1
  obtain ⟨hdepth, hbalanced⟩ := depth_of_begun (laid_scan hscan) hname hopener hcloses hends
  have hsplit : front ++ name :: opener :: (within ++ closer :: tail) =
      front ++ name :: opener :: within ++ closer :: tail := by simp
  rw [hsplit] at hscan hwhole
  obtain ⟨more, layout, final, rfl, hlines, hclosed, hcontinued⟩ :=
    exists_scansLines hscan (by simp [Lexeme.isLayout, hcloser])
  have hindent : site.indent = ((lines (before ++ (span ++ behind))).getD (name.start.line - 1)
      []).take name.start.column := by rw [hsite]; rfl
  have hstart : name.start = positionOf before := by rw [← hspan.start, hsite]; rfl
  have hstop : closer.stop = positionOf (before ++ span) := by rw [← hspan.stop, hsite]; rfl
  obtain ⟨_, -, -, hblank⟩ := hspan.margin
  have hlinesName : ScansLines 1 (lines (before ++ (span ++ behind))) ScanState.start
      (front ++ name :: (opener :: within ++ closer :: more)) final := by
    simpa using hlines
  obtain ⟨rows, state, hbefore, hrows, harrives, hstateClosed, hstateDepth⟩ :=
    arrives_of_name hlinesName hname hfirst hstart hblank hindent
  rw [← List.append_assoc] at hlines hreturn
  have hwholeFront : ∀ l ∈ front ++ name :: opener :: within, l.isBroken = false := fun l hl =>
    hwhole l (List.mem_append_left _ hl)
  obtain ⟨hresumes, htrailing⟩ := resumes_of_operator hlines hcloser hwholeFront hstop hreturn
    (getLast?_of_isSpan hspan before)
  refine ⟨⟨rows, state, hbefore, hrows, harrives, hstateClosed, hstateDepth ▸ hdepth,
    fun hzero => ?_⟩, htrailing hclosed hcontinued hends⟩
  exact hresumes (by rw [hbalanced, ← hstateDepth, hzero])

end

end Ghostwriter.Splice

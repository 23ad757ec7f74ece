import Ghostwriter.Proofs.Directive.Bracket
import Ghostwriter.Proofs.Directive.Refusal
import Ghostwriter.Proofs.Lexeme.Echo

/-!
A payload is scanned twice: in its text, to find where it ends, and in parentheses of its own, for
its items. Both scans take the same lexemes off it, unless a string in three quotes in it is broken
off at the end of a row. What is asked of such a string was said before the directive, by one that
is continued with a backslash and never closed, and the scan of the payload alone has not read it.
-/

namespace Ghostwriter.Directive

open Ghostwriter.Lexeme Ghostwriter.Text

-- In parentheses of its own a payload is made of the same lexemes as elsewhere, layout apart.
def Reread (payload : Text) (within : List Lexeme) : Prop :=
  ∃ lexemes opener inner closer, scan ('(' :: payload ++ [')']) = .ok lexemes ∧
    solid lexemes = opener :: (inner ++ [closer]) ∧ opener.isOperator ['('] = true ∧
      closer.isOperator [')'] = true ∧ Alike (solid within) inner

-- The scan behind a first parenthesis.
def inside : ScanState := { ScanState.start with depth := 1 }

-- In parentheses a payload is scanned to its end, and as these lexemes.
def Meets (payload : Text) (lexemes : List Lexeme) : Prop :=
  ∃ others final, scanLines 1 (lines ('(' :: payload ++ [')'])) ScanState.start =
    .ok (others, final) ∧ Alike lexemes others ∧ Settles final 0

section

variable {t u body line : Text} {rows above below between : List Text} {n m : Nat}
  {lexemes others : List Lexeme} {final : ScanState}

theorem lines_append_row (h : '\n' ∉ body) (t : Text) :
    lines (body ++ '\n' :: t) = (body ++ ['\n']) :: lines t := by
  induction body with
  | nil => rw [List.nil_append, lines, if_pos rfl, List.nil_append]
  | cons c body ih =>
    rw [List.mem_cons, not_or] at h
    rw [List.cons_append, lines, if_neg (Ne.symm h.1), ih h.2]
    rfl

theorem lines_append_rows (hrows : ∀ line ∈ rows, IsRow line ∧ '\n' ∈ line) (t : Text) :
    lines (rows.flatten ++ t) = rows ++ lines t := by
  induction rows with
  | nil => rfl
  | cons line rows ih =>
    rw [List.forall_mem_cons] at hrows
    obtain ⟨⟨hrow, hbreak⟩, hrows⟩ := hrows
    have hsplit := List.dropLast_append_getLast? '\n' (getLast_of_isRow hrow hbreak)
    rw [List.flatten_cons, ← hsplit, List.append_assoc, List.append_assoc, List.singleton_append,
      lines_append_row hrow, ih hrows, List.cons_append]

theorem slice_row : slice (above ++ line :: below) ⟨1 + above.length, n⟩ ⟨1 + above.length, m⟩ =
    (line.take m).drop n := by
  simp [slice]

theorem slice_rows {last : Text} :
    slice (above ++ line :: (between ++ last :: below)) ⟨1 + above.length, n⟩
        ⟨1 + above.length + 1 + between.length, m⟩ =
      line.drop n ++ between.flatten ++ last.take m := by
  have hfirst : (above ++ line :: (between ++ last :: below)).getD (1 + above.length - 1) [] =
      line := by simp
  have hsplit : above ++ line :: (between ++ last :: below) =
      (above ++ line :: between) ++ last :: below := by simp
  have hlength : 1 + above.length + 1 + between.length - 1 = (above ++ line :: between).length := by
    simp
    omega
  have hlast : (above ++ line :: (between ++ last :: below)).getD
      (1 + above.length + 1 + between.length - 1) [] = last := by
    rw [hsplit, hlength]
    simp
  have hbetween : ((above ++ line :: (between ++ last :: below)).take
      (1 + above.length + 1 + between.length - 1)).drop (1 + above.length) = between := by
    rw [hsplit, hlength, List.take_left, Nat.add_comm 1]
    simp
  simp only [slice]
  rw [if_neg (by omega), hfirst, hlast, hbetween]

theorem rows_split (h : Rows (above ++ line :: below)) :
    (∀ line ∈ above, IsRow line ∧ '\n' ∈ line) ∧ Rows (line :: below) := by
  induction above with
  | nil => exact ⟨by simp, h⟩
  | cons first above ih =>
    obtain ⟨hrow, hbreak, hrows⟩ := h
    obtain ⟨habove, hbelow⟩ := ih hrows
    exact ⟨List.forall_mem_cons.mpr ⟨⟨hrow, hbreak (by simp)⟩, habove⟩, hbelow⟩

-- The scan of a text whose rows are scanned to the end.
theorem scan_of_scanLines (h : scanLines 1 (lines t) ScanState.start = .ok (lexemes, final))
    (hsettles : Settles final 0) :
    ∃ behind, scan t = .ok (lexemes ++ behind) ∧ ∀ l ∈ behind, l.isLayout = true := by
  refine ⟨closing (lines t).length ((lines t).getLastD []) final.margins, ?_,
    fun _ => isLayout_of_mem_closing⟩
  unfold scan
  simp only [h, hsettles.closed, hsettles.depth, hsettles.continued, hsettles.fixed.2]
  simp

-- A first row that begins with a parenthesis.
theorem exists_paren {rest : Text} (hrow : IsRow ('(' :: rest))
    (h : ScansRest 1 1 rest inside lexemes final) :
    ∃ l : Lexeme, l.isOperator ['('] = true ∧
      ScansLine 1 ('(' :: rest) ScanState.start (l :: lexemes) final := by
  obtain ⟨l, hl⟩ : ∃ l : Lexeme, l = ⟨.operator, ['('], ⟨1, 0⟩, ⟨1, 1⟩⟩ := ⟨_, rfl⟩
  have hopens : l.isOperator ['('] = true := by rw [hl]; rfl
  have hchange : l.depthChange = 1 := by rw [hl]; rfl
  have hgaps : ∀ c ∈ ([] : Text), isGap c = true := by simp
  have hinside : { ScanState.start with depth := ScanState.start.depth + l.depthChange } = inside := by
    rw [hchange]
    rfl
  have hrest : ScansRest 1 0 ([] ++ (['('] ++ rest)) ScanState.start (l :: lexemes) final :=
    .lexeme hrow (piece_paren (.inl rfl) hgaps rest) hgaps (.inl (by simp [IsContent])) (by simp) hl
      (by rw [hinside]; exact h)
  have hcode : ScansFirst 1 ScanState.start ([] ++ '(' :: rest) ([] ++ (l :: lexemes)) final :=
    .code rfl hgaps (by decide) rfl hrest
  exact ⟨l, hopens, .first rfl rfl rfl hcode⟩

end

section

variable {row fuel column : Nat} {rest : Text} {rows below : List Text} {outer : Int}
  {other next final : ScanState} {before within more behind : List Lexeme} {opener closer : Lexeme}

theorem opened_start : Opened 1 ScanState.start := fun _ hs => by cases hs

-- From behind an opening parenthesis the scan goes on as one that has read nothing else.
theorem exists_echoes (hopener : opener.isOperator ['('] = true)
    (h : ScansLines 1 rows ScanState.start (before ++ opener :: behind) final) :
    ∃ above line below n other more there next, rows = above ++ line :: below ∧
      opener.stop = ⟨1 + above.length, n⟩ ∧ Within n line ∧ behind = more ++ there ∧
      Echoes (depth before) true other inside ∧ other.openString = none ∧
      ScansRest (1 + above.length) n (line.drop n) other more next ∧
      Opened (1 + above.length + 1) next ∧
      ScansLines (1 + above.length + 1) below next there final := by
  obtain ⟨above, line, below, done, here, more, there, middle, next, rfl, rfl, rfl, habove, hrow,
    hline, hbelow⟩ := h.exists_row
  have hopened := habove.opened opened_start
  obtain ⟨n, other, -, hstop, hwithin, hclosed, hdepth, -, hrest⟩ :=
    hline.of_operator hrow hopened (isOperator_iff.mp hopener).1
  have hone : opener.depthChange = 1 := by simp [Lexeme.depthChange, Lexeme.opens, hopener]
  refine ⟨above, line, below, n, other, more, there, next, rfl, hstop, hwithin, rfl,
    ⟨?_, ?_, ?_, ?_, ?_, rfl, rfl⟩, hclosed, hrest, hline.opened hopened, hbelow⟩
  · have hmiddle := habove.depth_eq opened_start
    have hstart : ScanState.start.depth = 0 := rfl
    have hinside : inside.depth = 1 := rfl
    simp only [hdepth, hmiddle, hstart, hinside, depth_append, depth_cons, depth_nil, hone]
    omega
  · rw [hclosed]
    rfl
  · simp [inside, ScanState.start, hclosed]
  · simp [hclosed]
  · intro hopen
    exact absurd rfl hopen

theorem word_of_isOperator {l other : Lexeme} {t : Text} (hl : l.isOperator t = true)
    (hother : other.isOperator t = true) : word l = word other := by
  rw [isOperator_iff] at hl hother
  rw [word, word, hl.1, hl.2, hother.1, hother.2]

-- A payload that ends in the row of its parenthesis.
theorem meets_of_row (hrow : IsRow rest) (hechoes : Echoes outer true other inside)
    (hopener : opener.isOperator ['('] = true) (hcloser : closer.isOperator [')'] = true)
    (h : ScansRest row column rest other (within ++ closer :: behind) next)
    (hnested : Nested 0 within) (hbalanced : depth within = 0) :
    ∃ n, closer.start = ⟨row, column + n⟩ ∧ derails within = false ∧
      Meets (rest.take n) (opener :: (within ++ [closer])) := by
  have hflat := h.flat
  rw [List.any_append, Bool.or_eq_false_iff] at hflat
  obtain ⟨u, v, rfl, hstart, hcrop⟩ :=
    h.crop hechoes.depth rfl rfl ⟨rfl, rfl⟩ hcloser hnested
  obtain ⟨others, closer', final, hscan, halike, hsame, hsettles⟩ := hcrop 1 1
  have hplain : '\n' ∉ '(' :: u ++ [')'] := by
    simpa using not_mem_of_isRow hrow
  have hparens : IsRow ('(' :: (u ++ [')'])) := fun hmem => hplain (List.mem_of_mem_dropLast hmem)
  obtain ⟨first, hfirst, hline⟩ := exists_paren hparens hscan
  refine ⟨u.length, hstart, derails_of_flat hflat.1, first :: (others ++ [closer']), final, ?_, ?_,
    ?_⟩
  · have hlines := (ScansLines.cons hparens hline .nil).eq
    rw [List.append_nil] at hlines
    rw [List.take_left, lines_of_row (by simp) hplain]
    exact hlines
  · exact (halike.append (alike_nil.cons hsame)).cons (word_of_isOperator hopener hfirst)
  · have hzero : inside.depth + depth within - 1 = 0 := by
      rw [hbalanced]
      rfl
    rwa [hzero] at hsettles

-- A payload that ends in a later row.
theorem meets_or_parts (houter : 0 ≤ outer) (hrows : Rows (rest :: below))
    (hechoes : Echoes outer true other inside) (hclosed : other.openString = none)
    (hopener : opener.isOperator ['('] = true) (hcloser : closer.isOperator [')'] = true)
    (h : ScansRest row column rest other more next) (hopened : Opened (row + 1) next)
    (hlater : ScansLines (row + 1) below next (within ++ closer :: behind) final)
    (hnested : Nested 0 (more ++ within)) (hbalanced : depth (more ++ within) = 0) :
    ∃ between last under n payload, below = between ++ last :: under ∧
      closer.start = ⟨row + 1 + between.length, n⟩ ∧
      payload = rest ++ between.flatten ++ last.take n ∧
      (derails (more ++ within) = false ∧ Meets payload (opener :: (more ++ within ++ [closer])) ∨
        derails (more ++ within) = true ∧ Parts 1 (lines ('(' :: payload ++ [')'])) ScanState.start
          (opener :: (more ++ within))) := by
  obtain ⟨between, last, under, done, here, more', there, middle, next', rfl, rfl, rfl, hbetween,
    -, hlast, -⟩ := hlater.exists_row
  obtain ⟨hrow, hbreak, hbelow⟩ := hrows
  have hbreak := hbreak (by simp)
  obtain ⟨hrows, hlastRow, -, -⟩ := rows_split hbelow
  have hflat := h.flat
  obtain ⟨scanned, state, hscanned, halike, hechoes'⟩ :=
    h.echo houter (.inr hbreak) hechoes hclosed rfl hnested.front
  have hfirstRow : IsRow ('(' :: rest) := by
    rw [IsRow, List.dropLast_cons_of_ne_nil (List.ne_nil_of_mem hbreak), List.mem_cons, not_or]
    exact ⟨by decide, hrow⟩
  obtain ⟨first, hfirst, hline⟩ := exists_paren hfirstRow hscanned
  have hinside : inside.depth = 1 := rfl
  have hdepth : state.depth = 1 + depth more := by
    have hbefore := hechoes.depth
    have hafter := hechoes'.depth
    have hwhole := h.depth_eq
    omega
  have hlines (t : Text) : lines ('(' :: (rest ++ between.flatten ++ t) ++ [')']) =
      ('(' :: rest) :: (between ++ lines (t ++ [')'])) := by
    have hwhole := @lines_append_rows (('(' :: rest) :: between)
      (List.forall_mem_cons.mpr ⟨⟨hfirstRow, List.mem_cons_of_mem _ hbreak⟩, hrows⟩) (t ++ [')'])
    simpa using hwhole
  have hinner : Nested (state.depth - 1) (done ++ here) := by
    have := hnested.behind
    rwa [Int.zero_add, show depth more = state.depth - 1 by omega] at this
  rcases @ScansLines.echo (row + 1) 2 outer true next state middle done between hbetween houter
    (fun line hline => (hrows line hline).2) hechoes' hopened hinner.front with
    ⟨hfar, others, state', hscan, halike', hechoes''⟩ | ⟨hfar, hparts⟩
  · have hdepth' : state'.depth = state.depth + depth done := by
      have hbefore := hechoes'.depth
      have hafter : middle.depth = outer + state'.depth := hechoes''.depth
      have hwhole := hbetween.depth_eq hopened
      omega
    have hnested' : Nested (state'.depth - 1) here := by
      have := hinner.behind
      rwa [show state.depth - 1 + depth done = state'.depth - 1 by omega] at this
    obtain ⟨hderails, u, v, rfl, hstart, hcrop⟩ := hlast.crop houter hlastRow hechoes''
      (hbetween.opened hopened) hcloser hnested'
    obtain ⟨others', closer', final', hlast', halike'', hsame, hsettles⟩ :=
      hcrop (2 + between.length)
    refine ⟨between, _, under, u.length, _, rfl, hstart, rfl, .inl ⟨?_, ?_⟩⟩
    · rw [derails_append, if_neg (by simp [hflat]), derails_append, hderails]
      rw [Bool.true_and] at hfar
      rw [hfar, ite_self]
    · have hplain : '\n' ∉ u ++ [')'] := by
        simpa using not_mem_of_isRow hlastRow
      have hlastRow' : IsRow (u ++ [')']) := fun hmem => hplain (List.mem_of_mem_dropLast hmem)
      have hwhole := (ScansLines.cons hfirstRow hline
        (hscan.append (.cons hlastRow' hlast' .nil))).eq
      rw [List.append_nil] at hwhole
      refine ⟨first :: (scanned ++ (others ++ (others' ++ [closer']))), final', ?_, ?_, ?_⟩
      · rw [List.take_left, hlines, lines_of_row (by simp) hplain]
        exact hwhole
      · rw [List.append_assoc, List.append_assoc]
        exact (halike.append (halike'.append (halike''.append (alike_nil.cons hsame)))).cons
          (word_of_isOperator hopener hfirst)
      · rw [depth_append, depth_append] at hbalanced
        rwa [show state'.depth + depth here - 1 = 0 by omega] at hsettles
  · obtain ⟨above, below, common, broken, rest', others, final', rfl, rfl, hstray, hscan, halike',
      hrunaway⟩ := hparts
    obtain ⟨-, -, hstart, -⟩ := hlast.of_operator hlastRow (hbetween.opened hopened)
      (isOperator_iff.mp hcloser).1
    refine ⟨above ++ below, last, under, closer.start.column, _, rfl, ?_, rfl, .inr ⟨?_, ?_⟩⟩
    · rw [← hstart]
    · rw [Bool.true_and] at hfar
      have hspans : (common ++ broken :: rest').any spansRows = true := by
        by_contra hspans
        rw [derails_of_flat (by simpa using hspans)] at hfar
        cases hfar
      rw [derails_append, if_neg (by simp [hflat]), derails_append, if_pos hspans, hfar]
    · refine ⟨('(' :: rest) :: above, below ++ lines (last.take closer.start.column ++ [')']),
        opener :: (more ++ common), broken, rest' ++ here, first :: (scanned ++ others), final', ?_,
        by simp, hstray, ?_, ?_, hrunaway⟩
      · rw [hlines, List.cons_append, List.append_assoc]
      · rw [scanLines, hline.eq]
        simp [hscan]
      · exact (halike.append halike').cons (word_of_isOperator hopener hfirst)

end

section

variable {path : Path} {t payload : Text} {before within behind lexemes : List Lexeme}
  {opener closer : Lexeme} {final : ScanState} {site : Site}

theorem meets_or_parts_of_scan (houter : 0 ≤ depth before)
    (hopener : opener.isOperator ['('] = true) (hcloser : closer.isOperator [')'] = true)
    (hnested : Nested 0 within) (hbalanced : depth within = 0)
    (hpayload : payload = slice (lines t) opener.stop closer.start)
    (h : ScansLines 1 (lines t) ScanState.start
      (before ++ opener :: (within ++ closer :: behind)) final) :
    derails within = false ∧ Meets payload (opener :: (within ++ [closer])) ∨
      derails within = true ∧
        Parts 1 (lines ('(' :: payload ++ [')'])) ScanState.start (opener :: within) := by
  obtain ⟨above, line, below, n, other, more, there, next, hrows, hstop, hwithin, heq, hechoes,
    hclosed, hrest, hopened, hlater⟩ := exists_echoes hopener h
  obtain ⟨hrow, hbreak, hbelow⟩ := (rows_split (hrows ▸ rows_lines t)).2
  rw [hrows, hstop] at hpayload
  rcases append_eq_append_cons heq.symm with ⟨rest, rfl, rfl⟩ | ⟨rest, rfl, rfl⟩
  · have hbehind : Rows (line.drop n :: below) :=
      ⟨hrow.drop n, fun hne => hwithin.mem_drop_iff.mpr (hbreak hne), hbelow⟩
    obtain ⟨between, last, under, m, payload', rfl, hstart, rfl, hcases⟩ :=
      meets_or_parts houter hbehind hechoes hclosed hopener hcloser hrest hopened hlater hnested
        hbalanced
    rw [hstart, slice_rows] at hpayload
    rwa [hpayload]
  · obtain ⟨m, hstart, hderails, hmeets⟩ :=
      meets_of_row (hrow.drop n) hechoes hopener hcloser hrest hnested hbalanced
    rw [hstart, slice_row, List.drop_take, Nat.add_sub_cancel_left] at hpayload
    rw [hpayload]
    exact .inl ⟨hderails, hmeets⟩

theorem isLayout_of_isOperator {l : Lexeme} {t : Text} (h : l.isOperator t = true) :
    l.isLayout = false := by
  simp [Lexeme.isLayout, (isOperator_iff.mp h).1]

theorem isOperator_of_word {l other : Lexeme} {t : Text} (hl : l.isOperator t = true)
    (h : word l = word other) : other.isOperator t = true := by
  obtain ⟨hkind, htext⟩ := Prod.mk.inj h
  rw [isOperator_iff] at hl ⊢
  exact ⟨hkind ▸ hl.1, htext ▸ hl.2⟩

theorem solid_of_layout (h : ∀ l ∈ behind, l.isLayout = true) : solid behind = [] := by
  rw [solid, List.filter_eq_nil_iff]
  intro l hl
  simp [h l hl]

theorem reread_of_meets (hopener : opener.isOperator ['('] = true)
    (hcloser : closer.isOperator [')'] = true)
    (h : Meets payload (opener :: (within ++ [closer]))) : Reread payload within := by
  obtain ⟨others, final, hscan, halike, hsettles⟩ := h
  obtain ⟨behind, hscan', hbehind⟩ := scan_of_scanLines hscan hsettles
  have hsolid := halike.solid
  rw [solid_cons (isLayout_of_isOperator hopener), solid_append,
    solid_cons (isLayout_of_isOperator hcloser)] at hsolid
  obtain ⟨first, more, hothers, hfirst, hmore⟩ := hsolid.exists_cons
  obtain ⟨inner, back, rfl, hinner, hback⟩ := hmore.exists_append
  obtain ⟨last, more, rfl, hlast, hnil⟩ := hback.exists_cons
  obtain rfl : more = [] := List.map_eq_nil_iff.mp hnil.symm
  refine ⟨_, first, inner, last, hscan', ?_, isOperator_of_word hopener hfirst,
    isOperator_of_word hcloser hlast, hinner⟩
  rw [solid_append, solid_of_layout hbehind, List.append_nil, hothers]

-- Where the scan of the payload alone has an open string, the lexeme that ends it is one.
theorem not_reread_of_parts (hopener : opener.isOperator ['('] = true)
    (h : Parts 1 (lines ('(' :: payload ++ [')'])) ScanState.start (opener :: within)) :
    ¬ Reread payload within := by
  rintro ⟨lexemes, first, inner, last, hscan, hsolid, -, -, halike⟩
  obtain ⟨above, below, common, broken, more, others, middle, hrows, hsplit, hstray, habove,
    hcommon, hrunaway⟩ := h
  obtain ⟨scanned, final, _, _, hlines, hclosed, -, -, rfl⟩ := scansLines_of_scan hscan
  have haboveRows : ∀ line ∈ above, IsRow line := fun line hline =>
    (rows_lines _).isRow line (by rw [hrows]; exact List.mem_append_left _ hline)
  rw [hrows] at hlines
  obtain ⟨rest, rfl, hbelow⟩ := hlines.of_rows (scansLines_of_eq haboveRows habove)
  rcases hbelow.runaway hrunaway with ⟨-, -, s, hs, -⟩ | ⟨string, rest, rfl, hstring⟩
  · rw [hclosed] at hs
    cases hs
  · cases common with
    | nil =>
      rw [List.nil_append] at hsplit
      rw [← (List.cons.inj hsplit).1, (isOperator_iff.mp hopener).1] at hstray
      cases hstray
    | cons first' common =>
      obtain ⟨rfl, hwithin⟩ := List.cons.inj hsplit
      obtain ⟨paren, others, rfl, hparen, hothers⟩ := hcommon.exists_cons
      have hbroken : broken.isLayout = false := by simp [Lexeme.isLayout, hstray]
      have hends : string.isLayout = false := by simp [Lexeme.isLayout, hstring]
      rw [List.append_assoc, List.cons_append, solid_cons
        (isLayout_of_isOperator (isOperator_of_word hopener hparen)), solid_append,
        List.cons_append, solid_cons hends] at hsolid
      rw [hwithin, List.append_eq, solid_append, solid_cons hbroken] at halike
      have hwhole : Alike (solid common ++ broken :: solid more ++ [last]) (inner ++ [last]) :=
        halike.append rfl
      have hsame : (solid common).map word = (solid others).map word := hothers.solid
      simp only [← (List.cons.inj hsolid).2, Alike, List.append_assoc, List.cons_append,
        List.map_append, List.map_cons, hsame] at hwhole
      have hfirst := (List.cons.inj (List.append_cancel_left hwhole)).1
      rw [word, word, hstray, hstring] at hfirst
      cases (Prod.mk.inj hfirst).1

-- The payload of a directive is made of the same lexemes in its text as in parentheses of its own,
-- unless a string in three quotes in it is broken off, and then it is not.
theorem find_reread (hscan : scan t = .ok lexemes) (hnested : Nested 0 lexemes) :
    ∃ sites, find path t = .ok sites ∧ ∀ site ∈ sites, ∃ within closer,
      Consists t site within closer ∧ closer.closes = true ∧ Nested 0 within ∧ depth within = 0 ∧
        (closer.isOperator [')'] = true →
          (Reread site.payload within ↔ derails within = false) ∧
          (derails within = false → ∀ e, Payload.ofText site.payload ≠
            .error (.ofCause (.directive (.unreadablePayload e))))) := by
  have hfind := (@find_eq_directives path _ _ hscan hnested).1
  refine ⟨_, hfind, fun site hsite => ?_⟩
  obtain ⟨within, closer, hconsists, hcloses, hinner, hbalanced⟩ := consists_of_mem_find hfind hsite
  refine ⟨within, closer, hconsists, hcloses, hinner, hbalanced, fun hcloser => ?_⟩
  obtain ⟨before, name, opener, behind, hwhole, hopener, hsame⟩ := hconsists
  obtain rfl := Except.ok.inj (hscan.symm.trans hwhole)
  have hpayload : site.payload = slice (lines t) opener.stop closer.start := by rw [hsame]; rfl
  have hsplit : before ++ name :: opener :: (within ++ closer :: behind) =
      before ++ [name] ++ opener :: within ++ closer :: behind := by simp
  rw [hsplit] at hscan hnested
  obtain ⟨more, _, final, -, hlines, -⟩ :=
    exists_scansLines hscan (isLayout_of_isOperator hcloser)
  rw [List.append_assoc, List.cons_append] at hlines
  have houter : 0 ≤ depth (before ++ [name]) := by
    have hopens := hnested.front.behind.nonneg
    rwa [Int.zero_add] at hopens
  have hcases := meets_or_parts_of_scan houter hopener hcloser hinner hbalanced hpayload hlines
  rcases hcases with ⟨hderails, hmeets⟩ | ⟨hderails, hparts⟩
  · have hreread := reread_of_meets hopener hcloser hmeets
    refine ⟨iff_of_true hreread hderails, fun _ e he => ?_⟩
    obtain ⟨lexemes, _, _, _, hread, -⟩ := hreread
    rw [scan_of_unreadable he] at hread
    cases hread
  · have hparted := not_reread_of_parts hopener hparts
    simp [hparted, hderails]

theorem derails_of_calm (h : ∀ l ∈ lexemes, l.kind = .stray → isTripled l.text = false) :
    derails lexemes = false := by
  unfold derails
  cases hfind : lexemes.find? spansRows with
  | none => rfl
  | some l => simpa using h l (List.mem_of_find?_eq_some hfind)

end

-- Behind a broken string a payload with a string that is continued, and one in three quotes.
def continuedText : Text := "'a\\\nb\n\nmagic('b\\\nc' # d\n \"\"\"e\nf\"\"\")\n".toList

theorem find_reread_continued : ∃ site within closer,
    find modulePath continuedText = .ok [site] ∧ Consists continuedText site within closer ∧
      closer.isOperator [')'] = true ∧ Reread site.payload within := by
  have hfind : find modulePath continuedText = .ok [⟨modulePath, "magic".toList,
      "'b\\\nc' # d\n \"\"\"e\nf\"\"\"".toList, ⟨4, 0⟩, ⟨7, 5⟩, []⟩] :=
    ok_of_toOption (by decide +kernel)
  obtain ⟨lexemes, ⟨hscan, hnested⟩, hcalm⟩ : ∃ lexemes,
      (scan continuedText = .ok lexemes ∧ Nested 0 lexemes) ∧
        lexemes.all (fun l => isRound l && !(l.kind = .stray && isTripled l.text)) = true :=
    ⟨(scan continuedText).toOption.getD [], by decide +kernel⟩
  obtain ⟨sites, hsites, hreread⟩ := @find_reread modulePath _ _ hscan hnested
  obtain rfl := Except.ok.inj (hfind.symm.trans hsites)
  obtain ⟨within, closer, hconsists, hcloses, -, -, hsame⟩ := hreread _ List.mem_cons_self
  have hall : ∀ l ∈ within ++ [closer],
      isRound l = true ∧ (l.kind = .stray → isTripled l.text = false) := by
    intro l hl
    obtain ⟨before, name, opener, behind, hwhole, -⟩ := hconsists
    obtain rfl := Except.ok.inj (hscan.symm.trans hwhole)
    have hmem : l ∈ before ++ name :: opener :: (within ++ closer :: behind) := by
      refine List.mem_append_right _ (List.mem_cons_of_mem _ (List.mem_cons_of_mem _ ?_))
      rw [List.append_cons]
      exact List.mem_append_left _ hl
    simpa [imp_iff_not_or] using List.all_eq_true.mp hcalm l hmem
  rw [List.forall_mem_append, List.forall_mem_singleton] at hall
  have hcloser := isOperator_of_isRound hcloses hall.2.1
  exact ⟨_, within, closer, hfind, hconsists, hcloser,
    (hsame hcloser).1.mpr (derails_of_calm fun l hl => (hall.1 l hl).2)⟩

-- The same without the continued string: the payload is a broken string in its text, and in
-- parentheses of its own one that has no end.
def brokenOffText : Text := "'a\\\nb\n\nmagic(\"\"\"x\ny\n)\n".toList

theorem not_reread : ∃ lexemes site within closer, scan brokenOffText = .ok lexemes ∧
    Nested 0 lexemes ∧ find modulePath brokenOffText = .ok [site] ∧
      Consists brokenOffText site within closer ∧ closer.isOperator [')'] = true ∧
      scan ('(' :: site.payload ++ [')']) = .error (.openString ⟨1, 1⟩) ∧
      Payload.ofText site.payload =
        .error (.ofCause (.directive (.unreadablePayload (.openString ⟨1, 1⟩)))) := by
  have hpayload : scan ('(' :: "\"\"\"x\ny\n".toList ++ [')']) = .error (.openString ⟨1, 1⟩) := by
    decide +kernel
  refine ⟨(scan brokenOffText).toOption.getD [], ⟨modulePath, "magic".toList,
    "\"\"\"x\ny\n".toList, ⟨4, 0⟩, ⟨6, 1⟩, []⟩,
    [⟨.stray, "\"\"\"x\ny\n".toList, ⟨4, 6⟩, ⟨5, 2⟩⟩], ⟨.operator, [')'], ⟨6, 0⟩, ⟨6, 1⟩⟩,
    by decide +kernel, by decide +kernel, ok_of_toOption (by decide +kernel), ?_, rfl, hpayload, ?_⟩
  · refine ⟨((scan brokenOffText).toOption.getD []).take 2,
      ⟨.name, "magic".toList, ⟨4, 0⟩, ⟨4, 5⟩⟩, ⟨.operator, ['('], ⟨4, 5⟩, ⟨4, 6⟩⟩,
      ((scan brokenOffText).toOption.getD []).drop 6, by decide +kernel, rfl, by decide +kernel⟩
  · simp only [Payload.ofText, items, hpayload]
    rfl

end Ghostwriter.Directive

import Ghostwriter.Proofs.Splice.Seat

/-!
A text whose directives are all replaced. If it is a program with `pass` in their places, it is one
with code in their places, and has the statements of that program and of the code.
-/

namespace Ghostwriter.Splice

open Ghostwriter.Directive Ghostwriter.Grammar Ghostwriter.Lexeme Ghostwriter.Text

section

variable {before behind next more read source u : Text} {parts : List Text} {site : Site}
  {sites : List Site} {last : RowState} {kept span rest : Text}

-- A row that is joined to the one above has a backslash there.
theorem suffix_of_joined (h : Reaches .start u last) (hjoined : last.mode = .joined) :
    ['\\', '\n'] <:+ u := by
  rcases List.eq_nil_or_concat u with rfl | ⟨before, c, rfl⟩
  · obtain rfl := reaches_nil.mp h
    cases hjoined
  · rw [List.concat_eq_append] at h ⊢
    obtain ⟨middle, hbefore, hend⟩ := reaches_append.mp h
    obtain ⟨mark, next, hstep, hnext⟩ := reaches_cons.mp hend
    obtain rfl := reaches_nil.mp hnext
    obtain ⟨rfl, hslash⟩ := RowState.step?_mode_joined hstep hjoined
    rcases List.eq_nil_or_concat before with rfl | ⟨before, d, rfl⟩
    · obtain rfl := reaches_nil.mp hbefore
      cases hslash
    · rw [List.concat_eq_append] at hbefore ⊢
      obtain ⟨first, -, hend⟩ := reaches_append.mp hbefore
      obtain ⟨mark, next, hstep, hnext⟩ := reaches_cons.mp hend
      obtain rfl := reaches_nil.mp hnext
      obtain rfl := RowState.step?_mode_backslash hstep hslash
      exact ⟨before, by simp⟩

theorem exists_kept (h : Spans before sites behind) :
    ∃ next parts more, keptFrom (before ++ behind) before.length sites = next :: parts ∧
      behind = next ++ more ∧ (sites = [] → more = []) := by
  cases h with
  | nil => exact ⟨behind, [], [], by simp [keptFrom], by simp, fun _ => rfl⟩
  | @cons _ kept span behind site sites hspan hothers =>
    exact ⟨kept, _, span ++ behind, keptFrom_cons hspan.start hspan.stop, rfl, by simp⟩

-- What is left of a line behind a directive is left of it with anything else behind the next one.
theorem Seated.trailing (h : Seated read (next :: parts) sites) (hread : Reaches .start read .start)
    (hlast : ∃ c ∈ read.getLast?, c ≠ '\n') (htrailing : Trailing (next ++ more))
    (hmore : sites = [] → more = []) {more' : Text} (hmore' : sites = [] → more' = []) :
    Trailing (next ++ more') := by
  cases h with
  | nil => rwa [hmore' rfl, ← hmore rfl]
  | @cons _ rows _ site _ _ hbegins =>
    obtain ⟨marks, hrun, hrow⟩ := hbegins
    obtain ⟨marks₁, middle, marks', hreadRun, hrowsRun, -⟩ := RowState.run?_split hrun
    obtain rfl := hread.eq ⟨_, hreadRun⟩
    obtain ⟨c, hc, hbreak⟩ := hlast
    have hne : rows ≠ [] := by
      rintro rfl
      rw [List.append_nil, Option.mem_def.mp hc] at hrow
      rcases hrow with rfl | hsame
      · cases hc
      · exact hbreak (Option.some.inj hsame)
    have hends : EndsLine rows marks' := by
      refine ⟨hrowsRun, .inr ?_⟩
      rw [List.getLast?_append_of_ne_nil _ hne] at hrow
      exact hrow.resolve_left (by simp [hne])
    rw [List.append_assoc] at htrailing ⊢
    exact htrailing.of_endsLine hends hne _

-- At a directive the reader is at the start of a logical line, if none is joined to that of the
-- directive. Behind it reader and scanner go on alike.
theorem begins_of_alone (halone : Alone (before ++ kept) span behind site)
    (hblank : ∀ c ∈ site.indent, isGap c = true)
    (hlast : ∀ c ∈ before.getLast?, c ≠ '\n' ∧ isGap c = false)
    (hresumes : Resumes before (kept ++ (span ++ behind))) (hread : Reaches .start read .start)
    (hempty : before = [] → read = []) (hrun : Reaches .start (read ++ (kept ++ rest)) last)
    (hstraight : ∀ rows, before ++ kept = rows ++ site.indent → (∀ c ∈ rows.getLast?, c = '\n') →
      endsContinued rows = false) :
    ∃ u, kept = u ++ site.indent ∧ (∃ marks, EndsLine (read ++ u) marks) ∧
      Resumes (before ++ kept ++ span) behind := by
  obtain ⟨rows, state, hrows, hrowsLast, harrives, hclosed, hdepth, hafter⟩ := halone.margin
  obtain ⟨u, rfl, rfl⟩ : ∃ u, kept = u ++ site.indent ∧ rows = before ++ u := by
    rcases List.append_eq_append_iff.mp hrows with ⟨u, rfl, hkept⟩ | ⟨margin, hbefore, hindent⟩
    · exact ⟨u, hkept, rfl⟩
    · rcases List.eq_nil_or_concat margin with rfl | ⟨margin, c, rfl⟩
      · exact ⟨[], by simpa using hindent.symm, by simpa using hbefore.symm⟩
      · have hc : isGap c = true := hblank c (by simp [hindent])
        have hnone := (hlast c (by simp [hbefore])).2
        rw [hc] at hnone
        cases hnone
  have hcontinued := hstraight _ hrows hrowsLast
  obtain ⟨first, hfirst, hothers⟩ := reaches_append.mp hrun
  obtain rfl := hread.eq hfirst
  rw [List.append_assoc] at hothers
  obtain ⟨middle, hu, -⟩ := reaches_append.mp hothers
  obtain ⟨hagree, hbegins⟩ := hresumes u (site.indent ++ (span ++ behind)) state middle (by simp)
    hrowsLast harrives hu
  have hzero : state.depth = 0 := by
    rcases hagree with ⟨-, -, -, -, hsame, -⟩ | ⟨-, -, -, hsame, -⟩ <;> omega
  have hjoined : state.continued = false := by
    rcases hagree with ⟨-, -, -, -, -, hjoined⟩ | ⟨-, -, -, -, hjoined⟩
    · rw [hjoined, decide_eq_false_iff_not]
      intro hmode
      have hsuffix := (suffix_of_joined hu hmode).trans (List.suffix_append before u)
      simp [endsContinued, List.isSuffixOf_iff_suffix.mpr hsuffix] at hcontinued
    · exact hjoined
  obtain rfl := eq_start_of_agree hagree hbegins hclosed hzero hjoined
  obtain ⟨marks, hrunRows⟩ := reaches_append.mpr ⟨_, hread, hu⟩
  refine ⟨u, rfl, ⟨marks, hrunRows, ?_⟩, hafter hzero⟩
  by_cases hne : u = []
  · subst hne
    left
    rw [List.append_nil] at hrowsLast ⊢
    have hnone : before.getLast? = none := Option.eq_none_iff_forall_not_mem.mpr fun c hc =>
      (hlast c hc).1 (hrowsLast c hc)
    exact hempty (List.getLast?_eq_none_iff.mp hnone)
  · right
    rw [List.getLast?_append_of_ne_nil _ hne] at hrowsLast ⊢
    rw [← hrowsLast _ (List.getLast?_eq_some_getLast hne)]
    exact List.getLast?_eq_some_getLast hne

-- No row above that of a directive ends in a backslash.
def Unjoined (source : Text) (site : Site) : Prop :=
  endsContinued (source.take (offset (lines source) ⟨site.start.line, 0⟩)) = false

instance (source : Text) (site : Site) : Decidable (Unjoined source site) :=
  inferInstanceAs (Decidable (_ = false))

theorem Unjoined.rows {rows : Text} (h : Unjoined (before ++ behind) site)
    (hstart : site.start = positionOf before) (hbefore : before = rows ++ site.indent)
    (hrows : ∀ c ∈ rows.getLast?, c = '\n') (hblank : ∀ c ∈ site.indent, isGap c = true) :
    endsContinued rows = false := by
  have hfeed : '\n' ∉ site.indent := fun hmem => by cases hblank _ hmem
  have hsame : site.start.line = (positionOf rows).line := by
    rw [hstart, hbefore, positionOf_append, List.count_eq_zero_of_not_mem hfeed, Nat.add_zero]
  have hline : (⟨site.start.line, 0⟩ : Position) = positionOf rows := by
    have hcolumn := column_of_getLast hrows
    rw [hsame, ← hcolumn]
  have htext : before ++ behind = rows ++ (site.indent ++ behind) := by
    rw [hbefore, List.append_assoc]
  rwa [Unjoined, htext, hline, offset_positionOf, List.take_left] at h

-- The directives of a text each have a logical line of their own, where it is a program with `pass`
-- in their places.
theorem seated_of_spans (hspans : Spans before sites behind) (hsource : source = before ++ behind)
    (halone : ∀ site ∈ sites, ∀ before span behind, source = before ++ (span ++ behind) →
      IsSpan before span behind site → Alone before span behind site)
    (hunjoined : ∀ site ∈ sites, Unjoined source site)
    (hlast : ∀ c ∈ before.getLast?, c ≠ '\n' ∧ isGap c = false) (hresumes : Resumes before behind)
    (hread : Reaches .start read .start) (hempty : before = [] → read = [])
    (hrun : Reaches .start (read ++ interleave (keptFrom source before.length sites) (passes sites))
      last) :
    Seated read (keptFrom source before.length sites) sites := by
  induction hspans generalizing read with
  | nil => exact .nil
  | @cons before kept span behind site sites hspan hothers ih =>
    rw [List.forall_mem_cons] at halone hunjoined
    have hblank : ∀ c ∈ site.indent, isGap c = true := by
      obtain ⟨_, -, -, hblank⟩ := hspan.margin
      exact hblank
    have hcut : source = before ++ kept ++ (span ++ behind) := by
      rw [hsource, List.append_assoc]
    have hcut' : source = before ++ kept ++ span ++ behind := by
      rw [hcut, List.append_assoc _ span]
    have hsite := halone.1 _ _ _ hcut hspan
    have hkept : keptFrom source before.length (site :: sites) =
        kept :: keptFrom source (before ++ kept ++ span).length sites := by
      rw [hsource, keptFrom_cons hspan.start hspan.stop, ← hcut', hsource]
    rw [hkept, passes_cons, interleave, List.append_assoc kept] at hrun
    rw [hkept]
    obtain ⟨u, rfl, hbegins, hafter⟩ := begins_of_alone hsite hblank hlast hresumes hread hempty
      hrun fun rows hrows hrowsLast =>
        (hcut ▸ hunjoined.1).rows hspan.start hrows hrowsLast hblank
    obtain ⟨next, parts, more, hnext, hbehind, hmore⟩ := exists_kept hothers
    have hreadPass : Reaches .start (read ++ (u ++ site.indent) ++ "pass".toList) .start := by
      obtain ⟨marks, hu⟩ := hbegins
      obtain ⟨marks', hpass⟩ := run?_pass hblank
      have hwhole := RowState.run?_append hu.read hpass
      exact ⟨_, by simpa using hwhole⟩
    have hseated := ih hcut' halone.2 hunjoined.2 (fun c hc => ?_) hafter hreadPass
      (fun hnil => ?_) ?_
    · rw [← hcut', hnext] at *
      refine .cons hbegins hblank (fun more' hmore' => ?_) hseated
      refine hseated.trailing hreadPass ⟨'s', ?_, by decide⟩ (hbehind ▸ hsite.trailing) hmore
        hmore'
      rw [List.getLast?_append_of_ne_nil _ (by decide)]
      rfl
    · obtain ⟨d, hd, hplain⟩ := getLast?_of_isSpan hspan (before ++ (u ++ site.indent))
      obtain rfl := Option.mem_unique hc hd
      exact hplain
    · exact absurd (List.append_eq_nil_iff.mp hnil).2 hspan.ne_nil
    · simpa using hrun

end

-- A text that scanner and reader cut into logical lines alike, but for what is in its directives: no
-- carriage return, no string that is broken off, and no backslash above a directive.
structure Clear (source : Text) (sites : List Site) : Prop where
  returns : '\r' ∉ source
  whole : ∀ lexemes, scan source = .ok lexemes → ∀ l ∈ lexemes, l.isBroken = false
  unjoined : ∀ site ∈ sites, Unjoined source site

section

variable {c : Char} {path : Path} {source t : Text} {parts bodies others : List Text}
  {sites : List Site} {replacements : List (Site × Snippet)} {program : Snippet}

theorem mem_interleave (h : c ∈ interleave parts bodies) :
    (∃ part ∈ parts, c ∈ part) ∨ ∃ made ∈ bodies, c ∈ made := by
  fun_induction interleave parts bodies with
  | case1 part parts made bodies ih =>
    simp only [List.mem_append] at h
    rcases h with (h | h) | h
    · exact .inl ⟨part, List.mem_cons_self, h⟩
    · exact .inr ⟨made, List.mem_cons_self, h⟩
    · exact (ih h).imp (fun ⟨p, hp, hc⟩ => ⟨p, List.mem_cons_of_mem _ hp, hc⟩)
        fun ⟨p, hp, hc⟩ => ⟨p, List.mem_cons_of_mem _ hp, hc⟩
  | case2 => exact .inl (List.mem_flatten.mp h)

theorem mem_interleave_of_mem {part : Text} (hpart : part ∈ parts) (h : c ∈ part) :
    c ∈ interleave parts bodies := by
  fun_induction interleave parts bodies with
  | case1 first parts made bodies ih =>
    rcases List.mem_cons.mp hpart with rfl | hpart
    · simp [h]
    · simp [ih hpart]
  | case2 => exact List.mem_flatten.mpr ⟨part, hpart, h⟩

theorem seated_find (hfind : find path source = .ok sites) (hclear : Clear source sites)
    {kinds : List StatementKind} (hreturn : '\r' ∉ withPass source sites)
    (h : statements? (withPass source sites) = some kinds) :
    Seated [] (kept source sites) sites := by
  have hspans := spans_find hfind
  obtain ⟨lines, -, hlines, -⟩ := statements?_iff.mp h
  obtain ⟨last, hlast, -⟩ := exists_settled hlines hreturn
  rw [← List.nil_append source, withPass_append hspans.cut, List.nil_append,
    List.nil_append] at hlast
  refine seated_of_spans hspans rfl (fun site hsite before span behind hsource hspan => ?_)
    hclear.unjoined (by simp) (resumes_start hclear.returns) (reaches_nil.mpr rfl) (fun _ => rfl)
    hlast
  obtain ⟨lexemes, name, opener, within, closer, tail, hscan, hbegun, hsite⟩ :=
    begun_of_mem_find hfind hsite
  subst hsource
  exact alone_of_begun hscan (hclear.whole _ hscan) hclear.returns hspan hbegun hsite

theorem mem_of_mem_keptFrom {n : Nat} {part : Text} (hpart : part ∈ keptFrom source n sites)
    (h : c ∈ part) : c ∈ source := by
  induction sites generalizing n with
  | nil =>
    obtain rfl := List.mem_singleton.mp hpart
    exact List.mem_of_mem_drop h
  | cons site sites ih =>
    rcases List.mem_cons.mp hpart with rfl | hpart
    · exact List.mem_of_mem_take (List.mem_of_mem_drop h)
    · exact ih hpart

theorem return_not_mem_withPass (hcut : Cut [] sites source) (h : '\r' ∉ source) :
    '\r' ∉ withPass source sites := by
  have htext := withPass_append hcut
  rw [List.nil_append, List.nil_append] at htext
  rw [htext]
  intro hmem
  rcases mem_interleave hmem with ⟨part, hpart, hc⟩ | ⟨made, hmade, hc⟩
  · exact h (mem_of_mem_keptFrom hpart hc)
  · obtain ⟨_, -, rfl⟩ := List.mem_map.mp hmade
    exact absurd hc (by decide)

theorem exists_of_mem_bodies
    (hbodies : List.Forall₂ (fun r made => body r.1 r.2 = .ok made) replacements bodies)
    (h : t ∈ bodies) : ∃ r ∈ replacements, body r.1 r.2 = .ok t := by
  induction hbodies with
  | nil => cases h
  | cons hbody _ ih =>
    rcases List.mem_cons.mp h with rfl | h
    · exact ⟨_, List.mem_cons_self, hbody⟩
    · obtain ⟨r, hr, hmade⟩ := ih h
      exact ⟨r, List.mem_cons_of_mem _ hr, hmade⟩

theorem null_not_mem_interleave
    (hbodies : List.Forall₂ (fun r made => body r.1 r.2 = .ok made) replacements bodies)
    (haccepted : ∀ r ∈ replacements, r.2.Accepted)
    (hblank : ∀ r ∈ replacements, ∀ c ∈ r.1.indent, isGap c = true)
    (h : '\x00' ∉ interleave parts others) : '\x00' ∉ interleave parts bodies := by
  intro hmem
  rcases mem_interleave hmem with ⟨part, hpart, hc⟩ | ⟨made, hmade, hc⟩
  · exact h (mem_interleave_of_mem hpart hc)
  · obtain ⟨r, hr, hbody⟩ := exists_of_mem_bodies hbodies hmade
    refine not_mem_body hbody ?_ (fun hgap => ?_) (by decide) (by decide) hc
    · exact (Snippet.check_eq_ok.mp (haccepted r hr).check_eq).1
    · cases hblank r hr _ hgap

-- A program with `pass` for its directives stays one when code takes their places. A directive on
-- the outermost level then has the statements of its code there, and nothing else changes.
theorem substituteAll_fills (hfind : find path source = .ok sites) (hclear : Clear source sites)
    (hsites : replacements.map Prod.fst = sites) (haccepted : ∀ r ∈ replacements, r.2.Accepted)
    (hfits : ∀ r ∈ replacements, Fits (withPass source sites) r.1 r.2)
    (hprogram : Snippet.ofResponse false (withPass source sites) = .ok program) :
    ∃ out filled, substituteAll source replacements = .ok out ∧
      fill? source replacements program.items = some filled ∧
      Snippet.ofResponse false out = .ok ⟨out, filled⟩ := by
  have hcut := cut_find hfind
  have hreturn := return_not_mem_withPass hcut hclear.returns
  obtain ⟨htext, hcheck⟩ := Snippet.ofResponse_eq_ok.mp hprogram
  rw [if_neg Bool.false_ne_true, unifyBreaks_of_not_mem hreturn] at htext
  obtain ⟨hnull, hstatements⟩ := Snippet.check_eq_ok.mp (htext ▸ hcheck)
  have hp : withPass source sites = [] ++ interleave (kept source sites) (passes sites) := by
    have hwhole := withPass_append hcut
    rwa [List.nil_append, List.nil_append] at hwhole
  obtain ⟨bodies, hbodies⟩ := exists_bodies fun r hr => body_eq_ok_iff.mpr <| by
    by_cases hindent : r.1.indent = []
    · exact .inl hindent
    · exact .inr ((hfits r hr).nested hindent).scanned
  obtain ⟨filled, hfilled, hdone, hreturn'⟩ := statements?_interleave
    (seated_find hfind hclear hreturn hstatements) hsites hbodies haccepted hfits hp hreturn
    hstatements
  subst hsites
  refine ⟨_, filled, substituteAll_eq hcut hbodies, hfilled, Snippet.ofResponse_eq_ok.mpr
    ⟨(unifyBreaks_of_not_mem hreturn').symm, Snippet.check_eq_ok.mpr ⟨?_, hdone⟩⟩⟩
  refine null_not_mem_interleave hbodies haccepted (fun r hr => ?_) (hp ▸ hnull)
  obtain ⟨_, _, _, -, hspan⟩ := (spans_find hfind).exists_span (List.mem_map_of_mem hr)
  obtain ⟨_, -, -, hblank⟩ := hspan.margin
  exact hblank

-- Code whose lines begin with text fits into a block behind spaces, if its blanks are spaces too.
theorem fitsInto_of_aligned {indent code : Text} {kinds : List StatementKind} (hne : indent ≠ [])
    (hblank : ∀ c ∈ indent, c = ' ' ∨ c = '\t') (hreturn : '\r' ∉ code) (hheaded : Headed code)
    (hfeed : '\x0c' ∉ code) (htabs : '\t' ∉ code ∨ 8 ∣ (marginOf indent).column)
    (hkinds : statements? code = some kinds)
    (hroom : ∀ d ∈ depths t, ∀ d' ∈ depths code, d + d' < Block.maxMargins) :
    FitsInto t indent code := by
  obtain ⟨lines, blocks, hlines, hblocks, -⟩ := statements?_iff.mp hkinds
  have hgap : ∀ c ∈ indent, isGap c = true := by
    intro c hc
    rcases hblank c hc with rfl | rfl <;> rfl
  refine ⟨exists_scan hlines hblocks hreturn hheaded, fun heq => ?_,
    fun _ h => sameOrder_linesBehind? hgap hheaded hfeed htabs h, hroom⟩
  have hbelow : Margin.Below ⟨0, 0⟩ (marginOf indent) := below_leadingBlanks _ hne hblank
  rw [heq] at hbelow
  exact absurd hbelow.1 (Nat.lt_irrefl 0)

end

-- A directive in a block, and one over two rows on the outermost level.
def twofold : Text := "if a:\n    magic('b') # c\nmagic(\"\"\"d\ne\"\"\")\nx = 1\n".toList

def twofoldSites : List Site :=
  [⟨modulePath, "magic".toList, "'b'".toList, ⟨2, 4⟩, ⟨2, 14⟩, "    ".toList⟩,
    ⟨modulePath, "magic".toList, "\"\"\"d\ne\"\"\"".toList, ⟨3, 0⟩, ⟨4, 5⟩, []⟩]

def twofoldProgram : Snippet :=
  ⟨"if a:\n    pass # c\npass\nx = 1\n".toList, [.ifElse, .pass, .assign]⟩

def bracketCode : Snippet := ⟨"y = [1,\n2]\n# z\n".toList, [.assign]⟩

def functionCode : Snippet := ⟨"def f():\n    return 1\n\nf()\n".toList, [.functionDef, .expr]⟩

def twofoldFilled : Text :=
  "if a:\n    y = [1,\n    2]\n    # z # c\ndef f():\n    return 1\n\nf()\nx = 1\n".toList

theorem clear_twofold : Clear twofold twofoldSites := by
  have hscan : ∃ lexemes, scan twofold = .ok lexemes ∧ ∀ l ∈ lexemes, l.isBroken = false :=
    ⟨(scan twofold).toOption.getD [], by decide +kernel⟩
  obtain ⟨found, hfound, hwhole⟩ := hscan
  refine ⟨by decide, fun lexemes hlexemes => ?_, by decide +kernel⟩
  obtain rfl := Except.ok.inj (hfound.symm.trans hlexemes)
  exact hwhole

theorem fits_bracketCode {site : Site} (hindent : site.indent = "    ".toList) :
    Fits twofoldProgram.text site bracketCode := by
  refine ⟨by decide +kernel, fun hne => ?_⟩
  have hkinds : statements? (trimRight bracketCode.text) = some [.assign] := by decide +kernel
  rw [hindent] at hne ⊢
  exact fitsInto_of_aligned hne (by decide) (by decide +kernel) (by decide +kernel)
    (by decide +kernel) (.inl (by decide +kernel)) hkinds (by decide +kernel)

theorem substituteAll_fills_twofold :
    find modulePath twofold = .ok twofoldSites ∧ Clear twofold twofoldSites ∧
      (∀ r ∈ twofoldSites.zip [bracketCode, functionCode], r.2.Accepted ∧
        Fits (withPass twofold twofoldSites) r.1 r.2) ∧
      Snippet.ofResponse false (withPass twofold twofoldSites) = .ok twofoldProgram ∧
      substituteAll twofold (twofoldSites.zip [bracketCode, functionCode]) = .ok twofoldFilled ∧
      Snippet.ofResponse false twofoldFilled =
        .ok ⟨twofoldFilled, [.ifElse, .functionDef, .expr, .assign]⟩ := by
  have hfind : find modulePath twofold = .ok twofoldSites := ok_of_toOption (by decide +kernel)
  have hprogram : Snippet.ofResponse false (withPass twofold twofoldSites) = .ok twofoldProgram :=
    ok_of_toOption (by decide +kernel)
  have hpass : withPass twofold twofoldSites = twofoldProgram.text := by decide +kernel
  have hbracket : bracketCode.Accepted :=
    ⟨false, bracketCode.text, ok_of_toOption (by decide +kernel)⟩
  have hfunction : functionCode.Accepted :=
    ⟨false, functionCode.text, ok_of_toOption (by decide +kernel)⟩
  have hcodes : ∀ r ∈ twofoldSites.zip [bracketCode, functionCode], r.2.Accepted ∧
      Fits (withPass twofold twofoldSites) r.1 r.2 := by
    rw [hpass]
    intro r hr
    simp only [twofoldSites, List.zip_cons_cons, List.zip_nil_right, List.mem_cons,
      List.not_mem_nil, or_false] at hr
    rcases hr with rfl | rfl
    · exact ⟨hbracket, fits_bracketCode rfl⟩
    · exact ⟨hfunction, by decide +kernel, fun hne => absurd rfl hne⟩
  have hsites : (twofoldSites.zip [bracketCode, functionCode]).map Prod.fst = twofoldSites := rfl
  obtain ⟨out, filled, hout, hfilled, hreads⟩ := substituteAll_fills hfind clear_twofold hsites
    (fun r hr => (hcodes r hr).1) (fun r hr => (hcodes r hr).2) hprogram
  have hsubstituted : substituteAll twofold (twofoldSites.zip [bracketCode, functionCode]) =
      .ok twofoldFilled := by
    rw [substituteAll, mergeSort_eq_reverse (hsites ▸ cut_find hfind) (.refl _)]
    exact ok_of_toOption (by decide +kernel)
  have hkinds : fill? twofold (twofoldSites.zip [bracketCode, functionCode]) twofoldProgram.items =
      some [.ifElse, .functionDef, .expr, .assign] := by decide +kernel
  obtain rfl := Except.ok.inj (hout.symm.trans hsubstituted)
  obtain rfl := Option.some.inj (hfilled.symm.trans hkinds)
  exact ⟨hfind, clear_twofold, hcodes, hprogram, hout, hreads⟩

end Ghostwriter.Splice

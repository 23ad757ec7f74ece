import Ghostwriter.Proofs.Splice.Block

/-!
What stands in the place of a directive, as the reader has it: on the outermost level the lines of
the code, and in a block these lines with other margins, or a `pass` where there are none.
-/

namespace Ghostwriter.Grammar.Block

section

variable {margins result result' last last' : List Margin} {m : Margin} {lines : List Line}
  {deep deep' : List (Nat × List Token)}

theorem Opens.unique (h : Opens margins m result) (h' : Opens margins m result')
    (hstacked : Stacked margins) : result = result' :=
  Option.some.inj (((openAt?_iff hstacked).mpr h).symm.trans ((openAt?_iff hstacked).mpr h'))

theorem Layout.unique (h : Layout margins lines deep last) (h' : Layout margins lines deep' last')
    (hstacked : Stacked margins) : deep = deep' ∧ last = last' := by
  induction h generalizing deep' with
  | nil =>
    cases h'
    exact ⟨rfl, rfl⟩
  | cons hopens _ ih =>
    cases h' with
    | cons hopens' hbehind =>
      obtain rfl := hopens.unique hopens' hstacked
      obtain ⟨rfl, rfl⟩ := ih hbehind (hopens.stacked hstacked)
      exact ⟨rfl, rfl⟩

end

end Ghostwriter.Grammar.Block

namespace Ghostwriter.Grammar

section

variable {expression primary : Parser Expr} {f : List Block → Option (List StatementKind)}
  {blocks rest : List Block} {kinds : List StatementKind} {lines : List Line}

theorem simpleLineUpTo_ne_nil {n : Nat} {ts : List Token}
    (h : simpleLineUpTo expression primary n ts = some kinds) : kinds ≠ [] := by
  cases n with
  | zero => cases h
  | succ n =>
    rw [simpleLineUpTo, Option.bind_eq_bind, Option.bind_eq_some_iff] at h
    obtain ⟨⟨kind, ts⟩, -, h⟩ := h
    simp only at h
    split at h
    · cases h
      simp
    · cases h
      simp
    · obtain ⟨others, -, rfl⟩ := Option.map_eq_some_iff.mp h
      simp
    · cases h

theorem First.kinds_ne_nil (h : First expression primary f blocks kinds rest) : kinds ≠ [] := by
  cases h with
  | line _ _ hread =>
    unfold lineStatements at hread
    split_ifs at hread
    · cases hread
      simp
    · exact simpleLineUpTo_ne_nil hread
  | compound => simp

-- Lines that are no statements at all are no lines.
theorem eq_nil_of_kinds? (h : Block.ofLines? lines = some blocks)
    (hkinds : kinds? blocks = some []) : lines = [] := by
  obtain rfl : blocks = [] := by
    by_contra hne
    obtain ⟨first, rest, others, hfirst, -, hnil⟩ := (kinds?_iff hne).mp hkinds
    exact hfirst.kinds_ne_nil (List.append_eq_nil_iff.mp hnil.symm).1
  obtain ⟨deep, last, hlayout, -, hnil⟩ := Block.ofLines?_iff.mp h
  have hforest : Block.ofDepths deep = [] := List.map_eq_nil_iff.mp hnil.symm
  have hhead := Block.head?_ofDepths deep
  rw [hforest] at hhead
  cases hlayout with
  | nil => rfl
  | cons => cases hhead

end

end Ghostwriter.Grammar

namespace Ghostwriter.Splice

open Ghostwriter.Grammar Ghostwriter.Lexeme Ghostwriter.Text

-- The number of blocks around each line of a text.
def depths (t : Text) : List Nat :=
  (((moduleLines? t).bind (Block.depths? [⟨0, 0⟩])).getD []).map Prod.fst

-- Code that can be a part of a block with that indent in a text.
structure FitsInto (t indent code : Text) : Prop where
  scanned : ∃ lexemes, scan code = .ok lexemes
  deeper : marginOf indent ≠ ⟨0, 0⟩
  ordered : ∀ lines, linesBehind? indent code = some lines →
    Block.SameOrder ((⟨0, 0⟩, marginOf indent) :: lines.map fun l => (l.1.margin, l.2))
  room : ∀ d ∈ depths t, ∀ d' ∈ depths code, d + d' < Block.maxMargins

-- A snippet that can take the place of a directive in a text: it is the same module without the
-- blanks at its end, and in a block it fits.
structure Fits (t : Text) (site : Site) (snippet : Snippet) : Prop where
  trimmed : statements? (trimRight snippet.text) = some snippet.items
  nested : site.indent ≠ [] → FitsInto t site.indent (trimRight snippet.text)

section

variable {c : Char} {t u w code indent made : Text} {marks behind : List Mark} {lines : List Line}
  {site : Site} {snippet : Snippet} {kinds : List StatementKind}

theorem mem_of_mem_trimRight (h : c ∈ trimRight t) : c ∈ t := by
  obtain ⟨rest, ht, -⟩ := dropRightWhile_split isBlank t
  rw [ht]
  exact List.mem_append_left rest h

theorem getLast?_trimRight (t : Text) : (trimRight t).getLast? ≠ some '\n' := by
  obtain ⟨rest, -, hlast⟩ := dropRightWhile_split isBlank t
  intro hbreak
  cases hlast '\n' hbreak

-- Indenting leaves the last character, if that ends no row.
theorem getLast?_indentFrom {moved : Nat → Bool} {row : Nat} (h : t.getLast? ≠ some '\n') :
    (indentFrom moved indent row t).getLast? = t.getLast? := by
  rcases List.eq_nil_or_concat t with rfl | ⟨front, c, rfl⟩
  · rfl
  · rw [List.concat_eq_append, List.getLast?_concat] at h
    have hc : '\n' ∉ [c] := fun hmem => h (congrArg some (List.mem_singleton.mp hmem).symm)
    rw [List.concat_eq_append, indentFrom_append, indentFrom_of_not_mem hc, List.getLast?_concat,
      List.getLast?_concat]

theorem endLine_of_getLast? (h : t.getLast? ≠ some '\n') : endLine t = t ++ ['\n'] := if_neg h

theorem endLine_concat (t : Text) : endLine (t ++ ['\n']) = t ++ ['\n'] :=
  if_pos List.getLast?_concat

-- The lines of code that moves behind an indent.
theorem exists_moved (hindent : ∀ c ∈ indent, isGap c = true) {lexemes : List Lexeme}
    (hscan : scan code = .ok lexemes) (hreturn : '\r' ∉ code)
    (hlines : moduleLines? code = some lines) :
    ∃ found marks', linesBehind? indent code = some found ∧ found.map Prod.fst = lines ∧
      RowState.start.run? (indent ++
        (indentFrom (moves lexemes (pieces code)) indent 1 code ++ ['\n'])) =
          some (marks', .start) ∧ Mark.lines? marks' = some (found.map Block.moved) := by
  obtain ⟨marks, hrun, hmarks⟩ := run?_of_moduleLines? hlines hreturn
  obtain ⟨found, hfound, hfoundMarks, hfst⟩ := exists_linesBehind? indent hrun hmarks
  obtain ⟨marks', hread, hmoved⟩ := lines?_indentFrom hindent hrun
    (movesRows_moves hscan hreturn ⟨marks, hrun⟩) hfoundMarks
  rw [← List.append_assoc, endLine_concat] at hread
  refine ⟨found, marks', hfound, hfst, ?_, hmoved⟩
  rw [← List.append_assoc]
  exact run?_of_marks?_break hread

theorem reads_of_run? (hreturn : '\r' ∉ t) (hbreak : t.getLast? ≠ some '\n')
    (h : RowState.start.run? (t ++ ['\n']) = some (marks, .start))
    (hlines : Mark.lines? marks = some lines) : Reads t lines := by
  have hunified := unifyBreaks_of_not_mem hreturn
  refine reads_of_moduleLines? hunified hbreak ?_
  rw [moduleLines?_eq, hunified, endLine_of_getLast? hbreak, RowState.marks?, h]
  exact hlines

theorem body_of_top (h : body site snippet = .ok t) (hindent : site.indent = []) :
    t = trimRight snippet.text := by
  simp only [body, hindent, reindent, List.isEmpty_nil, if_true, bind, Except.bind, Bool.not_true,
    Bool.and_false, Bool.false_eq_true, if_false] at h
  exact (Except.ok.inj h).symm

theorem body_of_block (h : body site snippet = .ok t) (hindent : site.indent ≠ []) :
    ∃ lexemes moved, scan (trimRight snippet.text) = .ok lexemes ∧
      moved = indentFrom (moves lexemes (pieces (trimRight snippet.text))) site.indent 1
        (trimRight snippet.text) ∧
      t = if snippet.items.isEmpty then
          if moved.isEmpty then "pass".toList else moved ++ '\n' :: site.indent ++ "pass".toList
        else moved := by
  obtain ⟨moved, hmoved, h⟩ := bind_eq_ok.mp h
  obtain ⟨lexemes, hscan⟩ := exists_scan_of_reindent hindent hmoved
  rw [reindent_eq hscan] at hmoved
  refine ⟨lexemes, moved, hscan, (Except.ok.inj hmoved).symm, ?_⟩
  have hne : site.indent.isEmpty = false := by simpa using hindent
  simp only [hne, Bool.not_false, Bool.and_true] at h
  split_ifs at h ⊢ <;> exact (Except.ok.inj h).symm

-- On the outermost level the reader comes to the lines of the code.
theorem reads_of_top (h : body site snippet = .ok made) (hindent : site.indent = [])
    (haccepted : snippet.Accepted)
    (htrimmed : statements? (trimRight snippet.text) = some snippet.items) :
    ∃ lines blocks, Reads made lines ∧ Block.ofLines? lines = some blocks ∧
      kinds? blocks = some snippet.items := by
  obtain rfl := body_of_top h hindent
  obtain ⟨lines, blocks, hlines, hblocks, hkinds⟩ := statements?_iff.mp htrimmed
  have hreturn : '\r' ∉ trimRight snippet.text :=
    fun hmem => haccepted.return_not_mem (mem_of_mem_trimRight hmem)
  exact ⟨lines, blocks, reads_of_moduleLines? (unifyBreaks_of_not_mem hreturn)
    (getLast?_trimRight _) hlines, hblocks, hkinds⟩

-- The depth of a `pass` is that of its line.
theorem mem_depths_pass (hu : EndsLine u marks) (hw : BeginsBlank w behind)
    (hindent : ∀ c ∈ indent, isGap c = true)
    (ht : unifyBreaks t = u ++ (indent ++ ("pass".toList ++ w)))
    (h : statements? t = some kinds) {deep : List (Nat × List Token)} {opened outer : List Margin}
    (hlines : Mark.lines? marks = some lines) (hlayout : Block.Layout [⟨0, 0⟩] lines deep opened)
    (hopens : Block.Opens opened (marginOf indent) (marginOf indent :: outer)) :
    outer.length ∈ depths t := by
  obtain ⟨whole, blocks, hwhole, hblocks, -⟩ := statements?_iff.mp h
  obtain ⟨lines₁, lines₂, h₁, -, rfl⟩ := moduleLines?_pass hu hw hindent ht hwhole
  obtain rfl : lines = lines₁ := Option.some.inj (hlines.symm.trans h₁)
  obtain ⟨all, last, hall, -⟩ := Block.ofLines?_iff.mp hblocks
  obtain ⟨deep₁, deep₂, middle, rfl, hbefore, hpass⟩ := hall.split
  obtain ⟨rfl, rfl⟩ := hlayout.unique hbefore Block.stacked_start
  cases hpass with
  | cons hopens' hbehind =>
    obtain rfl := hopens.unique hopens' (hlayout.stacked Block.stacked_start)
    have hdepths := (Block.depths?_iff Block.stacked_start).mpr ⟨last, hall⟩
    simp [depths, hwhole, hdepths]

theorem getLast?_behind (hindent : ∀ c ∈ indent, isGap c = true) (h : t.getLast? ≠ some '\n') :
    (indent ++ t).getLast? ≠ some '\n' := by
  intro hlast
  rw [List.getLast?_append, Option.or_eq_some_iff] at hlast
  rcases hlast with hlast | ⟨-, hlast⟩
  · exact h hlast
  · cases hindent '\n' (List.mem_of_getLast? hlast)

theorem return_not_mem_gaps (hindent : ∀ c ∈ indent, isGap c = true) : '\r' ∉ indent :=
  fun hmem => by cases hindent '\r' hmem

theorem not_mem_moved {moved : Nat → Bool} (hindent : c ∉ indent) (h : c ∉ t) :
    c ∉ indentFrom moved indent 1 t :=
  fun hmem => (mem_indentFrom hmem).elim h hindent

-- In a block it comes to these lines behind the indent.
theorem reads_of_block (hindent : ∀ c ∈ indent, isGap c = true) {lexemes : List Lexeme}
    (hscan : scan code = .ok lexemes) (hreturn : '\r' ∉ code) (hbreak : code.getLast? ≠ some '\n')
    (hlines : moduleLines? code = some lines) :
    ∃ found, linesBehind? indent code = some found ∧ found.map Prod.fst = lines ∧
      Reads (indent ++ indentFrom (moves lexemes (pieces code)) indent 1 code)
        (found.map Block.moved) := by
  obtain ⟨found, marks, hfound, hfst, hrun, hmoved⟩ := exists_moved hindent hscan hreturn hlines
  refine ⟨found, hfound, hfst, reads_of_run? ?_ (getLast?_behind hindent ?_) ?_ hmoved⟩
  · rw [List.mem_append, not_or]
    exact ⟨return_not_mem_gaps hindent, not_mem_moved (return_not_mem_gaps hindent) hreturn⟩
  · rwa [getLast?_indentFrom hbreak]
  · rwa [List.append_assoc]

-- Code without statements becomes a `pass` there, with its comments before it.
theorem reads_of_blank (hindent : ∀ c ∈ indent, isGap c = true) {lexemes : List Lexeme}
    (hscan : scan code = .ok lexemes) (hreturn : '\r' ∉ code) (hlines : moduleLines? code = some [])
    {moved : Text} (hmoved : moved = indentFrom (moves lexemes (pieces code)) indent 1 code) :
    Reads (indent ++ if moved.isEmpty then "pass".toList
        else moved ++ '\n' :: indent ++ "pass".toList)
      [Block.passLine (marginOf indent)] := by
  have hpass : (indent ++ "pass".toList).getLast? ≠ some '\n' :=
    getLast?_behind hindent (by decide)
  have hrun : RowState.start.run? (indent ++ "pass".toList) =
      some ((indent ++ "pass".toList).map .keep, RowState.start) := by
    rw [List.map_append]
    exact RowState.run?_append (RowState.run?_gaps hindent) rfl
  split_ifs with hempty
  · exact ⟨⟨_, _, hrun, rfl, Mark.lines?_pass hindent⟩, hpass⟩
  · obtain ⟨found, marks, -, hfst, hread, hnone⟩ := exists_moved hindent hscan hreturn hlines
    obtain rfl := List.map_eq_nil_iff.mp hfst
    rw [← hmoved] at hread
    have hends : EndsLine (indent ++ (moved ++ ['\n'])) marks :=
      ⟨hread, .inr (by rw [← List.append_assoc, List.getLast?_concat])⟩
    have htext : indent ++ (moved ++ '\n' :: indent ++ "pass".toList) =
        indent ++ (moved ++ ['\n']) ++ (indent ++ "pass".toList) := by
      simp
    rw [htext]
    refine ⟨⟨_, _, RowState.run?_append hread hrun, rfl, ?_⟩, ?_⟩
    · exact hends.lines?_append.mpr ⟨[], _, hnone, Mark.lines?_pass hindent, rfl⟩
    · rw [List.getLast?_append_of_ne_nil _ (by simp)]
      exact hpass

-- What goes into a body.
theorem not_mem_body (h : body site snippet = .ok made) (htext : c ∉ snippet.text)
    (hindent : c ∉ site.indent) (hbreak : c ≠ '\n') (hpass : c ∉ "pass".toList) : c ∉ made := by
  have hcode : c ∉ trimRight snippet.text := fun hmem => htext (mem_of_mem_trimRight hmem)
  by_cases hne : site.indent = []
  · rwa [body_of_top h hne]
  · obtain ⟨lexemes, moved, -, rfl, rfl⟩ := body_of_block h hne
    have hmoved := @not_mem_moved _ _ _ (moves lexemes (pieces (trimRight snippet.text))) hindent
      hcode
    split_ifs
    · exact hpass
    · simp only [List.mem_append, List.mem_cons, not_or]
      exact ⟨⟨hmoved, hbreak, hindent⟩, hpass⟩
    · exact hmoved

theorem return_not_mem_body (h : body site snippet = .ok made) (haccepted : snippet.Accepted)
    (hindent : ∀ c ∈ site.indent, isGap c = true) : '\r' ∉ made :=
  not_mem_body h haccepted.return_not_mem (return_not_mem_gaps hindent) (by decide) (by decide)

-- The body of a directive on the outermost level: its statements stand for a `pass`.
theorem statements?_of_top (hu : EndsLine u marks) (hw : BeginsBlank w behind)
    (hreturn : '\r' ∉ u ++ ("pass".toList ++ w)) (hmade : body site snippet = .ok made)
    (hindent : site.indent = []) (haccepted : snippet.Accepted)
    (htrimmed : statements? (trimRight snippet.text) = some snippet.items)
    (h : statements? (u ++ ("pass".toList ++ w)) = some kinds) :
    ∃ kinds₁ kinds₂, statements? u = some kinds₁ ∧ kinds = kinds₁ ++ .pass :: kinds₂ ∧
      statements? (u ++ (made ++ w)) = some (kinds₁ ++ (snippet.items ++ kinds₂)) := by
  obtain ⟨lines, blocks, hreads, hblocks, hkinds⟩ := reads_of_top hmade hindent haccepted htrimmed
  have hreturn' := return_not_mem_body hmade haccepted (by simp [hindent])
  simp only [List.mem_append, not_or] at hreturn
  refine statements?_replace_top hu (unifyBreaks_of_not_mem hreturn.1) hw
    (unifyBreaks_of_not_mem ?_) (unifyBreaks_of_not_mem ?_) hreads hblocks hkinds h
  · simp [hreturn]
  · simp [hreturn, hreturn']

-- The body of a directive in a block changes no statement outside.
theorem statements?_of_block (hu : EndsLine u marks) (hw : BeginsBlank w behind)
    (hindent : ∀ c ∈ site.indent, isGap c = true) (hne : site.indent ≠ [])
    (hreturn : '\r' ∉ u ++ (site.indent ++ ("pass".toList ++ w)))
    (hmade : body site snippet = .ok made) (haccepted : snippet.Accepted)
    (hfits : Fits t site snippet)
    (hdepth : ∀ lines deep opened outer, Mark.lines? marks = some lines →
      Block.Layout [⟨0, 0⟩] lines deep opened →
      Block.Opens opened (marginOf site.indent) (marginOf site.indent :: outer) →
      outer.length ∈ depths t)
    (h : statements? (u ++ (site.indent ++ ("pass".toList ++ w))) = some kinds) :
    statements? (u ++ (site.indent ++ (made ++ w))) = some kinds := by
  have hunified := unifyBreaks_of_not_mem hreturn
  have hunified' : unifyBreaks (u ++ (site.indent ++ (made ++ w))) =
      u ++ ((site.indent ++ made) ++ w) := by
    have hreturn' := return_not_mem_body hmade haccepted hindent
    rw [List.append_assoc]
    refine unifyBreaks_of_not_mem ?_
    simp only [List.mem_append, not_or] at hreturn ⊢
    exact ⟨hreturn.1, hreturn.2.1, hreturn', hreturn.2.2.2⟩
  obtain ⟨htrimmed, hnested⟩ := hfits
  obtain ⟨-, hdeeper, hordered, hroom⟩ := hnested hne
  obtain ⟨lexemes, moved, hscan, hmoved, rfl⟩ := body_of_block hmade hne
  obtain ⟨lines, blocks, hlines, hblocks, hkinds⟩ := statements?_iff.mp htrimmed
  have hreturn' : '\r' ∉ trimRight snippet.text :=
    fun hmem => haccepted.return_not_mem (mem_of_mem_trimRight hmem)
  by_cases hitems : snippet.items = []
  · -- The reader comes to the `pass` that was there.
    rw [hitems] at hkinds
    obtain rfl := eq_nil_of_kinds? hblocks hkinds
    rw [hitems, List.isEmpty_nil, if_pos rfl] at hunified' ⊢
    obtain ⟨whole, blocks', hwhole, hblocks', hkinds'⟩ := statements?_iff.mp h
    obtain ⟨lines₁, lines₂, h₁, h₂, rfl⟩ := moduleLines?_pass hu hw hindent hunified hwhole
    have hreads := reads_of_blank hindent hscan hreturn' hlines hmoved
    obtain ⟨marksBody, last, hrun, hsettled, hbody⟩ := hreads.read
    exact statements?_iff.mpr ⟨_, blocks', moduleLines?_snippet hu hw hunified' hrun hsettled
      hreads.row h₁ hbody h₂, hblocks', hkinds'⟩
  · rw [if_neg (by simpa using hitems), hmoved] at hunified' ⊢
    obtain ⟨found, hfound, rfl, hreads⟩ :=
      reads_of_block hindent hscan hreturn' (getLast?_trimRight _) hlines
    have hblocksNe : blocks ≠ [] := by
      rintro rfl
      exact hitems (Option.some.inj (kinds?_nil.symm.trans hkinds)).symm
    refine statements?_replace_nested hu hw hindent hunified hunified' hreads hdeeper hblocks
      (Option.isSome_of_eq_some hkinds) hblocksNe (hordered _ hfound) ?_ h
    intro lines deep opened outer deepCode last h₁ hlayout hopens hcode l hl
    have hcodeDepths := (Block.depths?_iff Block.stacked_start).mpr ⟨last, hcode⟩
    have hmem : l.1 ∈ depths (trimRight snippet.text) := by
      rw [depths, hlines, Option.bind_some, hcodeDepths]
      exact List.mem_map_of_mem hl
    have := hroom _ (hdepth _ _ _ _ h₁ hlayout hopens) _ hmem
    omega

end

end Ghostwriter.Splice

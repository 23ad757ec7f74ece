import Ghostwriter.Proofs.Splice.Body
import Ghostwriter.Proofs.Splice.Seam
import Ghostwriter.Proofs.Splice.Trail

/-!
A program with its directives filled in. It is read as the program with `pass` in their places, but
for the statements of the codes on the outermost level.
-/

namespace Ghostwriter.Splice

open Ghostwriter.Grammar Ghostwriter.Lexeme Ghostwriter.Text

-- The statements of a program with `pass` for its directives, once those of the codes stand for the
-- ones on the outermost level. Such a `pass` comes behind the statements of the text before it.
def fillFrom? (before : Text) :
    List Text → List (Site × Snippet) → List StatementKind → Option (List StatementKind)
  | part :: parts, r :: rest, kinds => do
    let kinds ← fillFrom? (before ++ part ++ "pass".toList) parts rest kinds
    if r.1.indent.isEmpty then
      let first ← statements? (before ++ part)
      if kinds[first.length]? = some .pass then
        some (kinds.take first.length ++ (r.2.items ++ kinds.drop (first.length + 1)))
      else none
    else some kinds
  | _, _, kinds => some kinds

def fill? (source : Text) (replacements : List (Site × Snippet)) (kinds : List StatementKind) :
    Option (List StatementKind) :=
  fillFrom? [] (kept source (replacements.map Prod.fst)) replacements kinds

-- Directives each of which has a logical line of its own, with the parts of the text between them.
-- Before each stands what the reader has read, with `pass` for the directives.
inductive Seated : Text → List Text → List Site → Prop
  | nil {before part : Text} : Seated before [part] []
  | cons {before rows next : Text} {site : Site} {parts : List Text} {sites : List Site}
      (begins : ∃ marks, EndsLine (before ++ rows) marks)
      (blank : ∀ c ∈ site.indent, isGap c = true)
      (ends : ∀ more, (sites = [] → more = []) → Trailing (next ++ more))
      (others : Seated (before ++ (rows ++ site.indent) ++ "pass".toList) (next :: parts) sites) :
      Seated before ((rows ++ site.indent) :: next :: parts) (site :: sites)

section

variable {before t u w x : Text} {marks : List Mark} {kinds : List StatementKind}

theorem Trailing.beginsBlank (h : Trailing w) {marks : List Mark}
    (hread : RowState.start.marks? (endLine w) = some marks) : ∃ behind, BeginsBlank w behind := by
  obtain ⟨tail, htrails, hw⟩ := h
  obtain ⟨blanks, hblank, hrun⟩ := id htrails
  obtain ⟨rest, hend⟩ : ∃ rest, endLine w = tail ++ ['\n'] ++ rest := by
    rcases hw with rfl | ⟨rest, rfl⟩
    · refine ⟨[], ?_⟩
      rw [List.append_nil, endLine, if_neg]
      intro hlast
      obtain ⟨before, rfl⟩ := List.getLast?_eq_some_iff.mp hlast
      rw [endLine_concat] at hread
      exact not_trails_of_endsLine ⟨run?_of_marks?_break hread, .inr hlast⟩ (by simp) []
        (by rwa [List.append_nil])
    · unfold endLine
      split
      · exact ⟨rest, by simp⟩
      · exact ⟨rest ++ ['\n'], by simp⟩
  rw [hend, RowState.marks?_append hrun] at hread
  obtain ⟨behind, hbehind, -⟩ := Option.map_eq_some_iff.mp hread
  refine ⟨behind, ⟨blanks, hblank, ?_⟩⟩
  rw [hend, RowState.marks?_append hrun, hbehind]
  simp

-- What follows a row of an accepted text.
theorem exists_beginsBlank (hu : EndsLine u marks)
    (hx : ∃ marks', RowState.start.run? x = some (marks', .start))
    (hbreak : x.getLast? ≠ some '\n') (hw : Trailing w) (hreturn : '\r' ∉ u ++ (x ++ w))
    (h : statements? (u ++ (x ++ w)) = some kinds) : ∃ behind, BeginsBlank w behind := by
  obtain ⟨lines, blocks, hlines, -⟩ := statements?_iff.mp h
  obtain ⟨marks', -, -, hread, -⟩ := (hu.moduleLines?_iff (unifyBreaks_of_not_mem hreturn)).mp hlines
  obtain ⟨marksRow, hrow⟩ := hx
  rw [endLine_append hbreak, RowState.marks?_append hrow] at hread
  obtain ⟨found, hfound, -⟩ := Option.map_eq_some_iff.mp hread
  exact hw.beginsBlank hfound

theorem run?_pass {indent : Text} (hindent : ∀ c ∈ indent, isGap c = true) :
    ∃ marks, RowState.start.run? (indent ++ "pass".toList) = some (marks, .start) :=
  ⟨_, RowState.run?_append (RowState.run?_gaps hindent) rfl⟩

end

-- The text with `pass` for its directives.
def passes (sites : List Site) : List Text := sites.map fun _ => "pass".toList

section

variable {before behind source p : Text} {parts bodies : List Text} {sites : List Site}
  {replacements : List (Site × Snippet)} {kinds : List StatementKind}

theorem passes_cons {site : Site} : passes (site :: sites) = "pass".toList :: passes sites := rfl

theorem withPass_append (h : Cut before sites behind) :
    withPass (before ++ behind) sites =
      before ++ interleave (keptFrom (before ++ behind) before.length sites) (passes sites) := by
  induction h with
  | nil => simp [withPass, keptFrom, passes, interleave]
  | @cons before part span behind site sites _ hstart hstop _ ih =>
    have hsource : before ++ (part ++ (span ++ behind)) = before ++ part ++ span ++ behind := by
      simp
    have hwhole (rest : Text) : offset (lines (before ++ part ++ span ++ rest)) site.start =
        (before ++ part).length := by
      rw [hstart, List.append_assoc _ span, offset_positionOf]
    have hspan (rest : Text) : offset (lines (before ++ part ++ span ++ rest)) site.stop =
        (before ++ part ++ span).length := by
      rw [hstop, offset_positionOf]
    rw [keptFrom_cons hstart hstop, hsource, withPass, List.foldr_cons, ← withPass, ih, hwhole,
      hspan, List.drop_left, List.append_assoc (before ++ part), List.take_left, passes_cons,
      interleave]
    simp

theorem Seated.exists_more {next : Text} (h : Seated before (next :: parts) sites)
    (hlength : bodies.length = sites.length) :
    ∃ more, interleave (next :: parts) bodies = next ++ more ∧ (sites = [] → more = []) := by
  cases h with
  | nil =>
    obtain rfl := List.length_eq_zero_iff.mp hlength
    exact ⟨[], by simp [interleave], fun _ => rfl⟩
  | cons =>
    obtain ⟨made, bodies, rfl⟩ := List.exists_cons_of_length_eq_add_one hlength
    exact ⟨made ++ interleave _ bodies, by rw [interleave, List.append_assoc], by simp⟩

-- The statement of a directive on the outermost level in the list of all.
theorem fillFrom?_top {part : Text} {r : Site × Snippet} {kinds₁ kinds₂ : List StatementKind}
    (hindent : r.1.indent = [])
    (hrest : fillFrom? (before ++ part ++ "pass".toList) parts replacements kinds =
      some (kinds₁ ++ .pass :: kinds₂)) (hfirst : statements? (before ++ part) = some kinds₁) :
    fillFrom? before (part :: parts) (r :: replacements) kinds =
      some (kinds₁ ++ (r.2.items ++ kinds₂)) := by
  rw [fillFrom?, hrest]
  simp [hfirst, hindent]

theorem fillFrom?_block {part : Text} {r : Site × Snippet} (hindent : r.1.indent ≠ []) :
    fillFrom? before (part :: parts) (r :: replacements) kinds =
      fillFrom? (before ++ part ++ "pass".toList) parts replacements kinds := by
  simp [fillFrom?, hindent]

-- One more directive is filled in.
theorem fillFrom?_cons {r : Site × Snippet} {rows w w' made : Text} {marks ahead ahead' : List Mark}
    {filled : List StatementKind} (hu : EndsLine (before ++ rows) marks)
    (hblank : ∀ c ∈ r.1.indent, isGap c = true) (hw : BeginsBlank w ahead)
    (hw' : BeginsBlank w' ahead') (hp : p = before ++ (rows ++ r.1.indent) ++ "pass".toList ++ w')
    (hreturn : '\r' ∉ p) (h : statements? p = some kinds) (hmade : body r.1 r.2 = .ok made)
    (haccepted : r.2.Accepted) (hfits : Fits p r.1 r.2)
    (hfilled : fillFrom? (before ++ (rows ++ r.1.indent) ++ "pass".toList) parts replacements kinds =
      some filled)
    (hreturn' : '\r' ∉ before ++ (rows ++ r.1.indent) ++ "pass".toList ++ w)
    (h' : statements? (before ++ (rows ++ r.1.indent) ++ "pass".toList ++ w) = some filled) :
    ∃ filled', fillFrom? before ((rows ++ r.1.indent) :: parts) (r :: replacements) kinds =
      some filled' ∧ statements? (before ++ ((rows ++ r.1.indent) ++ made ++ w)) = some filled' := by
  have htext (t : Text) : before ++ (rows ++ r.1.indent) ++ "pass".toList ++ t =
      before ++ rows ++ (r.1.indent ++ ("pass".toList ++ t)) := by simp
  rw [htext] at hp hreturn' h'
  by_cases hindent : r.1.indent = []
  · rw [hindent, List.nil_append] at hreturn' h'
    obtain ⟨kinds₁, kinds₂, h₁, rfl, hfill⟩ :=
      statements?_of_top hu hw hreturn' hmade hindent haccepted hfits.trimmed h'
    refine ⟨_, fillFrom?_top hindent hfilled (by simpa [hindent] using h₁), ?_⟩
    simpa [hindent] using hfill
  · have hunified : unifyBreaks p = before ++ rows ++ (r.1.indent ++ ("pass".toList ++ w')) :=
      (unifyBreaks_of_not_mem hreturn).trans hp
    refine ⟨filled, (fillFrom?_block hindent).trans hfilled, ?_⟩
    have hfill := statements?_of_block hu hw hblank hindent hreturn' hmade haccepted hfits
      (fun lines deep opened outer => mem_depths_pass hu hw' hblank hunified h) h'
    simpa using hfill

-- The directives are filled in from the last one to the first. Before each the reader comes to what
-- it comes to with `pass` for all of them.
theorem statements?_interleave (hseated : Seated before parts sites)
    (hsites : replacements.map Prod.fst = sites)
    (hbodies : List.Forall₂ (fun r t => body r.1 r.2 = .ok t) replacements bodies)
    (haccepted : ∀ r ∈ replacements, r.2.Accepted) (hfits : ∀ r ∈ replacements, Fits p r.1 r.2)
    (hp : p = before ++ interleave parts (passes sites)) (hreturn : '\r' ∉ p)
    (h : statements? p = some kinds) :
    ∃ filled, fillFrom? before parts replacements kinds = some filled ∧
      statements? (before ++ interleave parts bodies) = some filled ∧
      '\r' ∉ before ++ interleave parts bodies := by
  induction hseated generalizing replacements bodies with
  | nil =>
    obtain rfl := List.map_eq_nil_iff.mp hsites
    cases hbodies
    subst hp
    exact ⟨kinds, by simp [fillFrom?], h, hreturn⟩
  | @cons before rows next site parts sites hbegins hblank hends hothers ih =>
    obtain ⟨r, rest, rfl, rfl, hrest⟩ := List.map_eq_cons_iff.mp hsites
    obtain ⟨made, made', hmade, hmade', rfl⟩ := List.forall₂_cons_left_iff.mp hbodies
    rw [List.forall_mem_cons] at haccepted hfits
    obtain ⟨marks, hu⟩ := hbegins
    rw [passes_cons, interleave] at hp
    obtain ⟨filled, hfilled, hstatements, hreturn'⟩ :=
      ih hrest hmade' haccepted.2 hfits.2 (by rw [hp]; simp)
    have hrow := run?_pass hblank
    have hbreak : (r.1.indent ++ "pass".toList).getLast? ≠ some '\n' :=
      getLast?_behind hblank (by decide)
    -- What is behind the directive, with `pass` for the others and with their bodies.
    have hbehind {others : List Text} (hlength : others.length = sites.length)
        {found : List StatementKind} (hreturn : '\r' ∉ before ++ (rows ++ r.1.indent) ++
          "pass".toList ++ interleave (next :: parts) others)
        (hfound : statements? (before ++ (rows ++ r.1.indent) ++ "pass".toList ++
          interleave (next :: parts) others) = some found) :
        ∃ behind, BeginsBlank (interleave (next :: parts) others) behind := by
      obtain ⟨more, hmore, hlast⟩ := hothers.exists_more hlength
      have hw := hends more hlast
      rw [← hmore] at hw
      have htext : before ++ (rows ++ r.1.indent) ++ "pass".toList ++
          interleave (next :: parts) others = before ++ rows ++
            (r.1.indent ++ "pass".toList ++ interleave (next :: parts) others) := by simp
      rw [htext] at hreturn hfound
      exact exists_beginsBlank hu hrow hbreak hw hreturn hfound
    have hlength : made'.length = sites.length := by
      rw [← hmade'.length_eq, ← hrest, List.length_map]
    obtain ⟨behind, hw⟩ := hbehind hlength hreturn' hstatements
    have hunfilled : p = before ++ (rows ++ r.1.indent) ++ "pass".toList ++
        interleave (next :: parts) (passes sites) := by
      rw [hp]
      simp
    obtain ⟨behind', hw'⟩ := hbehind (List.length_map _) (hunfilled ▸ hreturn) (hunfilled ▸ h)
    obtain ⟨filled', hfill, hdone⟩ := fillFrom?_cons hu hblank hw hw' hunfilled hreturn h hmade
      haccepted.1 hfits.1 hfilled hreturn' hstatements
    refine ⟨filled', hfill, hdone, ?_⟩
    have hreturnMade := return_not_mem_body hmade haccepted.1 hblank
    rw [interleave]
    simp only [List.mem_append, not_or] at hreturn' ⊢
    exact ⟨hreturn'.1.1.1, ⟨hreturn'.1.1.2, hreturnMade⟩, hreturn'.2⟩

end

end Ghostwriter.Splice

import Ghostwriter.Proofs.Directive.Cut
import Ghostwriter.Proofs.Snippet.Accepted

/-!
Replacing some of the directives of a text. All of them are replaced at once, as it were: in
whatever order they are listed, each body comes to stand where its directive stood, and what is
around the directives stays.
-/

namespace Ghostwriter.Splice

open Ghostwriter.Directive Ghostwriter.Lexeme Ghostwriter.Text

-- The bodies of replacements. They are made from the last one to the first.
def bodies (replacements : List (Site × Snippet)) : Result (List Text) :=
  replacements.foldrM (fun r made => (body r.1 r.2).map (· :: made)) []

def span (source : Text) (site : Site) : Text :=
  (source.take (offset (lines source) site.stop)).drop (offset (lines source) site.start)

section

variable {before behind source : Text} {site : Site} {sites : List Site} {snippet : Snippet}
  {replacements : List (Site × Snippet)}

theorem bodies_cons {r : Site × Snippet} :
    bodies (r :: replacements) =
      bodies replacements >>= fun made => (body r.1 r.2).map (· :: made) := by
  rw [bodies, List.foldrM_cons, ← bodies]

theorem span_eq {part taken : Text} (start : site.start = positionOf (before ++ part))
    (stop : site.stop = positionOf (before ++ part ++ taken)) :
    span (before ++ part ++ taken ++ behind) site = taken := by
  have hstart : offset (lines (before ++ part ++ taken ++ behind)) site.start =
      (before ++ part).length := by
    rw [start, List.append_assoc _ taken, offset_positionOf]
  have hstop : offset (lines (before ++ part ++ taken ++ behind)) site.stop =
      (before ++ part ++ taken).length := by
    rw [stop, offset_positionOf]
  rw [span, hstart, hstop, List.take_left, List.drop_left]

-- With what the directives take put back, the kept parts are the text.
theorem interleave_span (h : Cut before sites behind) :
    before ++ interleave (keptFrom (before ++ behind) before.length sites)
      (sites.map (span (before ++ behind))) = before ++ behind := by
  induction h with
  | nil => simp [keptFrom, interleave]
  | @cons before part taken behind site sites _ hstart hstop _ ih =>
    have hsource : before ++ (part ++ (taken ++ behind)) = before ++ part ++ taken ++ behind := by
      simp
    rw [keptFrom_cons hstart hstop, List.map_cons, interleave, hsource, span_eq hstart hstop]
    simpa using ih

theorem foldrM_substitute (h : Cut before (replacements.map Prod.fst) behind) :
    replacements.foldrM (fun r text => substitute text r.1 r.2) (before ++ behind) =
      (bodies replacements).map fun made => before ++ interleave
        (keptFrom (before ++ behind) before.length (replacements.map Prod.fst)) made := by
  induction replacements generalizing before behind with
  | nil => simp [bodies, keptFrom, interleave, pure, Except.pure, Except.map]
  | cons r replacements ih =>
    rw [List.map_cons] at h ⊢
    cases h with
    | @cons _ part taken behind _ _ _ hstart hstop hothers =>
      have hsource : before ++ (part ++ (taken ++ behind)) =
          before ++ part ++ taken ++ behind := by simp
      rw [keptFrom_cons hstart hstop, List.foldrM_cons, hsource, ih hothers, bodies_cons]
      cases bodies replacements with
      | error e => rfl
      | ok made =>
        simp only [Except.map, bind, Except.bind]
        cases hbody : body r.1 r.2 with
        | error e => simp [substitute, hbody, bind, Except.bind]
        | ok t =>
          rw [substitute_eq hstart hstop hbody]
          simp [interleave]

theorem bodies_eq_ok {made : List Text} :
    bodies replacements = .ok made ↔
      List.Forall₂ (fun r t => body r.1 r.2 = .ok t) replacements made := by
  induction replacements generalizing made with
  | nil => simp [bodies, pure, Except.pure, eq_comm]
  | cons r replacements ih =>
    rw [bodies_cons, bind_eq_ok, List.forall₂_cons_left_iff]
    constructor
    · rintro ⟨others, hothers, hmap⟩
      cases hbody : body r.1 r.2 with
      | error e =>
        rw [hbody] at hmap
        cases hmap
      | ok t =>
        rw [hbody] at hmap
        exact ⟨t, others, rfl, ih.mp hothers, (Except.ok.inj hmap).symm⟩
    · rintro ⟨t, others, hbody, hothers, rfl⟩
      exact ⟨others, ih.mpr hothers, by rw [hbody]; rfl⟩

theorem body_eq_ok_iff :
    (∃ t, body site snippet = .ok t) ↔
      site.indent = [] ∨ ∃ lexemes, scan (trimRight snippet.text) = .ok lexemes := by
  constructor
  · rintro ⟨t, hbody⟩
    obtain ⟨indented, hreindent, -⟩ := bind_eq_ok.mp hbody
    unfold reindent at hreindent
    split_ifs at hreindent with hindent
    · exact .inl (by simpa using hindent)
    · split at hreindent
      · cases hreindent
      · rename_i lexemes hscan
        exact .inr ⟨lexemes, hscan⟩
  · intro h
    cases hbody : body site snippet with
    | ok t => exact ⟨t, rfl⟩
    | error failure =>
      obtain ⟨hindent, cause, hscan, -⟩ := scan_of_body hbody
      rcases h with hnone | ⟨lexemes, hlexemes⟩
      · exact absurd hnone hindent
      · rw [hscan] at hlexemes
        cases hlexemes

-- Nothing but the indent and the code goes into a body.
theorem body_congr {site other : Site} (h : site.indent = other.indent) :
    body site snippet = body other snippet := by
  simp only [body, h]

theorem bodies_congr {others : List (Site × Snippet)}
    (haccepted : ∀ r ∈ replacements, r.2.Accepted) (hothers : ∀ r ∈ others, r.2.Accepted)
    (h : others.map (fun r => (r.1.indent, r.2.text)) =
      replacements.map fun r => (r.1.indent, r.2.text)) :
    bodies others = bodies replacements := by
  induction replacements generalizing others with
  | nil => rw [List.map_eq_nil_iff.mp h]
  | cons r replacements ih =>
    cases others with
    | nil => cases h
    | cons other others =>
      simp only [List.map_cons, List.cons.injEq, Prod.mk.injEq] at h
      rw [List.forall_mem_cons] at haccepted hothers
      have hsnippet : other.2 = r.2 := hothers.1.ext haccepted.1 h.1.2
      rw [bodies_cons, bodies_cons, ih haccepted.2 hothers.2 h.2, hsnippet, body_congr h.1.1]

end

-- Some of the directives that are found in a text are replaced. What is around them stays, and
-- each one gives way to its body, in whatever order they are listed. A body is made of the indent
-- of its directive and the code alone. Only code for a block that cannot be scanned, once the
-- blanks at its end are gone, has no body; nothing is replaced then.
theorem substituteAll_simultaneous {path : Path} {source : Text} {sites : List Site}
    {chosen listed : List (Site × Snippet)} (hfind : find path source = .ok sites)
    (hchosen : (chosen.map Prod.fst).Sublist sites) (hlisted : listed.Perm chosen)
    (haccepted : ∀ r ∈ chosen, r.2.Accepted) :
    interleave (kept source (chosen.map Prod.fst))
        ((chosen.map Prod.fst).map (span source)) = source ∧
      substituteAll source listed =
        (bodies chosen).map (interleave (kept source (chosen.map Prod.fst))) ∧
      (∀ made, bodies chosen = .ok made ↔
        List.Forall₂ (fun r t => body r.1 r.2 = .ok t) chosen made) ∧
      ((∃ t, substituteAll source listed = .ok t) ↔ ∀ r ∈ chosen, r.1.indent = [] ∨
        ∃ lexemes, scan (trimRight r.2.text) = .ok lexemes) ∧
      (∀ others : List (Site × Snippet), (∀ r ∈ others, r.2.Accepted) →
        others.map (fun r => (r.1.indent, r.2.text)) =
          chosen.map (fun r => (r.1.indent, r.2.text)) →
        bodies others = bodies chosen) ∧
      substituteAll source [] = .ok source := by
  have hcut : Cut [] (chosen.map Prod.fst) source := (cut_find hfind).sublist hchosen
  have hall : substituteAll source listed =
      (bodies chosen).map (interleave (kept source (chosen.map Prod.fst))) := by
    rw [substituteAll, mergeSort_eq_reverse hcut hlisted, List.foldlM_reverse]
    exact foldrM_substitute hcut
  have hempty : substituteAll source [] = .ok source := by simp [substituteAll, pure, Except.pure]
  refine ⟨interleave_span hcut, hall, fun made => bodies_eq_ok, ?_,
    fun others hothers hsame => bodies_congr haccepted hothers hsame, hempty⟩
  simp only [← body_eq_ok_iff]
  constructor
  · rintro ⟨t, ht⟩ r hr
    exact forall_body_of_substituteAll ht r (hlisted.mem_iff.mpr hr)
  · intro h
    obtain ⟨made, hmade⟩ := exists_bodies h
    exact ⟨_, by rw [hall, bodies_eq_ok.mpr hmade]; rfl⟩

def threefold : Text := "if a:\n    magic(1)\n    magic(2)\ndo_it(\n)\n".toList

def threefoldSites : List Site :=
  [⟨.ofText "a.py".toList, "magic".toList, "1".toList, ⟨2, 4⟩, ⟨2, 12⟩, "    ".toList⟩,
    ⟨.ofText "a.py".toList, "magic".toList, "2".toList, ⟨3, 4⟩, ⟨3, 12⟩, "    ".toList⟩,
    ⟨.ofText "a.py".toList, "do_it".toList, "\n".toList, ⟨4, 0⟩, ⟨5, 1⟩, []⟩]

def twoAssignments : Snippet := ⟨"x = 1\ny = 2\n".toList, [.assign, .assign]⟩

def onlyPass : Snippet := ⟨"pass\n".toList, [.pass]⟩

def firstAndLast : List (Site × Snippet) :=
  [(threefoldSites[0], twoAssignments), (threefoldSites[2], onlyPass)]

-- The last directive may as well be listed first.
theorem substituteAll_threefold :
    substituteAll threefold firstAndLast.reverse =
      .ok "if a:\n    x = 1\n    y = 2\n    magic(2)\npass\n".toList := by
  have hfind : find (.ofText "a.py".toList) threefold = .ok threefoldSites :=
    ok_of_toOption (by decide +kernel)
  have hchosen : (firstAndLast.map Prod.fst).Sublist threefoldSites := by decide +kernel
  have haccepted : ∀ r ∈ firstAndLast, r.2.Accepted := by
    rw [firstAndLast, List.forall_mem_cons, List.forall_mem_singleton]
    exact ⟨⟨false, twoAssignments.text, ok_of_toOption (by decide +kernel)⟩,
      ⟨false, onlyPass.text, ok_of_toOption (by decide +kernel)⟩⟩
  have hmade : bodies firstAndLast = .ok ["x = 1\n    y = 2".toList, "pass".toList] :=
    ok_of_toOption (by decide +kernel)
  rw [(substituteAll_simultaneous hfind hchosen (List.reverse_perm _) haccepted).2.1, hmade]
  exact congrArg Except.ok (by decide +kernel)

def inBlock : Text := "if a:\n    magic()\n".toList

def inBlockSite : Site :=
  ⟨.ofText "a.py".toList, "magic".toList, [], ⟨2, 4⟩, ⟨2, 11⟩, "    ".toList⟩

-- A module whose third row is empty to the grammar, but indented to the scanner.
def unevenCode : Snippet := ⟨"if b:\n    pass\n  \\\n\nx = 1\n".toList, [.ifElse, .assign]⟩

theorem not_substituteAll_uneven :
    find inBlockSite.path inBlock = .ok [inBlockSite] ∧ unevenCode.Accepted ∧
      ¬ ∃ t, substituteAll inBlock [(inBlockSite, unevenCode)] = .ok t := by
  refine ⟨ok_of_toOption (by decide +kernel),
    ⟨false, unevenCode.text, ok_of_toOption (by decide +kernel)⟩, ?_⟩
  rintro ⟨t, ht⟩
  have hnone : (substituteAll inBlock [(inBlockSite, unevenCode)]).toOption = none := by
    decide +kernel
  rw [ht] at hnone
  cases hnone

end Ghostwriter.Splice

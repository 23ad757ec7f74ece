import Ghostwriter.Proofs.Failure.Result
import Ghostwriter.Snippet.Splice
import Mathlib.Data.List.Forall2
import Mathlib.Tactic.SplitIfs

/-!
A text cut at its directives: the kept parts around them, and what the text is with other parts in
their place.
-/

namespace Ghostwriter.Splice

open Ghostwriter.Lexeme Ghostwriter.Text

-- The position behind a text.
def positionOf : Text → Position
  | [] => ⟨1, 0⟩
  | c :: t =>
    let p := positionOf t
    if c = '\n' then ⟨p.line + 1, p.column⟩
    else if p.line = 1 then ⟨1, p.column + 1⟩
    else p

theorem line_positionOf_pos (t : Text) : 1 ≤ (positionOf t).line := by
  induction t with
  | nil => simp [positionOf]
  | cons c t ih =>
    simp only [positionOf]
    split_ifs
    · simp
    · simp
    · exact ih

theorem line_positionOf (t : Text) : (positionOf t).line = t.count '\n' + 1 := by
  induction t with
  | nil => rfl
  | cons c t ih =>
    simp only [positionOf]
    split_ifs with hc hline
    · rw [hc, List.count_cons_self, ih]
    · rw [List.count_cons_of_ne hc, ← ih, hline]
    · rw [List.count_cons_of_ne hc, ih]

-- The second text begins where the first one ends.
theorem positionOf_append (a b : Text) :
    positionOf (a ++ b) = ⟨(positionOf a).line + b.count '\n',
      (if b.count '\n' = 0 then (positionOf a).column else 0) + (positionOf b).column⟩ := by
  induction a with
  | nil =>
    simp only [List.nil_append, positionOf, ite_self, Nat.zero_add, Nat.add_comm 1]
    rw [← line_positionOf]
  | cons c a ih =>
    have hlines := line_positionOf a
    rw [List.cons_append, positionOf, positionOf, ih]
    split_ifs <;> simp_all <;> omega

theorem positionOf_of_not_mem {t : Text} (h : '\n' ∉ t) : positionOf t = ⟨1, t.length⟩ := by
  induction t with
  | nil => rfl
  | cons c t ih =>
    rw [List.mem_cons, not_or] at h
    rw [positionOf, ih h.2, if_neg (Ne.symm h.1)]
    rfl

theorem offset_eq {rows : List Text} {p : Position} (h : 1 ≤ p.line) :
    offset rows p = (rows.take (p.line - 1)).flatten.length + p.column := by
  rw [offset, if_neg (by omega)]

-- The position behind a text leads back to its end, whatever follows.
theorem offset_positionOf (t behind : Text) : offset (lines (t ++ behind)) (positionOf t) = t.length := by
  induction t with
  | nil => simp [positionOf, offset]
  | cons c t ih =>
    have hpos := line_positionOf_pos t
    have hpos' := line_positionOf_pos (c :: t)
    rw [offset_eq hpos] at ih
    rw [offset_eq hpos']
    rw [List.cons_append, List.length_cons]
    unfold lines
    simp only [positionOf]
    split_ifs with hc hline
    · obtain ⟨n, hn⟩ : ∃ n, (positionOf t).line = n + 1 := ⟨(positionOf t).line - 1, by omega⟩
      simp only [hn, Nat.add_sub_cancel] at ih ⊢
      simp only [List.take_succ_cons, List.flatten_cons, List.length_append, List.length_singleton]
      omega
    · simp only [hline, Nat.sub_self, List.take_zero, List.flatten_nil, List.length_nil] at ih ⊢
      omega
    · obtain ⟨n, hn⟩ : ∃ n, (positionOf t).line = n + 2 := ⟨(positionOf t).line - 2, by omega⟩
      cases hlines : lines (t ++ behind) with
      | nil =>
        have hflat := lines_flatten (t ++ behind)
        rw [hlines] at hflat
        obtain ⟨rfl, _⟩ := List.append_eq_nil_iff.mp hflat.symm
        exact absurd rfl hline
      | cons first others =>
        rw [hlines] at ih
        simp only [hn, Nat.add_one_sub_one, List.take_succ_cons, List.flatten_cons,
          List.length_append, List.length_cons] at ih ⊢
        omega

example : offset (lines "ab\ncd\n".toList) ⟨2, 1⟩ = "ab\nc".toList.length := by decide +kernel

theorem before_positionOf_append (t : Text) {more : Text} (hne : more ≠ []) :
    (positionOf t).before (positionOf (t ++ more)) = true := by
  induction t with
  | nil =>
    cases more with
    | nil => exact absurd rfl hne
    | cons c more =>
      have hpos := line_positionOf_pos more
      simp only [List.nil_append, positionOf, Position.before]
      split_ifs <;> simp <;> omega
  | cons c t ih =>
    have hpos := line_positionOf_pos t
    have hpos' := line_positionOf_pos (t ++ more)
    simp only [Position.before, Bool.or_eq_true, Bool.and_eq_true, decide_eq_true_eq,
      beq_iff_eq] at ih
    simp only [List.cons_append, positionOf, Position.before]
    split_ifs <;> simp <;> omega

-- Directives that stand in `behind` one after the other, where `before` is what comes before it.
inductive Cut : Text → List Site → Text → Prop
  | nil {before behind : Text} : Cut before [] behind
  | cons {before kept span behind : Text} {site : Site} {sites : List Site} (spans : span ≠ [])
      (start : site.start = positionOf (before ++ kept))
      (stop : site.stop = positionOf (before ++ kept ++ span))
      (others : Cut (before ++ kept ++ span) sites behind) :
      Cut before (site :: sites) (kept ++ (span ++ behind))

-- The parts of a text between its directives, from an offset on.
def keptFrom (source : Text) (first : Nat) : List Site → List Text
  | [] => [source.drop first]
  | site :: sites =>
    (source.take (offset (lines source) site.start)).drop first ::
      keptFrom source (offset (lines source) site.stop) sites

def kept (source : Text) (sites : List Site) : List Text := keptFrom source 0 sites

-- Parts with a text after each but the last.
def interleave : List Text → List Text → Text
  | part :: parts, body :: bodies => part ++ body ++ interleave parts bodies
  | parts, _ => parts.flatten

section

variable {before behind source : Text} {site : Site} {sites : List Site}

theorem keptFrom_cons {part span : Text} (start : site.start = positionOf (before ++ part))
    (stop : site.stop = positionOf (before ++ part ++ span)) :
    keptFrom (before ++ (part ++ (span ++ behind))) before.length (site :: sites) =
      part :: keptFrom (before ++ part ++ span ++ behind) (before ++ part ++ span).length sites := by
  have hsource : before ++ (part ++ (span ++ behind)) = before ++ part ++ span ++ behind := by
    simp
  have hstart : offset (lines (before ++ part ++ span ++ behind)) site.start =
      (before ++ part).length := by
    rw [start, List.append_assoc _ span, offset_positionOf]
  have hstop : offset (lines (before ++ part ++ span ++ behind)) site.stop =
      (before ++ part ++ span).length := by
    rw [stop, offset_positionOf]
  rw [hsource, keptFrom, hstart, hstop, List.append_assoc _ span, List.take_left, List.drop_left]

theorem substitute_eq {part span rest body : Text} {snippet : Snippet}
    (start : site.start = positionOf (before ++ part))
    (stop : site.stop = positionOf (before ++ part ++ span))
    (hbody : Splice.body site snippet = .ok body) :
    substitute (before ++ part ++ span ++ rest) site snippet =
      .ok (before ++ (part ++ body ++ rest)) := by
  have hstart : offset (lines (before ++ part ++ span ++ rest)) site.start =
      (before ++ part).length := by
    rw [start, List.append_assoc _ span, offset_positionOf]
  have hstop : offset (lines (before ++ part ++ span ++ rest)) site.stop =
      (before ++ part ++ span).length := by
    rw [stop, offset_positionOf]
  simp only [substitute, hbody, bind, Except.bind, hstart, hstop]
  rw [List.drop_left, List.append_assoc (before ++ part), List.take_left]
  simp

-- From the last directive to the first, each snippet comes to stand between the kept parts.
theorem foldr_substitute {replacements : List (Site × Snippet)} {bodies : List Text}
    (hcut : Cut before (replacements.map Prod.fst) behind)
    (hbodies : List.Forall₂ (fun r body => Splice.body r.1 r.2 = .ok body) replacements bodies) :
    replacements.foldrM (fun r text => substitute text r.1 r.2) (before ++ behind) =
      .ok (before ++ interleave
        (keptFrom (before ++ behind) before.length (replacements.map Prod.fst)) bodies) := by
  induction hbodies generalizing before behind with
  | nil =>
    simp [keptFrom, interleave]
    rfl
  | @cons r body replacements bodies hbody _ ih =>
    rw [List.map_cons] at hcut ⊢
    cases hcut with
    | @cons _ part span behind _ _ _ hstart hstop hothers =>
      rw [keptFrom_cons hstart hstop, List.foldrM_cons]
      have hsource : before ++ (part ++ (span ++ behind)) = before ++ part ++ span ++ behind := by
        simp
      rw [hsource, ih hothers]
      simp only [bind, Except.bind]
      rw [substitute_eq hstart hstop hbody]
      simp [interleave]

theorem Cut.start_of_mem (h : Cut before sites behind) :
    ∀ s ∈ sites, ∃ more, s.start = positionOf (before ++ more) := by
  induction h with
  | nil => simp
  | @cons before part span behind site sites _ hstart _ _ ih =>
    rw [List.forall_mem_cons]
    refine ⟨⟨part, hstart⟩, fun s hs => ?_⟩
    obtain ⟨more, hmore⟩ := ih s hs
    exact ⟨part ++ span ++ more, by simpa using hmore⟩

-- The directives come in the order of their places.
theorem Cut.pairwise (h : Cut before sites behind) :
    sites.Pairwise fun a b => a.start.before b.start = true := by
  induction h with
  | nil => exact List.Pairwise.nil
  | cons hspan hstart _ hothers ih =>
    refine List.pairwise_cons.mpr ⟨fun s hs => ?_, ih⟩
    obtain ⟨more, hmore⟩ := hothers.start_of_mem s hs
    rw [hstart, hmore, List.append_assoc _ _ more]
    exact before_positionOf_append _ (by simp [hspan])

theorem Cut.prepend {part : Text} (h : Cut (before ++ part) sites behind) :
    Cut before sites (part ++ behind) := by
  cases h with
  | nil => exact .nil
  | @cons _ kept span behind site sites hspan hstart hstop hothers =>
    rw [← List.append_assoc part]
    refine .cons hspan ?_ ?_ ?_
    · rw [hstart, List.append_assoc]
    · rw [hstop, List.append_assoc before]
    · rwa [← List.append_assoc before]

-- Some of the directives cut the text as well.
theorem Cut.sublist {some : List Site} (h : Cut before sites behind) (hsome : some.Sublist sites) :
    Cut before some behind := by
  induction h generalizing some with
  | nil =>
    rw [List.sublist_nil.mp hsome]
    exact .nil
  | @cons before kept span behind site sites hspan hstart hstop _ ih =>
    cases hsome with
    | cons _ hsome => exact (ih hsome).prepend.prepend
    | cons_cons _ hsome => exact .cons hspan hstart hstop (ih hsome)

theorem startsLater_trans (a b c : Site × Snippet) (hab : startsLater a b = true)
    (hbc : startsLater b c = true) : startsLater a c = true := by
  simp only [startsLater, Position.before, Bool.not_eq_true', Bool.or_eq_false_iff,
    Bool.and_eq_false_iff, decide_eq_false_iff_not, beq_eq_false_iff_ne] at hab hbc ⊢
  omega

theorem startsLater_total (a b : Site × Snippet) :
    (startsLater a b || startsLater b a) = true := by
  simp only [startsLater, Position.before, Bool.or_eq_true, Bool.not_eq_true', Bool.or_eq_false_iff,
    Bool.and_eq_false_iff, decide_eq_false_iff_not, beq_eq_false_iff_ne]
  omega

theorem not_before_of_before {p q : Position} (h : p.before q = true) : q.before p = false := by
  simp only [Position.before, Bool.or_eq_true, Bool.and_eq_true, decide_eq_true_eq, beq_iff_eq,
    Bool.or_eq_false_iff, Bool.and_eq_false_iff, decide_eq_false_iff_not,
    beq_eq_false_iff_ne] at h ⊢
  omega

-- Sorting puts directives the other way round, in whatever order they are listed.
theorem mergeSort_eq_reverse {replacements listed : List (Site × Snippet)}
    (hcut : Cut before (replacements.map Prod.fst) behind) (hlisted : listed.Perm replacements) :
    listed.mergeSort startsLater = replacements.reverse := by
  have hpairwise : replacements.Pairwise fun a b => a.1.start.before b.1.start = true :=
    List.pairwise_map.mp hcut.pairwise
  have hsorted : (listed.mergeSort startsLater).Perm replacements :=
    (List.mergeSort_perm _ _).trans hlisted
  refine @List.Perm.eq_of_pairwise _ (fun a b => startsLater a b = true) _ _ ?_
    (List.pairwise_mergeSort startsLater_trans startsLater_total _) ?_
    (hsorted.trans (List.reverse_perm _).symm)
  · intro a b ha hb hab hba
    by_contra hne
    let ordered (a b : Site × Snippet) : Prop :=
      a ≠ b → a.1.start.before b.1.start = true ∨ b.1.start.before a.1.start = true
    have hordered := List.Pairwise.forall_of_forall_of_flip (R := ordered)
      (fun x _ hx => absurd rfl hx) (hpairwise.imp fun h _ => .inl h)
      (hpairwise.imp fun h _ => .inr h) (hsorted.mem_iff.mp ha)
      (List.mem_reverse.mp hb) hne
    rcases hordered with hlt | hlt
    · simp [startsLater, hlt] at hab
    · simp [startsLater, hlt] at hba
  · rw [List.pairwise_reverse]
    exact hpairwise.imp fun h => by simp [startsLater, not_before_of_before h]

theorem body_of_substitute {snippet : Snippet} {t : Text}
    (h : substitute source site snippet = .ok t) : ∃ body, Splice.body site snippet = .ok body := by
  obtain ⟨body, hbody, -⟩ := bind_eq_ok.mp h
  exact ⟨body, hbody⟩

theorem bodies_of_foldlM {replacements : List (Site × Snippet)} {t : Text}
    (h : replacements.foldlM (fun text r => substitute text r.1 r.2) source = .ok t) :
    ∀ r ∈ replacements, ∃ body, Splice.body r.1 r.2 = .ok body := by
  induction replacements generalizing source with
  | nil => simp
  | cons r rest ih =>
    rw [List.foldlM_cons, bind_eq_ok] at h
    obtain ⟨middle, hfirst, hrest⟩ := h
    rw [List.forall_mem_cons]
    exact ⟨body_of_substitute hfirst, ih hrest⟩

theorem forall_body_of_substituteAll {replacements : List (Site × Snippet)} {t : Text}
    (h : substituteAll source replacements = .ok t) :
    ∀ r ∈ replacements, ∃ body, Splice.body r.1 r.2 = .ok body :=
  fun r hr => bodies_of_foldlM h r ((List.mergeSort_perm _ _).mem_iff.mpr hr)

theorem exists_bodies {replacements : List (Site × Snippet)}
    (h : ∀ r ∈ replacements, ∃ body, Splice.body r.1 r.2 = .ok body) :
    ∃ bodies, List.Forall₂ (fun r body => Splice.body r.1 r.2 = .ok body) replacements bodies := by
  induction replacements with
  | nil => exact ⟨[], .nil⟩
  | cons r rest ih =>
    rw [List.forall_mem_cons] at h
    obtain ⟨⟨body, hbody⟩, hrest⟩ := h
    obtain ⟨bodies, hbodies⟩ := ih hrest
    exact ⟨body :: bodies, .cons hbody hbodies⟩

-- Where replacing succeeds, each directive has a text for its place.
theorem bodies_of_substituteAll {replacements : List (Site × Snippet)} {t : Text}
    (h : substituteAll source replacements = .ok t) :
    ∃ bodies, List.Forall₂ (fun r body => Splice.body r.1 r.2 = .ok body) replacements bodies :=
  exists_bodies (forall_body_of_substituteAll h)

theorem scan_of_body {snippet : Snippet} {failure : Failure}
    (h : body site snippet = .error failure) :
    site.indent ≠ [] ∧ ∃ cause, scan (trimRight snippet.text) = .error cause ∧
      failure = .crash (.scan cause) := by
  rcases bind_eq_error.mp h with hreindent | ⟨t, -, h⟩
  · unfold reindent at hreindent
    split_ifs at hreindent with hindent
    refine ⟨by simpa using hindent, ?_⟩
    split at hreindent
    · rename_i cause hscan
      cases hreindent
      exact ⟨cause, hscan, rfl⟩
    · split at hreindent <;> cases hreindent
  · split_ifs at h

theorem body_of_foldlM {replacements : List (Site × Snippet)} {failure : Failure}
    (h : replacements.foldlM (fun text r => substitute text r.1 r.2) source = .error failure) :
    ∃ r ∈ replacements, body r.1 r.2 = .error failure := by
  induction replacements generalizing source with
  | nil => cases h
  | cons r rest ih =>
    rw [List.foldlM_cons, bind_eq_error] at h
    rcases h with hfirst | ⟨middle, -, hrest⟩
    · rcases bind_eq_error.mp hfirst with hbody | ⟨t, -, hput⟩
      · exact ⟨r, List.mem_cons_self, hbody⟩
      · cases hput
    · obtain ⟨other, hother, hfails⟩ := ih hrest
      exact ⟨other, List.mem_cons_of_mem _ hother, hfails⟩

-- Putting code into its places fails only over code in a block.
theorem scan_of_substituteAll {replacements : List (Site × Snippet)} {failure : Failure}
    (h : substituteAll source replacements = .error failure) :
    ∃ r ∈ replacements, r.1.indent ≠ [] ∧ ∃ cause,
      scan (trimRight r.2.text) = .error cause ∧ failure = .crash (.scan cause) := by
  obtain ⟨r, hr, hbody⟩ := body_of_foldlM h
  exact ⟨r, (List.mergeSort_perm _ _).mem_iff.mp hr, scan_of_body hbody⟩

-- What replacing all directives comes to.
theorem substituteAll_eq {replacements : List (Site × Snippet)} {bodies : List Text}
    (hcut : Cut [] (replacements.map Prod.fst) source)
    (hbodies : List.Forall₂ (fun r body => Splice.body r.1 r.2 = .ok body) replacements bodies) :
    substituteAll source replacements =
      .ok (interleave (kept source (replacements.map Prod.fst)) bodies) := by
  rw [substituteAll, mergeSort_eq_reverse hcut (.refl _), List.foldlM_reverse]
  exact foldr_substitute hcut hbodies

end

end Ghostwriter.Splice

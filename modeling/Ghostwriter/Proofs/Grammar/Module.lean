import Ghostwriter.Proofs.Grammar.Forest

/-!
Modules as lists of lines: the lines of a snippet in the place of a line with nothing but `pass`.
-/

namespace Ghostwriter.Grammar

open Ghostwriter.Text

namespace Block

theorem ofLines?_iff {lines : List Line} {blocks : List Block} :
    ofLines? lines = some blocks ↔
      ∃ deep last, Layout [⟨0, 0⟩] lines deep last ∧ (∀ t ∈ ofDepths deep, t.1 = 0) ∧
        blocks = (ofDepths deep).map Prod.snd := by
  unfold ofLines?
  simp only [Option.bind_eq_bind, Option.bind_eq_some_iff, depths?_iff stacked_start]
  constructor
  · rintro ⟨deep, ⟨last, hlayout⟩, h⟩
    split at h
    case isFalse => cases h
    case isTrue hall =>
      cases h
      exact ⟨deep, last, hlayout, by simpa using hall, rfl⟩
  · rintro ⟨deep, last, hlayout, hall, rfl⟩
    exact ⟨deep, ⟨last, hlayout⟩, if_pos (by simpa using hall)⟩

theorem Opens.eq_cons {margins result : List Margin} {m : Margin} (h : Opens margins m result) :
    ∃ outer, result = m :: outer := by
  cases h <;> exact ⟨_, rfl⟩

theorem eq_nil_of_stacked {outer : List Margin} (h : Stacked (⟨0, 0⟩ :: outer)) : outer = [] := by
  cases outer with
  | nil => rfl
  | cons e outer =>
    have habove := (List.pairwise_cons.mp h.descending).1 e (by simp)
    exact absurd habove.1 (Nat.not_lt_zero _)

theorem eq_zero_of_stacked {m : Margin} (h : Stacked [m]) : m = ⟨0, 0⟩ := by
  simpa using h.outermost

section

variable {margins extra last : List Margin} {lines before after : List Line}
  {deep : List (Nat × List Token)}

-- Lines that do not start deeper than the innermost of some margins may as well follow a line with
-- further margins open.
theorem Layout.behind (h : Layout margins lines deep last)
    (hhead : ∀ l ∈ deep.head?, l.1 + 1 ≤ margins.length) (hstacked : Stacked (extra ++ margins))
    (hne : margins ≠ []) : ∃ last', Layout (extra ++ margins) lines deep last' := by
  cases h with
  | nil => exact ⟨_, .nil⟩
  | @cons _ next _ line lines deep hopens hbehind =>
    refine ⟨last, .cons ?_ hbehind⟩
    have hlength : next.length ≤ margins.length := by
      have := hhead _ rfl
      simp only at this
      omega
    have hmargins := hstacked.suffix hne
    generalize hm : line.margin = m at hopens
    cases hopens with
    | @deeper inner _ outer habove hroom =>
      simp only [List.length_cons] at hlength
      omega
    | @back atop outer _ habove =>
      rw [← List.append_assoc] at hstacked ⊢
      exact .back (above_of_stacked hstacked)

theorem head?_eq_zero (h : ∀ t ∈ ofDepths deep, t.1 = 0) : ∀ l ∈ deep.head?, l.1 = 0 := by
  intro l hl
  have hhead := head?_ofDepths deep
  rw [Option.mem_def.mp hl, Option.map_some] at hhead
  obtain ⟨t, ht, hdepth⟩ := Option.map_eq_some_iff.mp hhead
  rw [← hdepth]
  exact h t (List.mem_of_mem_head? ht)

theorem Stacked.eq_append (h : Stacked margins) : ∃ extra, margins = extra ++ [⟨0, 0⟩] :=
  List.getLast?_eq_some_iff.mp h.outermost

theorem ofDepths_append {deep' : List (Nat × List Token)} (h : ∀ l ∈ deep'.head?, l.1 = 0) :
    ofDepths (deep ++ deep') = ofDepths deep ++ ofDepths deep' := by
  have hhead : ∀ t ∈ (ofDepths deep').head?, t.1 ≤ 0 := by
    intro t ht
    have hfirst := head?_ofDepths deep'
    rw [Option.mem_def.mp ht, Option.map_some] at hfirst
    obtain ⟨l, hl, hdepth⟩ := Option.map_eq_some_iff.mp hfirst.symm
    rw [← hdepth, h l hl]
  simpa [ofDepths] using foldr_addLine deep hhead

def passLine (m : Margin) : Line := ⟨m, [.keyword .pass_]⟩

-- What the lines around a `pass` come to.
theorem layout_around_pass {m : Margin} {blocks : List Block}
    (h : ofLines? (before ++ passLine m :: after) = some blocks)
    (hkinds : (kinds? blocks).isSome) :
    ∃ deep₁ deep₂ opened outer last, Layout [⟨0, 0⟩] before deep₁ opened ∧
      Opens opened m (m :: outer) ∧ Layout (m :: outer) after deep₂ last ∧
      (∀ l ∈ deep₂.head?, l.1 ≤ outer.length) ∧
      (∀ t ∈ ofDepths (deep₁ ++ (outer.length, [.keyword .pass_]) :: deep₂), t.1 = 0) ∧
      blocks = (ofDepths (deep₁ ++ (outer.length, [.keyword .pass_]) :: deep₂)).map Prod.snd := by
  obtain ⟨deep, last, hlayout, hzero, rfl⟩ := ofLines?_iff.mp h
  obtain ⟨deep₁, deep', opened, rfl, hbefore, hpass⟩ := hlayout.split
  cases hpass with
  | @cons _ next _ _ _ deep₂ hopens hafter =>
    obtain ⟨outer, rfl⟩ := hopens.eq_cons
    exact ⟨deep₁, deep₂, opened, outer, last, hbefore, hopens, hafter, depth_le_of_pass hkinds,
      hzero, rfl⟩

-- On the outermost level the blocks of a snippet take the place of the `pass`.
theorem ofLines?_replace_top {code : List Line} {blocks codeBlocks : List Block}
    (h : ofLines? (before ++ passLine ⟨0, 0⟩ :: after) = some blocks)
    (hkinds : (kinds? blocks).isSome) (hcode : ofLines? code = some codeBlocks) :
    ∃ blocks₁ blocks₂, ofLines? before = some blocks₁ ∧
      blocks = blocks₁ ++ passBlock :: blocks₂ ∧
      ofLines? (before ++ (code ++ after)) = some (blocks₁ ++ (codeBlocks ++ blocks₂)) := by
  obtain ⟨deep₁, deep₂, opened, outer, last, hbefore, hopens, hafter, hhead, hzero, rfl⟩ :=
    layout_around_pass h hkinds
  obtain ⟨deepCode, lastCode, hlayoutCode, hzeroCode, rfl⟩ := ofLines?_iff.mp hcode
  have hstacked := hbefore.stacked stacked_start
  obtain rfl := eq_nil_of_stacked (hopens.stacked hstacked)
  have hhead₂ : ∀ l ∈ deep₂.head?, l.1 = 0 := fun l hl => Nat.le_zero.mp (hhead l hl)
  have hheadCode := head?_eq_zero hzeroCode
  -- The snippet follows the lines before, and the lines behind follow the snippet.
  obtain ⟨extra, rfl⟩ := hstacked.eq_append
  obtain ⟨lastCode', hcode'⟩ := hlayoutCode.behind (fun l hl => by simp [hheadCode l hl]) hstacked
    (by simp)
  have hstackedCode := hcode'.stacked hstacked
  obtain ⟨extraCode, rfl⟩ := hstackedCode.eq_append
  obtain ⟨last', hafter'⟩ := hafter.behind (fun l hl => by simp [hhead₂ l hl]) hstackedCode
    (by simp)
  have hsplit : ofDepths (deep₁ ++ (0, [.keyword .pass_]) :: deep₂) =
      ofDepths deep₁ ++ (0, passBlock) :: ofDepths deep₂ := by
    rw [ofDepths_append (by simp), ← List.singleton_append, ofDepths_append hhead₂]
    rfl
  rw [List.length_nil] at hzero ⊢
  rw [hsplit] at hzero ⊢
  simp only [List.forall_mem_append, List.forall_mem_cons] at hzero
  have hheadBoth : ∀ l ∈ (deepCode ++ deep₂).head?, l.1 = 0 := by
    cases deepCode with
    | nil => exact hhead₂
    | cons l deepCode => exact hheadCode
  refine ⟨(ofDepths deep₁).map Prod.snd, (ofDepths deep₂).map Prod.snd,
    ofLines?_iff.mpr ⟨deep₁, _, hbefore, hzero.1, rfl⟩, by simp, ofLines?_iff.mpr ?_⟩
  refine ⟨deep₁ ++ (deepCode ++ deep₂), last', hbefore.append (hcode'.append hafter'), ?_, ?_⟩
  · rw [ofDepths_append hheadBoth, ofDepths_append hhead₂]
    simp only [List.forall_mem_append]
    exact ⟨hzero.1, hzeroCode, hzero.2.2⟩
  · rw [ofDepths_append hheadBoth, ofDepths_append hhead₂]
    simp

-- In a block the moved lines of a snippet change nothing outside.
theorem kinds?_replace_nested {code : List (Line × Margin)} {blocks codeBlocks : List Block}
    {m : Margin} {kinds : List StatementKind}
    (h : ofLines? (before ++ passLine m :: after) = some blocks) (hkinds : kinds? blocks = some kinds)
    (hm : m ≠ ⟨0, 0⟩) (hcode : ofLines? (code.map Prod.fst) = some codeBlocks)
    (hcodeKinds : (kinds? codeBlocks).isSome) (hne : codeBlocks ≠ [])
    (horder : SameOrder ((⟨0, 0⟩, m) :: code.map fun l => (l.1.margin, l.2)))
    (hroom : ∀ deep opened outer deepCode last, Layout [⟨0, 0⟩] before deep opened →
      Opens opened m (m :: outer) → Layout [⟨0, 0⟩] (code.map Prod.fst) deepCode last →
      ∀ l ∈ deepCode, l.1 + 1 + outer.length ≤ maxMargins) :
    ∃ blocks', ofLines? (before ++ (code.map moved ++ after)) = some blocks' ∧
      kinds? blocks' = some kinds := by
  obtain ⟨deep₁, deep₂, opened, outer, last, hbefore, hopens, hafter, hhead, hzero, rfl⟩ :=
    layout_around_pass h (Option.isSome_of_eq_some hkinds)
  obtain ⟨deepCode, lastCode, hlayoutCode, hzeroCode, rfl⟩ := ofLines?_iff.mp hcode
  have hroom := hroom _ _ _ _ _ hbefore hopens hlayoutCode
  have hstacked := hbefore.stacked stacked_start
  have houter : outer ≠ [] := by
    rintro rfl
    exact hm (eq_zero_of_stacked (hopens.stacked hstacked))
  -- The moved lines, laid out behind the lines before.
  have hmoved : ∃ atop, Layout opened (code.map moved)
      (deepCode.map fun l => (l.1 + outer.length, l.2)) (atop ++ m :: outer) := by
    cases code with
    | nil =>
      cases hlayoutCode
      exact absurd rfl hne
    | cons c code =>
      rw [List.map_cons] at hlayoutCode
      cases hlayoutCode with
      | @cons _ next _ _ _ deepCode hopensCode hbehind =>
        obtain ⟨outerCode, rfl⟩ := hopensCode.eq_cons
        have hdepth := head?_eq_zero hzeroCode _ rfl
        simp only [List.length_cons, Nat.add_sub_cancel, List.length_eq_zero_iff] at hdepth
        subst hdepth
        have hmargin : c.1.margin = ⟨0, 0⟩ :=
          eq_zero_of_stacked (hopensCode.stacked stacked_start)
        have hgiven : m = c.2 := horder.equal (⟨0, 0⟩, m) (by simp) (c.1.margin, c.2) (by simp)
          hmargin.symm
        rw [hmargin] at hbehind
        rw [List.forall_mem_cons] at hroom
        obtain ⟨next, _, _, hbase, hlayout⟩ := @Layout.moved _ outer [(⟨0, 0⟩, m)] _ _ _ _
          horder (by simp)
          (fun l hl => List.mem_cons_of_mem _
            (List.mem_map_of_mem (f := fun l => (l.1.margin, l.2)) (List.mem_cons_of_mem _ hl)))
          rfl hbehind hroom.2
        obtain ⟨atop, rfl⟩ := List.getLast?_eq_some_iff.mp hbase
        refine ⟨atop.map Prod.snd, ?_⟩
        have hline : Opens opened (moved c).margin (m :: outer) := by
          rw [moved, ← hgiven]
          exact hopens
        have hcons := Layout.cons hline hlayout
        simpa [moved] using hcons
  obtain ⟨atop, hmoved⟩ := hmoved
  obtain ⟨last', hafter'⟩ := hafter.behind (fun l hl => by simpa using hhead l hl)
    (hmoved.stacked hstacked) (by simp)
  have hhead' : ∀ t ∈ (ofDepths deep₂).head?, t.1 ≤ outer.length := by
    intro t ht
    have hfirst := head?_ofDepths deep₂
    rw [Option.mem_def.mp ht, Option.map_some] at hfirst
    obtain ⟨l, hl, hdepth⟩ := Option.map_eq_some_iff.mp hfirst.symm
    rw [← hdepth]
    exact hhead l hl
  -- The forests with the `pass` and with the snippet.
  have hpass : ofDepths (deep₁ ++ (outer.length, [.keyword .pass_]) :: deep₂) =
      deep₁.foldr addLine ((outer.length, passBlock) :: ofDepths deep₂) := by
    have hline := foldr_addLine [(0, [.keyword .pass_])] hhead'
    simp only [List.map_cons, List.map_nil, List.foldr_cons, List.foldr_nil, Nat.zero_add] at hline
    rw [ofDepths, List.foldr_append, List.foldr_cons]
    exact congrArg (deep₁.foldr addLine) (hline.trans (by simp [ofDepths, addLine_eq, passBlock]))
  have hsnippet : ofDepths (deep₁ ++ ((deepCode.map fun l => (l.1 + outer.length, l.2)) ++ deep₂)) =
      deep₁.foldr addLine ((((ofDepths deepCode).map Prod.snd).map (outer.length, ·)) ++
        ofDepths deep₂) := by
    rw [ofDepths, List.foldr_append, List.foldr_append]
    refine congrArg (deep₁.foldr addLine) ((foldr_addLine deepCode hhead').trans ?_)
    rw [List.map_map]
    refine congrArg (· ++ ofDepths deep₂) (List.map_congr_left fun t ht => ?_)
    simp [hzeroCode t ht]
  have hreplaced : ForestReplaced ((ofDepths deepCode).map Prod.snd) outer.length
      (ofDepths (deep₁ ++ (outer.length, [.keyword .pass_]) :: deep₂))
      (ofDepths (deep₁ ++ ((deepCode.map fun l => (l.1 + outer.length, l.2)) ++ deep₂))) := by
    rw [hpass, hsnippet]
    exact ForestReplaced.foldr_addLine deep₁ (@ForestReplaced.here _ _ [] _) hne
  have hlayout := hbefore.append (hmoved.append hafter')
  generalize ofDepths (deep₁ ++ (outer.length, [.keyword .pass_]) :: deep₂) = forest at *
  generalize hforest' : ofDepths (deep₁ ++ ((deepCode.map fun l => (l.1 + outer.length, l.2)) ++
    deep₂)) = forest' at *
  cases hreplaced with
  | here =>
    have hdepth := hzero (outer.length, passBlock) (by simp)
    exact absurd (List.length_eq_zero_iff.mp hdepth) houter
  | @inside trees₁ trees₂ e tokens body body' hinside =>
    refine ⟨_, ofLines?_iff.mpr ⟨_, _, hlayout, ?_, by rw [hforest']⟩, ?_⟩
    · rw [hforest']
      simp only [List.forall_mem_append, List.forall_mem_cons] at hzero ⊢
      exact hzero
    · rw [List.map_append, List.map_cons] at hkinds ⊢
      exact kinds?_replace_inside hinside hne hcodeKinds hkinds

end

end Block

end Ghostwriter.Grammar

import Ghostwriter.Proofs.Grammar.Margin
import Ghostwriter.Proofs.Grammar.Replace

/-!
Lines in the place of a line with nothing but `pass`: what that does to the blocks of a module.
-/

namespace Ghostwriter.Grammar

open Ghostwriter.Text

namespace Block

-- A block, or a block inside it, and so on.
inductive Somewhere (p : Block → Prop) : List Block → Prop
  | here {b : Block} {blocks : List Block} (mem : b ∈ blocks) (holds : p b) : Somewhere p blocks
  | inside {b : Block} {blocks : List Block} (mem : b ∈ blocks) (within : Somewhere p b.body) :
      Somewhere p blocks

-- A `pass` with a block below it.
def IsHeavyPass (b : Block) : Prop := b.tokens = [.keyword .pass_] ∧ b.body ≠ []

theorem Somewhere.ne_nil {p : Block → Prop} {blocks : List Block} (h : Somewhere p blocks) :
    blocks ≠ [] := by
  rintro rfl
  cases h with
  | here hmem => cases hmem
  | inside hmem => cases hmem

theorem decorator_of_body {expression : Parser Expr} {b : Block} (h : b.body ≠ []) :
    decorator expression b = false := by
  unfold decorator
  split
  case h_2 => rfl
  case h_1 => split <;> simp [h]

-- A block that is no statement and no part of one spoils the list it is in.
theorem kinds?_eq_none_of_mem {b : Block} {blocks : List Block} (hb : b ∈ blocks)
    (hbody : b.body ≠ []) (hmatch : isMatch anyExpression anyPrimary kinds? b = false)
    (hheader : compoundHeader anyExpression anyPrimary b.tokens = none ∨
      ∀ ts, suite anyExpression anyPrimary kinds? ts b.body = false)
    (hclause : clauseBlock anyExpression anyPrimary kinds? b = false) : kinds? blocks = none := by
  rw [Option.eq_none_iff_forall_not_mem]
  intro kinds hkinds
  induction hn : blocks.length using Nat.strong_induction_on generalizing blocks kinds with
  | _ n ih =>
    obtain ⟨first, rest, others, hfirst, hothers, rfl⟩ :=
      (kinds?_iff (List.ne_nil_of_mem hb)).mp hkinds
    have hrest (hmem : b ∈ rest) : False := by
      obtain ⟨taken, htaken, rfl⟩ := hfirst.rest_suffix
      have hlength := List.length_pos_of_ne_nil htaken
      exact ih rest.length (by simp only [List.length_append] at hn; omega) hmem others hothers rfl
    cases hfirst with
    | line hplain _ hread =>
      rcases List.mem_cons.mp hb with rfl | hmem
      · simp [lineStatements, hmatch, hbody] at hread
      · exact hrest hmem
    | compound hmarked hplain hheader' hattached hdetached hread hdecorated hdecoratable =>
      simp only [List.mem_append, List.mem_cons] at hb
      unfold compound at hread
      simp only at hread
      split at hread
      case isFalse => cases hread
      case isTrue hsound =>
        rw [Bool.and_eq_true, Bool.and_eq_true, List.all_eq_true] at hsound
        rcases hb with hmem | rfl | hmem | hmem
        · have := List.all_eq_true.mp hdecorated b hmem
          rw [decorator_of_body hbody] at this
          cases this
        · rcases hheader with hnone | hsuite
          · rw [hnone] at hheader'
            cases hheader'
          · rw [hsuite] at hsound
            exact Bool.false_ne_true hsound.1.1
        · have := hsound.1.2 b hmem
          rw [hclause] at this
          cases this
        · exact hrest hmem

theorem suite_of_spoiled {ts : List Token} {body : List Block} (hne : body ≠ [])
    (h : kinds? body = none) : suite anyExpression anyPrimary kinds? ts body = false := by
  unfold suite
  split <;> simp [h, hne]

-- A `pass` with a block below it is no statement, wherever it is.
theorem not_statements_of_somewhere {blocks : List Block} (h : Somewhere IsHeavyPass blocks) :
    kinds? blocks = none ∧ blocks.all (caseBlock anyExpression anyPrimary kinds?) = false := by
  induction h with
  | @here b blocks hmem hheavy =>
    obtain ⟨htokens, hbody⟩ := hheavy
    refine ⟨kinds?_eq_none_of_mem hmem hbody ?_ (.inl ?_) ?_, ?_⟩
    · simp [isMatch, htokens]
    · rw [htokens]
      rfl
    · simp [clauseBlock, Block.clause?, clauseOf?, htokens]
    · rw [List.all_eq_false]
      exact ⟨b, hmem, by simp [caseBlock, htokens]⟩
  | @inside b blocks hmem hwithin ih =>
    obtain ⟨hkinds, hcases⟩ := ih
    have hbody := hwithin.ne_nil
    have hsuite (ts : List Token) : suite anyExpression anyPrimary kinds? ts b.body = false :=
      suite_of_spoiled hbody hkinds
    refine ⟨kinds?_eq_none_of_mem hmem hbody ?_ (.inr hsuite) ?_, ?_⟩
    · unfold isMatch
      split <;> simp [hcases]
    · unfold clauseBlock
      split
      case h_1 => rfl
      case h_2 => split <;> simp [hsuite]
    · rw [List.all_eq_false]
      refine ⟨b, hmem, ?_⟩
      unfold caseBlock
      split
      case h_2 => simp
      case h_1 => split <;> simp [hsuite]

section

variable {line : Nat × List Token} {forest forest' : List (Nat × Block)} {code : List Block}
  {d : Nat}

theorem addLine_eq :
    addLine line forest =
      (line.1, .mk line.2 ((forest.takeWhile (line.1 < ·.1)).map Prod.snd)) ::
        forest.dropWhile (line.1 < ·.1) := rfl

theorem span_append {α : Type} (p : α → Bool) (xs : List α) :
    (∀ x ∈ xs, p x = true) ∨ ∀ ys : List α,
      (xs ++ ys).takeWhile p = xs.takeWhile p ∧ (xs ++ ys).dropWhile p = xs.dropWhile p ++ ys := by
  induction xs with
  | nil => exact .inl (by simp)
  | cons x xs ih =>
    by_cases hx : p x = true
    · refine ih.imp (fun h => ?_) (fun h ys => ?_)
      · simpa [hx] using h
      · simp [hx, h ys]
    · exact .inr fun ys => by simp [hx]

theorem span_append_of_head {α : Type} {p : α → Bool} {xs ys : List α}
    (h : ∀ y ∈ ys.head?, p y = false) :
    (xs ++ ys).takeWhile p = xs.takeWhile p ∧ (xs ++ ys).dropWhile p = xs.dropWhile p ++ ys := by
  rcases span_append p xs with hall | hnot
  · obtain ⟨htake, hdrop⟩ := takeWhile_append_of_head hall h
    obtain ⟨htake', hdrop'⟩ := @takeWhile_append_of_head α p xs [] hall (by simp)
    rw [List.append_nil] at htake' hdrop'
    rw [htake, hdrop, htake', hdrop']
    exact ⟨rfl, rfl⟩
  · exact hnot ys

theorem head?_ofDepths (deep : List (Nat × List Token)) :
    (ofDepths deep).head?.map Prod.fst = deep.head?.map Prod.fst := by
  cases deep <;> rfl

-- Lines that are as deep as the forest behind them, or deeper, leave it as it is.
theorem foldr_addLine (deep : List (Nat × List Token)) (h : ∀ t ∈ forest.head?, t.1 ≤ d) :
    (deep.map fun l => (l.1 + d, l.2)).foldr addLine forest =
      (ofDepths deep).map (fun t : Nat × Block => (t.1 + d, t.2)) ++ forest := by
  induction deep with
  | nil => rfl
  | cons l deep ih =>
    have hhead : ∀ t ∈ forest.head?, decide (l.1 + d < t.1) = false := by
      intro t ht
      have := h t ht
      simp only [decide_eq_false_iff_not, Nat.not_lt]
      omega
    have hpred : ((fun t : Nat × Block => decide (l.1 + d < t.1)) ∘
        fun t : Nat × Block => (t.1 + d, t.2)) = fun t => decide (l.1 < t.1) := by
      funext t
      simp
    rw [List.map_cons, List.foldr_cons, ih, addLine_eq]
    obtain ⟨htake, hdrop⟩ := @span_append_of_head _ _
      ((ofDepths deep).map fun t : Nat × Block => (t.1 + d, t.2)) _ hhead
    rw [htake, hdrop, List.takeWhile_map, List.dropWhile_map, hpred, List.map_map]
    rfl

theorem Somewhere.mono {p : Block → Prop} {blocks blocks' : List Block}
    (h : Somewhere p blocks) (hsub : ∀ b ∈ blocks, b ∈ blocks') : Somewhere p blocks' := by
  cases h with
  | here hmem hp => exact .here (hsub _ hmem) hp
  | inside hmem hwithin => exact .inside (hsub _ hmem) hwithin

theorem Somewhere.append {p : Block → Prop} {xs ys : List Block} (h : Somewhere p (xs ++ ys)) :
    Somewhere p xs ∨ Somewhere p ys := by
  cases h with
  | here hmem hp => exact (List.mem_append.mp hmem).imp (.here · hp) (.here · hp)
  | inside hmem hwithin => exact (List.mem_append.mp hmem).imp (.inside · hwithin) (.inside · hwithin)

theorem Somewhere.addLine {p : Block → Prop} (h : Somewhere p (forest.map Prod.snd)) :
    Somewhere p ((addLine line forest).map Prod.snd) := by
  rw [← List.takeWhile_append_dropWhile (p := (line.1 < ·.1)) (l := forest), List.map_append] at h
  rw [addLine_eq, List.map_cons]
  rcases h.append with htaken | hdropped
  · exact .inside (List.mem_cons_self ..) htaken
  · exact hdropped.mono fun b hb => List.mem_cons_of_mem _ hb

theorem Somewhere.foldr_addLine {p : Block → Prop} (deep : List (Nat × List Token))
    (h : Somewhere p (forest.map Prod.snd)) :
    Somewhere p ((deep.foldr Block.addLine forest).map Prod.snd) := by
  induction deep with
  | nil => exact h
  | cons l deep ih => exact ih.addLine

-- In a module of statements no line is deeper than a `pass` before it.
theorem depth_le_of_pass {before after : List (Nat × List Token)}
    (h : (kinds? ((ofDepths (before ++ (d, [.keyword .pass_]) :: after)).map Prod.snd)).isSome) :
    ∀ l ∈ after.head?, l.1 ≤ d := by
  intro l hl
  by_contra hdeeper
  have hheavy : Somewhere IsHeavyPass
      ((ofDepths ((d, [.keyword .pass_]) :: after)).map Prod.snd) := by
    refine .here (List.mem_cons_self ..) ⟨rfl, ?_⟩
    have hhead := head?_ofDepths after
    rw [Option.mem_def.mp hl, Option.map_some] at hhead
    obtain ⟨t, ht, hdepth⟩ := Option.map_eq_some_iff.mp hhead
    obtain ⟨behind, hforest⟩ := List.head?_eq_some_iff.mp ht
    change ((ofDepths after).takeWhile (d < ·.1)).map Prod.snd ≠ []
    have hlt : d < t.1 := by omega
    simp [hforest, hlt]
  have hspoiled := hheavy.foldr_addLine before
  rw [show before.foldr Block.addLine (ofDepths ((d, [.keyword .pass_]) :: after)) =
    ofDepths (before ++ (d, [.keyword .pass_]) :: after) from (List.foldr_append ..).symm] at hspoiled
  rw [(not_statements_of_somewhere hspoiled).1] at h
  cases h

-- Trees in the place of a `pass` of the same depth, here or in one of the trees.
inductive ForestReplaced (code : List Block) (d : Nat) :
    List (Nat × Block) → List (Nat × Block) → Prop
  | here {before after : List (Nat × Block)} :
      ForestReplaced code d (before ++ (d, passBlock) :: after)
        (before ++ (code.map (d, ·) ++ after))
  | inside {before after : List (Nat × Block)} {e : Nat} {tokens : List Token}
      {body body' : List Block} (replaced : Replaced code body body') :
      ForestReplaced code d (before ++ (e, .mk tokens body) :: after)
        (before ++ (e, .mk tokens body') :: after)

theorem ForestReplaced.addLine (h : ForestReplaced code d forest forest') (hne : code ≠ []) :
    ForestReplaced code d (addLine line forest) (addLine line forest') := by
  rw [addLine_eq, addLine_eq]
  have hsnd : (code.map (d, ·)).map Prod.snd = code := by
    rw [List.map_map]
    exact List.map_id' code
  cases h with
  | @here before after =>
    rcases span_append (line.1 < ·.1) before with hall | hnot
    · rw [List.takeWhile_append_of_pos hall, List.dropWhile_append_of_pos hall,
        List.takeWhile_append_of_pos hall, List.dropWhile_append_of_pos hall]
      by_cases hdeeper : line.1 < d
      · have hcode : ∀ t ∈ code.map (d, ·), decide (line.1 < t.1) = true := by
          intro t ht
          obtain ⟨b, _, rfl⟩ := List.mem_map.mp ht
          exact decide_eq_true hdeeper
        rw [List.takeWhile_append_of_pos hcode, List.dropWhile_append_of_pos hcode,
          List.takeWhile_cons_of_pos (by simpa using hdeeper),
          List.dropWhile_cons_of_pos (by simpa using hdeeper)]
        simp only [List.map_append, List.map_cons, hsnd]
        exact @ForestReplaced.inside _ _ [] _ _ _ _ _ .here
      · have hcode : ∀ t ∈ (code.map (d, ·) ++ after).head?, decide (line.1 < t.1) = false := by
          cases code with
          | nil => exact absurd rfl hne
          | cons b code => simpa using hdeeper
        obtain ⟨htake, hdrop⟩ := @span_append_of_head _ _ [] _ hcode
        rw [List.nil_append] at htake hdrop
        rw [htake, hdrop, List.takeWhile_cons_of_neg (by simpa using hdeeper),
          List.dropWhile_cons_of_neg (by simpa using hdeeper)]
        exact @ForestReplaced.here _ _ [_] _
    · rw [(hnot _).1, (hnot _).2, (hnot _).1, (hnot _).2]
      exact @ForestReplaced.here _ _ (_ :: _) _
  | @inside before after e tokens body body' hreplaced =>
    rcases span_append (line.1 < ·.1) before with hall | hnot
    · rw [List.takeWhile_append_of_pos hall, List.dropWhile_append_of_pos hall,
        List.takeWhile_append_of_pos hall, List.dropWhile_append_of_pos hall]
      by_cases hdeeper : line.1 < e
      · rw [List.takeWhile_cons_of_pos (by simpa using hdeeper),
          List.dropWhile_cons_of_pos (by simpa using hdeeper),
          List.takeWhile_cons_of_pos (by simpa using hdeeper),
          List.dropWhile_cons_of_pos (by simpa using hdeeper)]
        simp only [List.map_append, List.map_cons]
        exact @ForestReplaced.inside _ _ [] _ _ _ _ _ (.inside hreplaced)
      · rw [List.takeWhile_cons_of_neg (by simpa using hdeeper),
          List.dropWhile_cons_of_neg (by simpa using hdeeper),
          List.takeWhile_cons_of_neg (by simpa using hdeeper),
          List.dropWhile_cons_of_neg (by simpa using hdeeper)]
        exact @ForestReplaced.inside _ _ [_] _ _ _ _ _ hreplaced
    · rw [(hnot _).1, (hnot _).2, (hnot _).1, (hnot _).2]
      exact @ForestReplaced.inside _ _ (_ :: _) _ _ _ _ _ hreplaced

theorem ForestReplaced.foldr_addLine (deep : List (Nat × List Token))
    (h : ForestReplaced code d forest forest') (hne : code ≠ []) :
    ForestReplaced code d (deep.foldr Block.addLine forest) (deep.foldr Block.addLine forest') := by
  induction deep with
  | nil => exact h
  | cons l deep ih => exact ih.addLine hne

end

end Block

end Ghostwriter.Grammar

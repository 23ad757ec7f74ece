import Ghostwriter.Proofs.Grammar.Statement

/-!
A `pass` in a list of statements, at any depth, can make room for other statements. On the outermost
level their kinds take its place, and in a block the kinds outside stay what they are.
-/

namespace Ghostwriter.Grammar

open Ghostwriter.Text Block

-- The words that begin a further clause.
def Keyword.startsClause : Keyword → Bool
  | .elif_ | .else_ | .except_ | .finally_ => true
  | _ => false

section

variable {keyword : Keyword} {ts : List Token}

theorem primary_startsClause (h : keyword.startsClause = true) (n : Nat) :
    primary n (.keyword keyword :: ts) = none := by
  cases n with
  | zero => rfl
  | succ n => cases keyword <;> cases h <;> rfl

theorem bitOr_eq_none {operand : Parser Expr}
    (hoperand : operand (.keyword keyword :: ts) = none) :
    bitOr operand (.keyword keyword :: ts) = none := by
  simp [bitOr, sum, factor, operators, signedPrimary, signs, hoperand]

theorem expression_startsClause (h : keyword.startsClause = true) (n : Nat) :
    expression n (.keyword keyword :: ts) = none := by
  cases n with
  | zero => rfl
  | succ n =>
    have hbitOr : bitOr (primary n) (.keyword keyword :: ts) = none :=
      bitOr_eq_none (primary_startsClause h n)
    have hnot : keyword ≠ .not_ := by rintro rfl; cases h
    have hcomparison : comparison (primary n) (.keyword keyword :: ts) = none := by
      simp [comparison, operators, hbitOr]
    have hinversion : inversion (primary n) (.keyword keyword :: ts) = none := by
      simp [inversion, hnot, hcomparison]
    have hdisjunction : disjunction (primary n) (.keyword keyword :: ts) = none := by
      simp [disjunction, operators, hinversion]
    cases keyword <;> cases h <;> simp [expression, expressionRule, hdisjunction]

theorem simpleLine_startsClause (h : keyword.startsClause = true) :
    simpleLine anyExpression anyPrimary (.keyword keyword :: ts) = none := by
  have hexpression : anyExpression (.keyword keyword :: ts) = none := expression_startsClause h _
  have hsimple : simple anyExpression anyPrimary (.keyword keyword :: ts) = none := by
    cases keyword <;> cases h <;>
      simp [simple, expressionStatement, plainItems, commaList, plainItem, hexpression]
  simp [simpleLine, simpleLineUpTo, hsimple]

end

-- The line that a snippet takes the place of.
def passBlock : Block := .mk [.keyword .pass_] []

section

variable {blocks blocks' before after code rest : List Block} {kinds : List StatementKind}
  {f : List Block → Option (List StatementKind)}

theorem passBlock_caseBlock : caseBlock anyExpression anyPrimary f passBlock = false := rfl

theorem passBlock_lineStatements :
    lineStatements anyExpression anyPrimary f passBlock = some [.pass] := rfl

theorem isClause_tokens {b : Block} (h : b.isClause = true) :
    ∃ keyword ts, Keyword.startsClause keyword = true ∧ b.tokens = .keyword keyword :: ts := by
  unfold Block.isClause Block.clause? clauseOf? at h
  split at h
  case h_5 => cases h
  all_goals
    rename_i heq
    exact ⟨_, _, rfl, heq⟩

-- A list of statements never begins with a further clause.
theorem not_isClause_of_first (h : First anyExpression anyPrimary f blocks kinds rest) :
    ∀ b ∈ blocks.head?, b.isClause = false := by
  intro b hb
  by_contra hclause
  rw [Bool.not_eq_false] at hclause
  obtain ⟨keyword, ts, hkeyword, htokens⟩ := isClause_tokens hclause
  cases h with
  | line hplain hheader hread =>
    cases hb
    have hmatch : isMatch anyExpression anyPrimary f b = false := by simp [isMatch, htokens]
    simp only [lineStatements, hmatch, htokens, simpleLine_startsClause hkeyword] at hread
    split at hread <;> simp_all
  | @compound decorators block clauses _ kind whole ts hmarked hplain hheader =>
    cases decorators with
    | nil =>
      cases hb
      rw [htokens] at hheader
      cases keyword <;> cases hkeyword <;> simp [compoundHeader] at hheader
    | cons decorator decorators =>
      cases hb
      have hdecorator := hmarked b (by simp)
      simp [isDecorator, startsWith, take?, htokens] at hdecorator

theorem not_isClause_of_kinds? (h : (kinds? blocks).isSome) :
    ∀ b ∈ blocks.head?, b.isClause = false := by
  obtain ⟨kinds, h⟩ := Option.isSome_iff_exists.mp h
  by_cases hne : blocks = []
  · subst hne
    simp
  · obtain ⟨first, rest, others, hfirst, _⟩ := (kinds?_iff hne).mp h
    exact not_isClause_of_first hfirst

theorem First.append (h : First anyExpression anyPrimary f blocks kinds rest)
    (hafter : ∀ b ∈ after.head?, b.isClause = false) :
    First anyExpression anyPrimary f (blocks ++ after) kinds (rest ++ after) := by
  cases h with
  | line hplain hheader hread => exact .line hplain hheader hread
  | compound hmarked hplain hheader hattached hdetached hread hdecorated hdecoratable =>
    rw [List.append_assoc, List.cons_append, List.append_assoc]
    refine .compound hmarked hplain hheader hattached ?_ hread hdecorated hdecoratable
    cases rest with
    | nil => exact hafter
    | cons b rest => exact hdetached

-- The kinds of statements that stand one after the other.
theorem kinds?_append {kinds' : List StatementKind} (h : kinds? blocks = some kinds)
    (h' : kinds? blocks' = some kinds') : kinds? (blocks ++ blocks') = some (kinds ++ kinds') := by
  have hafter := not_isClause_of_kinds? (Option.isSome_of_eq_some h')
  induction hn : blocks.length using Nat.strong_induction_on generalizing blocks kinds with
  | _ n ih =>
    by_cases hne : blocks = []
    · subst hne
      cases h
      exact h'
    · obtain ⟨first, rest, others, hfirst, hothers, rfl⟩ := (kinds?_iff hne).mp h
      obtain ⟨taken, htaken, rfl⟩ := hfirst.rest_suffix
      have hlength := List.length_pos_of_ne_nil htaken
      have hrest := ih rest.length (by simp only [List.length_append] at hn; omega) hothers rfl
      exact (kinds?_iff (by simp [htaken])).mpr
        ⟨first, rest ++ blocks', others ++ kinds', hfirst.append hafter, hrest, by simp⟩

theorem append_eq_append_cons_of_not_mem {α : Type} {xs ys before after : List α} {x : α}
    (h : xs ++ ys = before ++ x :: after) (hx : x ∉ xs) :
    ∃ between, before = xs ++ between ∧ ys = between ++ x :: after := by
  rcases List.append_eq_append_iff.mp h with ⟨between, rfl, rfl⟩ | ⟨between, rfl, heq⟩
  · exact ⟨between, rfl, rfl⟩
  · cases between with
    | nil => exact ⟨[], by simp, heq.symm⟩
    | cons y between =>
      simp only [List.cons_append, List.cons.injEq] at heq
      exact absurd (by simp [heq.1]) hx

theorem First.of_append_pass
    (h : First anyExpression anyPrimary f (before ++ passBlock :: after) kinds rest) :
    (before = [] ∧ kinds = [.pass] ∧ rest = after) ∨
      ∃ between, rest = between ++ passBlock :: after ∧
        First anyExpression anyPrimary f before kinds between := by
  generalize hblocks : before ++ passBlock :: after = blocks at h
  cases h with
  | @line block _ _ hplain hheader hread =>
    cases before with
    | nil =>
      simp only [List.nil_append, List.cons.injEq] at hblocks
      obtain ⟨rfl, rfl⟩ := hblocks
      rw [passBlock_lineStatements] at hread
      exact .inl ⟨rfl, (Option.some.inj hread).symm, rfl⟩
    | cons b before =>
      simp only [List.cons_append, List.cons.injEq] at hblocks
      obtain ⟨rfl, rfl⟩ := hblocks
      exact .inr ⟨before, rfl, .line hplain hheader hread⟩
  | @compound decorators block clauses _ kind whole ts hmarked hplain hheader hattached hdetached
      hread hdecorated hdecoratable =>
    -- The `pass` is neither a decorator nor the header nor a clause, so it is behind them.
    have hnot : passBlock ∉ decorators ++ block :: clauses := by
      rw [List.mem_append, List.mem_cons]
      rintro (hmem | rfl | hmem)
      · exact Bool.false_ne_true (hmarked _ hmem)
      · cases hheader
      · exact Bool.false_ne_true (hattached _ hmem)
    have hsplit : (decorators ++ block :: clauses) ++ rest = before ++ passBlock :: after := by
      simp [hblocks]
    obtain ⟨between, rfl, rfl⟩ := append_eq_append_cons_of_not_mem hsplit hnot
    refine .inr ⟨between, rfl, ?_⟩
    rw [List.append_assoc, List.cons_append]
    refine .compound hmarked hplain hheader hattached ?_ hread hdecorated hdecoratable
    cases between with
    | nil => simp
    | cons b between => exact hdetached

-- The statements before a `pass` and those behind it.
theorem kinds?_of_append_pass (h : kinds? (before ++ passBlock :: after) = some kinds) :
    ∃ kinds₁ kinds₂, kinds? before = some kinds₁ ∧ kinds? after = some kinds₂ ∧
      kinds = kinds₁ ++ .pass :: kinds₂ := by
  induction hn : before.length using Nat.strong_induction_on generalizing before kinds with
  | _ n ih =>
    obtain ⟨first, rest, others, hfirst, hothers, rfl⟩ := (kinds?_iff (by simp)).mp h
    rcases hfirst.of_append_pass with ⟨rfl, rfl, rfl⟩ | ⟨between, rfl, hbefore⟩
    · exact ⟨[], others, kinds?_nil, hothers, rfl⟩
    · obtain ⟨taken, htaken, rfl⟩ := hbefore.rest_suffix
      have hlength := List.length_pos_of_ne_nil htaken
      obtain ⟨kinds₁, kinds₂, h₁, h₂, rfl⟩ :=
        ih between.length (by simp only [List.length_append] at hn; omega) hothers rfl
      exact ⟨first ++ kinds₁, kinds₂,
        (kinds?_iff (by simp [htaken])).mpr ⟨first, between, kinds₁, hbefore, h₁, rfl⟩, h₂,
        by simp⟩

-- Blocks in the place of a `pass`, here or in the body of one of the blocks.
inductive Replaced (code : List Block) : List Block → List Block → Prop
  | here {before after : List Block} :
      Replaced code (before ++ passBlock :: after) (before ++ (code ++ after))
  | inside {before after body body' : List Block} {tokens : List Token}
      (replaced : Replaced code body body') :
      Replaced code (before ++ .mk tokens body :: after) (before ++ .mk tokens body' :: after)

theorem kinds?_of_improves
    (h : kinds? blocks = some kinds)
    (himproves : List.Forall₂ (Improves anyExpression anyPrimary kinds? kinds?) blocks blocks') :
    kinds? blocks' = some kinds := by
  induction hn : blocks.length using Nat.strong_induction_on generalizing blocks blocks' kinds with
  | _ n ih =>
    by_cases hne : blocks = []
    · subst hne
      cases himproves
      exact h
    · obtain ⟨first, rest, others, hfirst, hothers, rfl⟩ := (kinds?_iff hne).mp h
      obtain ⟨rest', hfirst', hrest⟩ := hfirst.of_improves himproves
      obtain ⟨taken, htaken, rfl⟩ := hfirst.rest_suffix
      obtain ⟨taken', htaken', rfl⟩ := hfirst'.rest_suffix
      have hlength := List.length_pos_of_ne_nil htaken
      exact (kinds?_iff (by simp [htaken'])).mpr ⟨first, rest', others, hfirst',
        ih rest.length (by simp only [List.length_append] at hn; omega) hothers hrest rfl, rfl⟩

theorem forall₂_improves_of_middle {b b' : Block}
    (h : Improves anyExpression anyPrimary kinds? kinds? b b') :
    List.Forall₂ (Improves anyExpression anyPrimary kinds? kinds?) (before ++ b :: after)
      (before ++ b' :: after) := by
  have hsame (blocks : List Block) :
      List.Forall₂ (Improves anyExpression anyPrimary kinds? kinds?) blocks blocks :=
    List.forall₂_same.mpr fun _ _ => ⟨rfl, rfl, id, id⟩
  exact List.rel_append (hsame before) (.cons h (hsame after))

theorem kinds?_replace_here {kinds' : List StatementKind} (hcode : kinds? code = some kinds')
    (h : kinds? (before ++ passBlock :: after) = some kinds) :
    ∃ kinds₁ kinds₂, kinds? before = some kinds₁ ∧ kinds = kinds₁ ++ .pass :: kinds₂ ∧
      kinds? (before ++ (code ++ after)) = some (kinds₁ ++ (kinds' ++ kinds₂)) := by
  obtain ⟨kinds₁, kinds₂, h₁, h₂, rfl⟩ := kinds?_of_append_pass h
  exact ⟨kinds₁, kinds₂, h₁, rfl, kinds?_append h₁ (kinds?_append hcode h₂)⟩

-- What holds of a body in which a `pass` is replaced: it is still a list of statements, or of cases.
theorem Replaced.sound (h : Replaced code blocks blocks') (hne : code ≠ [])
    (hcode : (kinds? code).isSome) :
    blocks'.isEmpty = blocks.isEmpty ∧ ((kinds? blocks).isSome → (kinds? blocks').isSome) ∧
      (blocks.all (caseBlock anyExpression anyPrimary kinds?) = true →
        blocks'.all (caseBlock anyExpression anyPrimary kinds?) = true) := by
  induction h with
  | @here before after =>
    refine ⟨by cases before <;> cases code <;> simp_all, fun hsome => ?_, fun hcases => ?_⟩
    · obtain ⟨kinds, hkinds⟩ := Option.isSome_iff_exists.mp hsome
      obtain ⟨kinds', hkinds'⟩ := Option.isSome_iff_exists.mp hcode
      obtain ⟨_, _, _, _, hreplaced⟩ := kinds?_replace_here hkinds' hkinds
      exact Option.isSome_of_eq_some hreplaced
    · rw [List.all_append, List.all_cons, passBlock_caseBlock] at hcases
      simp at hcases
  | @inside before after body body' tokens _ ih =>
    obtain ⟨hempty, hread, hlisted⟩ := ih
    have himproves : Improves anyExpression anyPrimary kinds? kinds? (.mk tokens body)
        (.mk tokens body') := ⟨rfl, hempty, hread, hlisted⟩
    refine ⟨by cases before <;> rfl, fun hsome => ?_, ?_⟩
    · obtain ⟨kinds, hkinds⟩ := Option.isSome_iff_exists.mp hsome
      exact Option.isSome_of_eq_some
        (kinds?_of_improves hkinds (forall₂_improves_of_middle himproves))
    · simp only [List.all_append, List.all_cons, Bool.and_eq_true]
      exact fun ⟨hbefore, hcase, hafter⟩ =>
        ⟨hbefore, caseBlock_of_read himproves.tokens hempty hread hcase, hafter⟩

-- Within a block, a `pass` can become any statements without a change outside.
theorem kinds?_replace_inside {tokens : List Token} {body body' : List Block}
    (hreplaced : Replaced code body body') (hne : code ≠ []) (hcode : (kinds? code).isSome)
    (h : kinds? (before ++ .mk tokens body :: after) = some kinds) :
    kinds? (before ++ .mk tokens body' :: after) = some kinds := by
  obtain ⟨hempty, hread, hlisted⟩ := hreplaced.sound hne hcode
  exact kinds?_of_improves h (forall₂_improves_of_middle ⟨rfl, hempty, hread, hlisted⟩)

end

end Ghostwriter.Grammar

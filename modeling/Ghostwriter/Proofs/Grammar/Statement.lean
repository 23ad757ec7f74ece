import Ghostwriter.Grammar.Statement
import Mathlib.Data.List.Forall2
import Mathlib.Data.List.TakeWhile

/-!
Which lists of blocks are statements, whatever the bound on their number: the statements of a list
come one after the other, and a block is judged by its own tokens and its own body.
-/

namespace Ghostwriter.Grammar

open Ghostwriter.Text

section

variable {expression primary : Parser Expr} {f g : List Block → Option (List StatementKind)}

-- The first statements of a list of blocks: those of a line, or a compound statement with its
-- decorators and its further clauses.
inductive First (expression primary : Parser Expr) (f : List Block → Option (List StatementKind)) :
    List Block → List StatementKind → List Block → Prop
  | line {block : Block} {kinds : List StatementKind} {rest : List Block}
      (plain : isDecorator block = false)
      (header : compoundHeader expression primary block.tokens = none)
      (read : lineStatements expression primary f block = some kinds) :
      First expression primary f (block :: rest) kinds rest
  | compound {decorators : List Block} {block : Block} {clauses rest : List Block}
      {kind whole : StatementKind} {ts : List Token}
      (marked : ∀ b ∈ decorators, isDecorator b = true)
      (plain : isDecorator block = false)
      (header : compoundHeader expression primary block.tokens = some (kind, some ts))
      (attached : ∀ b ∈ clauses, b.isClause = true)
      (detached : ∀ b ∈ rest.head?, b.isClause = false)
      (read : compound expression primary f kind ts block clauses = some whole)
      (decorated : decorators.all (decorator expression) = true)
      (decoratable : decorators = [] ∨ isDecorated whole = true) :
      First expression primary f (decorators ++ block :: (clauses ++ rest)) [whole] rest

theorem takeWhile_append_of_head {α : Type} {p : α → Bool} {xs ys : List α}
    (hxs : ∀ x ∈ xs, p x = true) (hys : ∀ y ∈ ys.head?, p y = false) :
    (xs ++ ys).takeWhile p = xs ∧ (xs ++ ys).dropWhile p = ys := by
  rw [List.takeWhile_append_of_pos hxs, List.dropWhile_append_of_pos hxs]
  cases ys with
  | nil => simp
  | cons y ys => simp [hys y rfl]

theorem mem_head?_dropWhile {α : Type} {p : α → Bool} {xs : List α} {x : α}
    (h : x ∈ (xs.dropWhile p).head?) : p x = false := by
  have hnot := List.head?_dropWhile_not p xs
  rw [Option.mem_def.mp h] at hnot
  simpa using hnot

theorem firstStatements_iff {blocks : List Block} {kinds : List StatementKind}
    {rest : List Block} :
    firstStatements expression primary f blocks = some (kinds, rest) ↔
      First expression primary f blocks kinds rest := by
  constructor
  · intro h
    have hsplit : blocks.takeWhile isDecorator ++ blocks.dropWhile isDecorator = blocks :=
      List.takeWhile_append_dropWhile
    have hmarked : ∀ b ∈ blocks.takeWhile isDecorator, isDecorator b = true :=
      fun b hb => List.mem_takeWhile_imp hb
    have hplain : ∀ b ∈ (blocks.dropWhile isDecorator).head?, isDecorator b = false :=
      fun b hb => mem_head?_dropWhile hb
    unfold firstStatements at h
    simp only at h
    generalize blocks.takeWhile isDecorator = decorators at h hsplit hmarked
    generalize blocks.dropWhile isDecorator = behind at h hsplit hplain
    subst hsplit
    cases behind with
    | nil => simp at h
    | cons block others =>
      have hblock : isDecorator block = false := hplain block rfl
      simp only at h
      cases hheader : compoundHeader expression primary block.tokens with
      | none =>
        rw [hheader] at h
        cases decorators with
        | nil =>
          simp only [List.isEmpty_nil, if_true, Option.map_eq_some_iff, Prod.mk.injEq] at h
          obtain ⟨found, hread, rfl, rfl⟩ := h
          exact .line hblock hheader hread
        | cons _ _ => simp at h
      | some header =>
        obtain ⟨kind, behindHeader⟩ := header
        rw [hheader] at h
        cases behindHeader with
        | none => simp at h
        | some ts =>
          simp only [Option.bind_eq_bind, Option.bind_eq_some_iff] at h
          obtain ⟨whole, hread, h⟩ := h
          split at h
          case isFalse => cases h
          case isTrue hdecorated =>
            simp only [Option.some.injEq, Prod.mk.injEq] at h
            obtain ⟨rfl, rfl⟩ := h
            have hothers : others.takeWhile Block.isClause ++
                others.dropWhile Block.isClause = others :=
              List.takeWhile_append_dropWhile
            rw [Bool.and_eq_true, Bool.or_eq_true] at hdecorated
            have hwhole : decorators ++ block :: others =
                decorators ++ block :: (others.takeWhile Block.isClause ++
                  others.dropWhile Block.isClause) := by rw [hothers]
            rw [hwhole]
            exact .compound hmarked hblock hheader (fun b hb => List.mem_takeWhile_imp hb)
              (fun b hb => mem_head?_dropWhile hb) hread hdecorated.1
              (hdecorated.2.imp_left List.isEmpty_iff.mp)
  · intro h
    cases h with
    | line hplain hheader hread => simp [firstStatements, hplain, hheader, hread]
    | @compound decorators block clauses _ kind whole ts hmarked hplain hheader hattached hdetached
        hread hdecorated hdecoratable =>
      obtain ⟨htake, hdrop⟩ := @takeWhile_append_of_head _ isDecorator _ (block :: (clauses ++ rest))
        hmarked (by simpa using hplain)
      obtain ⟨htake', hdrop'⟩ := takeWhile_append_of_head
        (p := Block.isClause) hattached hdetached
      simpa [firstStatements, htake, hdrop, hheader, htake', hdrop', hread, hdecorated] using
        fun h => hdecoratable.resolve_left h

-- A block with the tokens of another one, and with a body that does for `g` what the body of the
-- other one does for `f`.
structure Improves (expression primary : Parser Expr)
    (f g : List Block → Option (List StatementKind)) (b b' : Block) : Prop where
  tokens : b'.tokens = b.tokens
  empty : b'.body.isEmpty = b.body.isEmpty
  read : (f b.body).isSome → (g b'.body).isSome
  listed : b.body.all (caseBlock expression primary f) →
    b'.body.all (caseBlock expression primary g)

variable {b b' : Block} {blocks blocks' rest : List Block} {kinds : List StatementKind}

theorem suite_of_read {ts : List Token} {body body' : List Block}
    (hempty : body'.isEmpty = body.isEmpty) (hread : (f body).isSome → (g body').isSome)
    (h : suite expression primary f ts body = true) :
    suite expression primary g ts body' = true := by
  unfold suite at h ⊢
  rw [hempty]
  split at h
  · rename_i hts
    rw [Bool.and_eq_true] at h
    simp [hts, hread h.2, h.1]
  · rename_i hts
    simpa [hts] using h

theorem caseBlock_of_read (htokens : b'.tokens = b.tokens)
    (hempty : b'.body.isEmpty = b.body.isEmpty) (hread : (f b.body).isSome → (g b'.body).isSome)
    (h : caseBlock expression primary f b = true) : caseBlock expression primary g b' = true := by
  unfold caseBlock at h ⊢
  rw [htokens]
  split at h
  case h_2 => cases h
  case h_1 text ts hcase =>
    simp only [Bool.and_eq_true] at h ⊢
    refine ⟨h.1, ?_⟩
    cases hheader : caseHeader expression primary ts with
    | none => simp [hheader] at h
    | some behind =>
      rw [hheader] at h
      exact suite_of_read hempty hread h.2

theorem clauseBlock_of_improves (hb : Improves expression primary f g b b')
    (h : clauseBlock expression primary f b = true) :
    clauseBlock expression primary g b' = true := by
  unfold clauseBlock Block.clause? at h ⊢
  rw [hb.tokens]
  split at h
  case h_1 => cases h
  case h_2 clause ts hclause =>
    cases hheader : clauseHeader expression clause ts with
    | none => simp [hheader] at h
    | some behind =>
      simp only [hheader] at h ⊢
      exact suite_of_read hb.empty hb.read h

theorem isClause_of_improves (hb : Improves expression primary f g b b') :
    b'.isClause = b.isClause := by
  unfold Block.isClause Block.clause?
  rw [hb.tokens]

theorem isDecorator_of_improves (hb : Improves expression primary f g b b') :
    isDecorator b' = isDecorator b := by
  unfold isDecorator
  rw [hb.tokens]

theorem decorator_of_improves (hb : Improves expression primary f g b b') :
    decorator expression b' = decorator expression b := by
  unfold decorator
  rw [hb.tokens, hb.empty]

theorem isMatch_of_improves (hb : Improves expression primary f g b b')
    (h : isMatch expression primary f b = true) : isMatch expression primary g b' = true := by
  unfold isMatch at h ⊢
  rw [hb.tokens, hb.empty]
  split at h
  case h_2 => cases h
  case h_1 text ts hmatch =>
    simp only [Bool.and_eq_true] at h ⊢
    exact ⟨h.1, hb.listed h.2⟩

-- Without a body a line is no match, whatever is made of bodies.
theorem isMatch_of_empty (h : b.body.isEmpty = true) : isMatch expression primary f b = false := by
  unfold isMatch
  split <;> simp [h]

theorem lineStatements_of_improves (hb : Improves expression primary f g b b')
    (h : lineStatements expression primary f b = some kinds) :
    lineStatements expression primary g b' = some kinds := by
  unfold lineStatements at h ⊢
  split at h
  case isTrue hmatch => simpa [isMatch_of_improves hb hmatch] using h
  case isFalse =>
    split at h
    case isFalse => cases h
    case isTrue hempty =>
      have hempty' : b'.body.isEmpty = true := hb.empty.trans hempty
      simp [isMatch_of_empty hempty', hempty', hb.tokens, h]

theorem compound_of_improves {kind whole : StatementKind} {ts : List Token}
    {clauses clauses' : List Block} (hb : Improves expression primary f g b b')
    (hclauses : List.Forall₂ (Improves expression primary f g) clauses clauses')
    (h : compound expression primary f kind ts b clauses = some whole) :
    compound expression primary g kind ts b' clauses' = some whole := by
  have hfound : clauses'.filterMap Block.clause? = clauses.filterMap Block.clause? := by
    clear h
    induction hclauses with
    | nil => rfl
    | cons hhead _ ih =>
      have hclause := congrArg clauseOf? hhead.tokens
      simp only [List.filterMap_cons, Block.clause?, ih, hclause] at ih ⊢
  have hall : clauses.all (clauseBlock expression primary f) = true →
      clauses'.all (clauseBlock expression primary g) = true := by
    clear h hfound
    induction hclauses with
    | nil => exact id
    | cons hhead _ ih =>
      simp only [List.all_cons, Bool.and_eq_true]
      exact fun h => ⟨clauseBlock_of_improves hhead h.1, ih h.2⟩
  unfold compound at h ⊢
  simp only at h ⊢
  rw [hfound]
  split at h
  case isFalse => cases h
  case isTrue hsound =>
    rw [Bool.and_eq_true, Bool.and_eq_true] at hsound
    rw [if_pos (by simp [suite_of_read hb.empty hb.read hsound.1.1, hall hsound.1.2, hsound.2])]
    exact h

theorem forall₂_append_left {α β : Type} {R : α → β → Prop} {xs ys : List α} {zs : List β}
    (h : List.Forall₂ R (xs ++ ys) zs) :
    ∃ xs' ys', zs = xs' ++ ys' ∧ List.Forall₂ R xs xs' ∧ List.Forall₂ R ys ys' := by
  induction xs generalizing zs with
  | nil => exact ⟨[], zs, rfl, .nil, h⟩
  | cons x xs ih =>
    cases h with
    | cons hx h =>
      obtain ⟨xs', ys', rfl, hxs, hys⟩ := ih h
      exact ⟨_ :: xs', ys', rfl, .cons hx hxs, hys⟩

theorem forall_of_improves {p : Block → Bool}
    (hp : ∀ b b', Improves expression primary f g b b' → p b' = p b)
    (h : List.Forall₂ (Improves expression primary f g) blocks blocks')
    (hall : ∀ b ∈ blocks, p b = true) : ∀ b ∈ blocks', p b = true := by
  induction h with
  | nil => simp
  | cons hhead _ ih =>
    simp only [List.forall_mem_cons] at hall ⊢
    exact ⟨(hp _ _ hhead).trans hall.1, ih hall.2⟩

-- The first statements stay what they are when every block is improved.
theorem First.of_improves (h : First expression primary f blocks kinds rest)
    (himproves : List.Forall₂ (Improves expression primary f g) blocks blocks') :
    ∃ rest', First expression primary g blocks' kinds rest' ∧
      List.Forall₂ (Improves expression primary f g) rest rest' := by
  cases h with
  | line hplain hheader hread =>
    cases himproves with
    | cons hb hrest =>
      exact ⟨_, .line ((isDecorator_of_improves hb).trans hplain) (hb.tokens ▸ hheader)
        (lineStatements_of_improves hb hread), hrest⟩
  | compound hmarked hplain hheader hattached hdetached hread hdecorated hdecoratable =>
    obtain ⟨decorators', behind, rfl, hdecorators, hbehind⟩ := forall₂_append_left himproves
    cases hbehind with
    | cons hb hbehind =>
      obtain ⟨clauses', rest', rfl, hclauses, hrest⟩ := forall₂_append_left hbehind
      refine ⟨rest', .compound
        (forall_of_improves (fun _ _ => isDecorator_of_improves) hdecorators hmarked)
        ((isDecorator_of_improves hb).trans hplain) (hb.tokens ▸ hheader)
        (forall_of_improves (fun _ _ => isClause_of_improves) hclauses hattached) ?_
        (compound_of_improves hb hclauses hread) ?_ ?_, hrest⟩
      · cases hrest with
        | nil => simp
        | cons hhead _ =>
          simpa [isClause_of_improves hhead] using hdetached
      · rw [List.all_eq_true] at hdecorated ⊢
        exact forall_of_improves (fun _ _ => decorator_of_improves) hdecorators hdecorated
      · refine hdecoratable.imp_left fun hnil => ?_
        rw [hnil] at hdecorators
        exact List.forall₂_nil_left_iff.mp hdecorators

theorem First.rest_suffix (h : First expression primary f blocks kinds rest) :
    ∃ taken, taken ≠ [] ∧ blocks = taken ++ rest := by
  cases h with
  | line => exact ⟨[_], by simp, rfl⟩
  | @compound decorators block clauses =>
    exact ⟨decorators ++ block :: clauses, by simp, by simp⟩

end

section

variable {blocks blocks' rest : List Block} {kinds : List StatementKind}

open Block

theorem sizes_append (xs ys : List Block) : sizes (xs ++ ys) = sizes xs + sizes ys := by
  induction xs with
  | nil => simp [sizes]
  | cons x xs ih => simp [sizes, ih, Nat.add_assoc]

theorem size_pos (b : Block) : 0 < size b := by
  cases b
  simp [size]

theorem sizes_body_lt {b : Block} (h : b ∈ blocks) : sizes b.body < sizes blocks := by
  induction blocks with
  | nil => cases h
  | cons c rest ih =>
    rw [sizes]
    cases h with
    | head =>
      cases b
      simp [size, Block.body]
      omega
    | tail _ h =>
      have := ih h
      omega

theorem sizes_pos (h : blocks ≠ []) : 0 < sizes blocks := by
  cases blocks with
  | nil => exact absurd rfl h
  | cons b rest =>
    have := size_pos b
    rw [sizes]
    omega

theorem improves_self {expression primary : Parser Expr}
    {f g : List Block → Option (List StatementKind)} {n : Nat}
    (hfg : ∀ body, sizes body < n → (f body).isSome → (g body).isSome)
    (h : sizes blocks ≤ n) :
    List.Forall₂ (Improves expression primary f g) blocks blocks := by
  rw [List.forall₂_same]
  intro b hb
  have hbody : sizes b.body < n := Nat.lt_of_lt_of_le (sizes_body_lt hb) h
  refine ⟨rfl, rfl, hfg _ hbody, ?_⟩
  rw [List.all_eq_true, List.all_eq_true]
  intro hcases c hc
  exact caseBlock_of_read rfl rfl (hfg _ ((sizes_body_lt hc).trans hbody)) (hcases c hc)

theorem First.of_sizes {expression primary : Parser Expr}
    {f g : List Block → Option (List StatementKind)}
    (h : First expression primary f blocks kinds rest)
    (hfg : ∀ body, sizes body < sizes blocks → (f body).isSome → (g body).isSome) :
    First expression primary g blocks kinds rest := by
  obtain ⟨rest', hfirst, hrest⟩ := h.of_improves (improves_self hfg le_rfl)
  obtain ⟨taken, _, htaken⟩ := h.rest_suffix
  obtain ⟨taken', _, htaken'⟩ := hfirst.rest_suffix
  have hsame : rest = rest' := (List.append_inj' (htaken ▸ htaken') hrest.length_eq).2
  rw [hsame]
  exact hfirst

theorem statementsUpTo_succ_iff {expression primary : Parser Expr} {n : Nat}
    (hne : blocks ≠ []) :
    statementsUpTo expression primary (n + 1) blocks = some kinds ↔
      ∃ first rest others, First expression primary (statementsUpTo expression primary n) blocks
        first rest ∧ statementsUpTo expression primary n rest = some others ∧
        kinds = first ++ others := by
  cases blocks with
  | nil => exact absurd rfl hne
  | cons b tail =>
    simp only [statementsUpTo, Option.bind_eq_bind, Option.bind_eq_some_iff, Prod.exists,
      firstStatements_iff, Option.some.injEq]
    constructor
    · rintro ⟨first, rest, hfirst, others, hothers, rfl⟩
      exact ⟨first, rest, others, hfirst, hothers, rfl⟩
    · rintro ⟨first, rest, others, hfirst, hothers, rfl⟩
      exact ⟨first, rest, hfirst, others, hothers, rfl⟩

-- Any bound that is large enough for the statements does as well as the number of blocks.
theorem statementsUpTo_of_le {expression primary : Parser Expr} {n m : Nat}
    (h : statementsUpTo expression primary n blocks = some kinds) (hm : sizes blocks ≤ m) :
    statementsUpTo expression primary m blocks = some kinds := by
  induction n generalizing blocks kinds m with
  | zero =>
    cases blocks with
    | nil => simpa [statementsUpTo] using h
    | cons => cases h
  | succ n ih =>
    by_cases hne : blocks = []
    · subst hne
      simpa [statementsUpTo] using h
    · obtain ⟨first, rest, others, hfirst, hothers, rfl⟩ := (statementsUpTo_succ_iff hne).mp h
      obtain ⟨m, rfl⟩ : ∃ k, m = k + 1 := ⟨m - 1, by have := sizes_pos hne; omega⟩
      refine (statementsUpTo_succ_iff hne).mpr ⟨first, rest, others, hfirst.of_sizes ?_, ?_, rfl⟩
      · intro body hbody hsome
        obtain ⟨found, hfound⟩ := Option.isSome_iff_exists.mp hsome
        exact Option.isSome_iff_exists.mpr ⟨found, ih hfound (by omega)⟩
      · obtain ⟨taken, htaken, rfl⟩ := hfirst.rest_suffix
        refine ih hothers ?_
        have := sizes_pos htaken
        rw [sizes_append] at hm
        omega

theorem kinds?_nil : kinds? [] = some [] := rfl

-- A list of statements begins with a first statement, and statements follow.
theorem kinds?_iff (hne : blocks ≠ []) :
    kinds? blocks = some kinds ↔
      ∃ first rest others, First anyExpression anyPrimary kinds? blocks first rest ∧
        kinds? rest = some others ∧ kinds = first ++ others := by
  have hpos := sizes_pos hne
  obtain ⟨n, hn⟩ : ∃ n, sizes blocks = n + 1 := ⟨sizes blocks - 1, by omega⟩
  have hread {body : List Block} {found : List StatementKind} (hbody : sizes body ≤ n) :
      statementsUpTo anyExpression anyPrimary n body = some found ↔ kinds? body = some found :=
    ⟨fun h => statementsUpTo_of_le h le_rfl, fun h => statementsUpTo_of_le h hbody⟩
  have hrest {first : List StatementKind} {rest : List Block}
      {f : List Block → Option (List StatementKind)}
      (hfirst : First anyExpression anyPrimary f blocks first rest) : sizes rest ≤ n := by
    obtain ⟨taken, htaken, rfl⟩ := hfirst.rest_suffix
    have := sizes_pos htaken
    rw [sizes_append] at hn
    omega
  have hsome {body : List Block} (hbody : sizes body < sizes blocks) :
      (statementsUpTo anyExpression anyPrimary n body).isSome ↔ (kinds? body).isSome := by
    rw [Option.isSome_iff_exists, Option.isSome_iff_exists]
    exact exists_congr fun found => hread (by omega)
  unfold kinds?
  rw [hn, statementsUpTo_succ_iff hne]
  constructor
  · rintro ⟨first, rest, others, hfirst, hothers, rfl⟩
    exact ⟨first, rest, others, hfirst.of_sizes fun _ hbody => (hsome hbody).mp,
      (hread (hrest hfirst)).mp hothers, rfl⟩
  · rintro ⟨first, rest, others, hfirst, hothers, rfl⟩
    exact ⟨first, rest, others, hfirst.of_sizes fun _ hbody => (hsome hbody).mpr,
      (hread (hrest hfirst)).mpr hothers, rfl⟩

end

end Ghostwriter.Grammar

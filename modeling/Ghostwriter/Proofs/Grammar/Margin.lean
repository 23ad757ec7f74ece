import Ghostwriter.Grammar.Block
import Mathlib.Data.List.TakeWhile

/-!
The margins of the blocks that are open: how they change from line to line, and what they are behind
a further indentation.
-/

namespace Ghostwriter.Grammar

open Ghostwriter.Text

namespace Margin

-- Less by both measures.
def Below (a b : Margin) : Prop := a.column < b.column ∧ a.narrow < b.narrow

end Margin

namespace Block

-- Open margins: each is above those behind it, and the module is the outermost block.
structure Stacked (margins : List Margin) : Prop where
  descending : margins.Pairwise fun a b => b.Below a
  outermost : margins.getLast? = some ⟨0, 0⟩

theorem Stacked.ne_nil {margins : List Margin} (h : Stacked margins) : margins ≠ [] := by
  rintro rfl
  cases h.outermost

theorem stacked_start : Stacked [⟨0, 0⟩] := ⟨by simp, rfl⟩

theorem Stacked.suffix {extra margins : List Margin} (h : Stacked (extra ++ margins))
    (hne : margins ≠ []) : Stacked margins := by
  refine ⟨(List.pairwise_append.mp h.descending).2.1, ?_⟩
  rw [← h.outermost, List.getLast?_append, List.getLast?_eq_some_getLast hne, Option.some_or]

-- A line goes back to an open block, that of the line before it included, or opens a new one.
inductive Opens : List Margin → Margin → List Margin → Prop
  | back {extra outer : List Margin} {m : Margin} (above : ∀ e ∈ extra, m.Below e) :
      Opens (extra ++ m :: outer) m (m :: outer)
  | deeper {inner m : Margin} {outer : List Margin} (above : inner.Below m)
      (room : outer.length + 1 < maxMargins) :
      Opens (inner :: outer) m (m :: inner :: outer)

theorem above_of_stacked {extra outer : List Margin} {m : Margin}
    (h : Stacked (extra ++ m :: outer)) : ∀ e ∈ extra, m.Below e := by
  intro e he
  exact (List.pairwise_append.mp h.descending).2.2 e he m (by simp)

theorem openAt?_iff {margins result : List Margin} {m : Margin} (hstacked : Stacked margins) :
    openAt? margins m = some result ↔ Opens margins m result := by
  constructor
  · intro h
    cases margins with
    | nil => exact absurd rfl hstacked.ne_nil
    | cons inner outer =>
      unfold openAt? at h
      simp only at h
      split at h
      case isTrue hcolumn =>
        split at h
        case isFalse => cases h
        case isTrue hnarrow =>
          have hm : m = inner := by
            cases m
            cases inner
            simp_all
          cases h
          subst hm
          exact @Opens.back [] outer m (by simp)
      case isFalse hcolumn =>
        split at h
        case isTrue hdeeper =>
          split at h
          case isTrue => cases h
          case isFalse hroom =>
            cases h
            simp only [List.length_cons, Bool.or_eq_true, decide_eq_true_eq, not_or,
              Nat.not_le] at hroom
            exact .deeper ⟨hdeeper, hroom.2⟩ hroom.1
        case isFalse hdeeper =>
          split at h
          case isFalse => cases h
          case isTrue hhead =>
            cases h
            have hsplit : (inner :: outer).takeWhile (m.column < ·.column) ++
                (inner :: outer).dropWhile (m.column < ·.column) = inner :: outer :=
              List.takeWhile_append_dropWhile
            generalize (inner :: outer).dropWhile (m.column < ·.column) = kept at hhead hsplit
            generalize (inner :: outer).takeWhile (m.column < ·.column) = extra at hsplit
            cases kept with
            | nil => cases hhead
            | cons k kept =>
              cases hhead
              rw [← hsplit] at hstacked ⊢
              exact .back (above_of_stacked hstacked)
  · intro h
    cases h with
    | @deeper inner _ outer habove hroom =>
      have hne : m.column ≠ inner.column := Nat.ne_of_gt habove.1
      simp [openAt?, hne, habove.1, habove.2, hroom]
    | @back extra outer _ habove =>
      cases extra with
      | nil => simp [openAt?]
      | cons e extra =>
        simp only [List.forall_mem_cons] at habove
        have hdrop : (e :: (extra ++ m :: outer)).dropWhile (m.column < ·.column) = m :: outer := by
          rw [← List.cons_append, List.dropWhile_append_of_pos]
          · simp
          · simp only [List.mem_cons, decide_eq_true_eq]
            rintro x (rfl | hx)
            · exact habove.1.1
            · exact (habove.2 x hx).1
        have hne : m.column ≠ e.column := Nat.ne_of_lt habove.1.1
        have hlt : ¬ e.column < m.column := Nat.not_lt_of_gt habove.1.1
        simp only [List.cons_append, openAt?, hne, if_false, hlt, hdrop, List.head?_cons, if_true]

theorem Opens.stacked {margins result : List Margin} {m : Margin} (h : Opens margins m result)
    (hstacked : Stacked margins) : Stacked result := by
  cases h with
  | back => exact hstacked.suffix (by simp)
  | deeper habove =>
    refine ⟨List.pairwise_cons.mpr ⟨?_, hstacked.descending⟩, hstacked.outermost⟩
    rw [List.forall_mem_cons]
    refine ⟨habove, fun e he => ?_⟩
    have hbelow := (List.pairwise_cons.mp hstacked.descending).1 e he
    exact ⟨hbelow.1.trans habove.1, hbelow.2.trans habove.2⟩

-- The lines with the number of blocks around each, and the margins that are open behind them.
inductive Layout : List Margin → List Line → List (Nat × List Token) → List Margin → Prop
  | nil {margins : List Margin} : Layout margins [] [] margins
  | cons {margins next last : List Margin} {line : Line} {lines : List Line}
      {deep : List (Nat × List Token)} (opens : Opens margins line.margin next)
      (behind : Layout next lines deep last) :
      Layout margins (line :: lines) ((next.length - 1, line.tokens) :: deep) last

theorem depths?_iff {margins : List Margin} {lines : List Line} {deep : List (Nat × List Token)}
    (hstacked : Stacked margins) :
    depths? margins lines = some deep ↔ ∃ last, Layout margins lines deep last := by
  induction lines generalizing margins deep with
  | nil =>
    simp only [depths?, Option.some.injEq]
    constructor
    · rintro rfl
      exact ⟨margins, .nil⟩
    · rintro ⟨last, ⟨⟩⟩
      rfl
  | cons line lines ih =>
    simp only [depths?, Option.bind_eq_bind, Option.bind_eq_some_iff, Option.some.injEq,
      openAt?_iff hstacked]
    constructor
    · rintro ⟨next, hopens, others, hothers, rfl⟩
      obtain ⟨last, hlayout⟩ := (ih (hopens.stacked hstacked)).mp hothers
      exact ⟨last, .cons hopens hlayout⟩
    · rintro ⟨last, hlayout⟩
      cases hlayout with
      | cons hopens hbehind =>
        exact ⟨_, hopens, _, (ih (hopens.stacked hstacked)).mpr ⟨last, hbehind⟩, rfl⟩

section

variable {margins middle last : List Margin} {lines lines' : List Line}
  {deep deep' : List (Nat × List Token)}

theorem Layout.stacked (h : Layout margins lines deep last) (hstacked : Stacked margins) :
    Stacked last := by
  induction h with
  | nil => exact hstacked
  | cons hopens _ ih => exact ih (hopens.stacked hstacked)

theorem Layout.append (h : Layout margins lines deep middle)
    (h' : Layout middle lines' deep' last) :
    Layout margins (lines ++ lines') (deep ++ deep') last := by
  induction h with
  | nil => exact h'
  | cons hopens _ ih => exact .cons hopens (ih h')

theorem Layout.split (h : Layout margins (lines ++ lines') deep last) :
    ∃ deep₁ deep₂ middle, deep = deep₁ ++ deep₂ ∧ Layout margins lines deep₁ middle ∧
      Layout middle lines' deep₂ last := by
  induction lines generalizing margins deep with
  | nil => exact ⟨[], deep, margins, rfl, .nil, h⟩
  | cons line lines ih =>
    cases h with
    | cons hopens hbehind =>
      obtain ⟨deep₁, deep₂, middle, rfl, h₁, h₂⟩ := ih hbehind
      exact ⟨_ :: deep₁, deep₂, middle, rfl, .cons hopens h₁, h₂⟩

end

-- Pairs of margins whose second ones are ordered like their first ones.
structure SameOrder (pairs : List (Margin × Margin)) : Prop where
  below : ∀ a ∈ pairs, ∀ b ∈ pairs, a.1.Below b.1 → a.2.Below b.2
  equal : ∀ a ∈ pairs, ∀ b ∈ pairs, a.1 = b.1 → a.2 = b.2

-- A line with a margin that it is given.
def moved (pair : Line × Margin) : Line := ⟨pair.2, pair.1.tokens⟩

section

variable {pairs : List (Margin × Margin)} {outer : List Margin}

theorem Opens.moved {opened : List (Margin × Margin)} {m m' : Margin} {result : List Margin}
    {base : Margin × Margin} (horder : SameOrder pairs) (hopened : ∀ p ∈ opened, p ∈ pairs)
    (hm : (m, m') ∈ pairs) (hbase : opened.getLast? = some base)
    (h : Opens (opened.map Prod.fst) m result) (hroom : result.length + outer.length ≤ maxMargins) :
    ∃ next : List (Margin × Margin), result = next.map Prod.fst ∧ (∀ p ∈ next, p ∈ pairs) ∧
      next.getLast? = some base ∧
      Opens (opened.map Prod.snd ++ outer) m' (next.map Prod.snd ++ outer) := by
  generalize hmargins : opened.map Prod.fst = margins at h
  cases h with
  | @back extra behind _ habove =>
    obtain ⟨atop, next, rfl, rfl, hnext⟩ := List.map_eq_append_iff.mp hmargins
    obtain ⟨found, tail, rfl, rfl, rfl⟩ := List.map_eq_cons_iff.mp hnext
    have hfound : found.2 = m' := horder.equal _ (hopened _ (by simp)) _ hm rfl
    refine ⟨found :: tail, rfl, fun p hp => hopened p (by simp [hp]), ?_, ?_⟩
    · rw [← hbase, List.getLast?_append, List.getLast?_eq_some_getLast (List.cons_ne_nil _ _),
        Option.some_or]
    · rw [List.map_append, List.map_cons, hfound, List.append_assoc, List.cons_append]
      refine .back fun e he => ?_
      obtain ⟨p, hp, rfl⟩ := List.mem_map.mp he
      exact horder.below _ hm _ (hopened p (by simp [hp]))
        (habove _ (List.mem_map_of_mem hp))
  | @deeper inner _ behind habove hfree =>
    obtain ⟨found, tail, rfl, rfl, rfl⟩ := List.map_eq_cons_iff.mp hmargins
    refine ⟨(m, m') :: found :: tail, rfl, ?_, ?_, ?_⟩
    · rintro p (_ | ⟨_, hp⟩)
      · exact hm
      · exact hopened p hp
    · rw [List.getLast?_cons_cons, hbase]
    · refine .deeper (horder.below _ (hopened _ (by simp)) _ hm habove) ?_
      change (tail.map Prod.snd ++ outer).length + 1 < maxMargins
      simp only [List.length_cons, List.length_map, List.length_append] at hroom ⊢
      omega

theorem Opens.length_pos {margins result : List Margin} {m : Margin}
    (h : Opens margins m result) : 0 < result.length := by
  cases h <;> simp

-- Lines that are moved into a block are laid out there as they were.
theorem Layout.moved {opened : List (Margin × Margin)} {lines : List (Line × Margin)}
    {deep : List (Nat × List Token)} {last : List Margin} {base : Margin × Margin}
    (horder : SameOrder pairs) (hopened : ∀ p ∈ opened, p ∈ pairs)
    (hlines : ∀ l ∈ lines, (l.1.margin, l.2) ∈ pairs) (hbase : opened.getLast? = some base)
    (h : Layout (opened.map Prod.fst) (lines.map Prod.fst) deep last)
    (hroom : ∀ l ∈ deep, l.1 + 1 + outer.length ≤ maxMargins) :
    ∃ next : List (Margin × Margin), (∀ p ∈ next, p ∈ pairs) ∧ last = next.map Prod.fst ∧
      next.getLast? = some base ∧
      Layout (opened.map Prod.snd ++ outer) (lines.map Block.moved)
        (deep.map fun l => (l.1 + outer.length, l.2)) (next.map Prod.snd ++ outer) := by
  induction lines generalizing opened deep with
  | nil =>
    cases h
    exact ⟨opened, hopened, rfl, hbase, .nil⟩
  | cons line lines ih =>
    cases h with
    | cons hopens hbehind =>
      rw [List.forall_mem_cons] at hlines hroom
      have hpos := hopens.length_pos
      obtain ⟨next, rfl, hnext, hnextBase, hmoved⟩ := @Opens.moved pairs outer _ _ _ _ _ horder hopened
        hlines.1 hbase hopens (by have := hroom.1; omega)
      obtain ⟨final, hfinal, hlast, hfinalBase, hothers⟩ :=
        ih hnext hlines.2 hnextBase hbehind hroom.2
      refine ⟨final, hfinal, hlast, hfinalBase, ?_⟩
      have hdepth : (next.map Prod.snd ++ outer).length - 1 =
          (next.map Prod.fst).length - 1 + outer.length := by
        rw [List.length_append, List.length_map, List.length_map]
        rw [List.length_map] at hpos
        omega
      rw [List.map_cons, List.map_cons, ← hdepth]
      exact .cons hmoved hothers

end

end Block

end Ghostwriter.Grammar

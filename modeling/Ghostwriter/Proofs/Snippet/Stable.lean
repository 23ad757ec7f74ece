import Ghostwriter.Proofs.Snippet.Fence
import Mathlib.Data.List.Infix
import Mathlib.Data.List.TakeWhile

/-!
What is taken out of any text, however its marks stand. From left to right, each block is taken from
the first fence that begins in what is left of the text, up to the first mark behind its opening
line. No mark is left in what is taken out, so that nothing more can be taken out of it.
-/

namespace Ghostwriter.Fence

open Ghostwriter.Text

-- An opening mark with its line: a known tag, blanks and the line end.
def IsOpening (opening : Text) : Prop :=
  ∃ tag ∈ tags, ∃ blanks, (∀ c ∈ blanks, c = ' ' ∨ c = '\t') ∧
    opening = mark ++ tag ++ blanks ++ ['\n']

theorem afterOpening?_iff {t rest : Text} :
    afterOpening? t = some rest ↔ ∃ opening, IsOpening opening ∧ t = opening ++ rest := by
  constructor
  · intro h
    unfold afterOpening? at h
    split_ifs at h with hmark
    obtain ⟨tag, htag, hbehind⟩ := List.exists_of_findSome?_eq_some h
    unfold afterTag? at hbehind
    split_ifs at hbehind with hprefix
    obtain ⟨u, rfl⟩ := List.isPrefixOf_iff_prefix.mp hmark
    rw [List.drop_left] at hprefix hbehind
    obtain ⟨v, rfl⟩ := List.isPrefixOf_iff_prefix.mp hprefix
    rw [List.drop_left] at hbehind
    have hsplit : v.takeWhile (fun c => c = ' ' || c = '\t') ++
        v.dropWhile (fun c => c = ' ' || c = '\t') = v := List.takeWhile_append_dropWhile
    have hblanks : ∀ c ∈ v.takeWhile (fun c => c = ' ' || c = '\t'), c = ' ' ∨ c = '\t' := by
      intro c hc
      simpa using List.mem_takeWhile_imp hc
    split at hbehind
    · rename_i hdrop
      cases hbehind
      rw [hdrop] at hsplit
      refine ⟨_, ⟨tag, htag, _, hblanks, rfl⟩, ?_⟩
      simp only [List.append_assoc, List.singleton_append, hsplit]
    · cases hbehind
  · rintro ⟨opening, ⟨tag, htag, blanks, hblanks, rfl⟩, rfl⟩
    have hline := afterOpening?_line (isTag_of_mem_tags tag htag) hblanks rest
    rw [if_pos htag] at hline
    simpa only [List.append_assoc, List.singleton_append] using hline

-- The first mark of a text stands behind `body` and before `after`.
def FirstMark (t body after : Text) : Prop :=
  t = body ++ (mark ++ after) ∧
    ∀ earlier later, t = earlier ++ (mark ++ later) → body.length ≤ earlier.length

theorem firstMark_of_upToMark? {t body after : Text} (h : upToMark? t = some (body, after)) :
    FirstMark t body after := by
  induction t generalizing body with
  | nil => cases h
  | cons c t ih =>
    unfold upToMark? at h
    split_ifs at h with hmark
    · cases h
      obtain ⟨after, hafter⟩ := List.isPrefixOf_iff_prefix.mp hmark
      refine ⟨?_, fun _ _ _ => Nat.zero_le _⟩
      rw [← hafter, List.drop_left, List.nil_append]
    · obtain ⟨⟨body, after⟩, hrest, heq⟩ := Option.map_eq_some_iff.mp h
      cases heq
      obtain ⟨ht, hfirst⟩ := ih hrest
      refine ⟨congrArg (c :: ·) ht, fun earlier later hearlier => ?_⟩
      cases earlier with
      | nil => exact absurd (List.isPrefixOf_iff_prefix.mpr ⟨later, hearlier.symm⟩) hmark
      | cons d earlier => exact Nat.succ_le_succ (hfirst earlier later (List.cons.inj hearlier).2)

theorem upToMark?_eq_none_iff {t : Text} : upToMark? t = none ↔ ¬ mark <:+: t := by
  induction t with
  | nil => simp [upToMark?, mark]
  | cons c t ih =>
    rw [upToMark?, List.infix_cons_iff, not_or, ← ih, ← List.isPrefixOf_iff_prefix]
    split_ifs with hmark
    · simp [hmark]
    · simp [hmark]

theorem FirstMark.markless {t body after : Text} (h : FirstMark t body after) :
    ¬ mark <:+: body := by
  rintro ⟨earlier, later, rfl⟩
  have hlength := h.2 earlier (later ++ (mark ++ after)) (by simp [h.1])
  simp only [List.length_append, mark, List.length_cons] at hlength
  omega

-- A fence: an opening line, a body of any characters and a mark.
def IsFence (fence : Text) : Prop :=
  ∃ opening body, IsOpening opening ∧ fence = opening ++ (body ++ mark)

def HasFence (t : Text) : Prop := ∃ fence, IsFence fence ∧ fence <:+: t

theorem not_hasFence_of_markless {t : Text} (h : ¬ mark <:+: t) : ¬ HasFence t := by
  rintro ⟨fence, ⟨opening, body, -, rfl⟩, hinfix⟩
  have hmark : mark <:+ opening ++ (body ++ mark) :=
    (List.suffix_append body mark).trans (List.suffix_append opening _)
  exact h (hmark.isInfix.trans hinfix)

-- No block is found at the head of a text only where no fence begins.
theorem block?_eq_none_iff {t : Text} :
    block? t = none ↔ ∀ fence, IsFence fence → ¬ fence <+: t := by
  constructor
  · rintro h fence ⟨opening, body, hopening, rfl⟩ ⟨after, rfl⟩
    have hrest := afterOpening?_iff.mpr
      ⟨opening, hopening, List.append_assoc opening (body ++ mark) after⟩
    rw [block?, hrest, Option.bind_some, upToMark?_eq_none_iff] at h
    exact h ⟨body, after, rfl⟩
  · intro h
    cases hblock : block? t with
    | none => rfl
    | some found =>
      obtain ⟨rest, hrest, hmark⟩ := Option.bind_eq_some_iff.mp hblock
      obtain ⟨opening, hopening, rfl⟩ := afterOpening?_iff.mp hrest
      have hbody := (firstMark_of_upToMark? hmark).1
      refine absurd ⟨found.2, ?_⟩ (h _ ⟨opening, found.1, hopening, rfl⟩)
      simp [hbody]

-- How blocks are cut out of a text. `before` is passed over, since no fence begins in it.
inductive Cut : Text → List Text → Prop
  | clear {t : Text} (hclear : ¬ HasFence t) : Cut t []
  | fence (before : Text) {opening rest body after : Text} {bodies : List Text}
    (hfirst : ∀ earlier fence later, IsFence fence →
      before ++ (opening ++ rest) = earlier ++ (fence ++ later) → before.length ≤ earlier.length)
    (hopening : IsOpening opening) (hbody : FirstMark rest body after)
    (hafter : Cut after bodies) :
    Cut (before ++ (opening ++ rest)) (body :: bodies)

namespace Cut

-- Where no fence begins, the next character is passed over.
theorem cons {c : Char} {t : Text} {bodies : List Text} (h : Cut t bodies)
    (hhead : ∀ fence, IsFence fence → ¬ fence <+: c :: t) : Cut (c :: t) bodies := by
  cases h with
  | clear hclear =>
    refine .clear ?_
    rintro ⟨fence, hfence, hinfix⟩
    rcases List.infix_cons_iff.mp hinfix with hprefix | hinfix
    · exact hhead fence hfence hprefix
    · exact hclear ⟨fence, hfence, hinfix⟩
  | @fence before opening rest body after bodies hfirst hopening hbody hafter =>
    refine .fence (c :: before) (fun earlier fence later hfence heq => ?_)
      hopening hbody hafter
    cases earlier with
    | nil => exact absurd ⟨later, heq.symm⟩ (hhead fence hfence)
    | cons d earlier =>
      exact Nat.succ_le_succ (hfirst earlier fence later hfence (List.cons.inj heq).2)

end Cut

theorem cut_blocks (t : Text) : Cut t (blocks t) := by
  induction hn : t.length using Nat.strong_induction_on generalizing t with
  | _ n ih =>
    cases t with
    | nil => exact .clear (not_hasFence_of_markless (by simp [mark]))
    | cons c rest =>
      rw [blocks_cons]
      rw [List.length_cons] at hn
      cases hblock : block? (c :: rest) with
      | none => exact (ih rest.length (by omega) rest rfl).cons (block?_eq_none_iff.mp hblock)
      | some found =>
        obtain ⟨body, after⟩ := found
        have hlength := length_of_block? hblock
        rw [List.length_cons] at hlength
        obtain ⟨line, hline, hmark⟩ := Option.bind_eq_some_iff.mp hblock
        obtain ⟨opening, hopening, heq⟩ := afterOpening?_iff.mp hline
        rw [heq]
        exact .fence [] (fun _ _ _ _ _ => Nat.zero_le _) hopening
          (firstMark_of_upToMark? hmark) (ih after.length (by omega) after rfl)

-- Pieces of a text, in order and apart from each other.
inductive Apart : List Text → Text → Prop
  | nil {t : Text} : Apart [] t
  | cons {before piece rest : Text} {pieces : List Text} (hrest : Apart pieces rest) :
    Apart (piece :: pieces) (before ++ (piece ++ rest))

theorem Apart.prepend {pieces : List Text} {t : Text} (h : Apart pieces t) (before : Text) :
    Apart pieces (before ++ t) := by
  cases h with
  | nil => exact .nil
  | cons hrest =>
    rw [← List.append_assoc]
    exact hrest.cons

namespace Cut

section

variable {t : Text} {bodies : List Text}

theorem eq_nil_iff (h : Cut t bodies) : bodies = [] ↔ ¬ HasFence t := by
  cases h with
  | clear hclear => exact iff_of_true rfl hclear
  | @fence before opening rest body after bodies hfirst hopening hbody hafter =>
    refine iff_of_false (List.cons_ne_nil _ _) fun hclear => hclear ?_
    refine ⟨_, ⟨opening, body, hopening, rfl⟩, before, after, ?_⟩
    simp [hbody.1]

theorem apart (h : Cut t bodies) : Apart bodies t := by
  induction h with
  | clear => exact .nil
  | fence _ hfirst hopening hbody hafter ih =>
    rw [hbody.1, ← List.append_assoc]
    exact (ih.prepend mark).cons

theorem markless (h : Cut t bodies) : ∀ body ∈ bodies, ¬ mark <:+: body := by
  induction h with
  | clear => simp
  | fence _ hfirst hopening hbody hafter ih => exact List.forall_mem_cons.mpr ⟨hbody.markless, ih⟩

-- The marks and the line of the opening one come on top of each block.
theorem length_le (h : Cut t bodies) : bodies.flatten.length + 7 * bodies.length ≤ t.length := by
  induction h with
  | clear => simp
  | fence _ hfirst hopening hbody hafter ih =>
    obtain ⟨tag, -, blanks, -, rfl⟩ := hopening
    rw [hbody.1]
    simp only [List.flatten_cons, mark, List.length_append, List.length_cons, List.length_nil]
    omega

end

end Cut

-- No mark runs over a line end.
theorem mark_prefix_append_break {a b : Text} (h : mark <+: a ++ '\n' :: b) : mark <+: a := by
  have hbreak : a ++ ['\n'] <+: a ++ '\n' :: b := ⟨b, List.append_assoc a ['\n'] b⟩
  have hmem : '\n' ∈ a ++ ['\n'] := List.mem_append_right a (List.mem_singleton_self _)
  rcases List.prefix_or_prefix_of_prefix h hbreak with hshort | hlong
  · rcases List.prefix_concat_iff.mp hshort with heq | hinside
    · exact absurd (heq ▸ hmem : '\n' ∈ mark) (by decide)
    · exact hinside
  · exact absurd (hlong.subset hmem) (by decide)

theorem mark_infix_append_break {a b : Text} (h : mark <:+: a ++ '\n' :: b) :
    mark <:+: a ∨ mark <:+: b := by
  induction a with
  | nil =>
    rcases List.infix_cons_iff.mp h with hprefix | hinfix
    · exact .inl (mark_prefix_append_break hprefix).isInfix
    · exact .inr hinfix
  | cons c a ih =>
    rcases List.infix_cons_iff.mp h with hprefix | hinfix
    · exact .inl (mark_prefix_append_break hprefix).isInfix
    · exact (ih hinfix).imp_left List.infix_cons

theorem markless_joinWith {texts : List Text} (h : ∀ t ∈ texts, ¬ mark <:+: t) :
    ¬ mark <:+: joinWith ['\n'] texts := by
  induction texts with
  | nil => simp [joinWith, mark]
  | cons t texts ih =>
    obtain ⟨ht, hothers⟩ := List.forall_mem_cons.mp h
    cases texts with
    | nil => exact ht
    | cons next texts =>
      have hjoin : joinWith ['\n'] (t :: next :: texts) =
          t ++ '\n' :: joinWith ['\n'] (next :: texts) := by simp [joinWith]
      rw [hjoin]
      exact fun hinfix => (mark_infix_append_break hinfix).elim ht (ih hothers)

-- Code with the line ends behind it.
structure Piece where
  code : Text
  breaks : Nat
  noBreak : code.getLast? ≠ some '\n'

namespace Piece

def text (p : Piece) : Text := p.code ++ List.replicate p.breaks '\n'

theorem exists_text (t : Text) : ∃ p : Piece, p.text = t := by
  induction t using List.reverseRecOn with
  | nil => exact ⟨⟨[], 0, by simp⟩, rfl⟩
  | append_singleton t c ih =>
    by_cases hc : c = '\n'
    · obtain ⟨p, rfl⟩ := ih
      refine ⟨⟨p.code, p.breaks + 1, p.noBreak⟩, ?_⟩
      rw [hc, text, text, List.replicate_succ', List.append_assoc]
    · exact ⟨⟨t ++ [c], 0, by simpa using hc⟩, List.append_nil _⟩

theorem exists_map_text (bodies : List Text) :
    ∃ pieces : List Piece, pieces.map text = bodies := by
  induction bodies with
  | nil => exact ⟨[], rfl⟩
  | cons body bodies ih =>
    obtain ⟨p, rfl⟩ := exists_text body
    obtain ⟨pieces, rfl⟩ := ih
    exact ⟨p :: pieces, rfl⟩

end Piece

theorem markless_settleEnd {t : Text} (h : ¬ mark <:+: t) : ¬ mark <:+: settleEnd t := by
  obtain ⟨p, rfl⟩ := Piece.exists_text t
  rw [Piece.text, settleEnd_append p.noBreak]
  intro hinfix
  rcases mark_infix_append_break hinfix with hcode | hnil
  · exact h (hcode.trans (List.prefix_append _ _).isInfix)
  · simp [mark] at hnil

theorem unwrap_of_not_hasFence {t : Text} (h : ¬ HasFence t) : unwrap t = t := by
  rw [unwrap, (cut_blocks t).eq_nil_iff.mpr h]

theorem unwrap_of_hasFence {t : Text} (h : HasFence t) :
    unwrap t = joinWith ['\n'] ((blocks t).map settleEnd) := by
  unfold unwrap
  split
  · rename_i hnil
    exact absurd h ((cut_blocks t).eq_nil_iff.mp hnil)
  · rfl

theorem markless_unwrap {t : Text} (h : HasFence t) : ¬ mark <:+: unwrap t := by
  rw [unwrap_of_hasFence h]
  refine markless_joinWith fun settled hsettled => ?_
  obtain ⟨body, hbody, rfl⟩ := List.mem_map.mp hsettled
  exact markless_settleEnd ((cut_blocks t).markless body hbody)

theorem unwrap_unwrap (t : Text) : unwrap (unwrap t) = unwrap t := by
  by_cases h : HasFence t
  · exact unwrap_of_not_hasFence (not_hasFence_of_markless (markless_unwrap h))
  · rw [unwrap_of_not_hasFence h, unwrap_of_not_hasFence h]

-- A text without a fence stays as it is. From a text with a fence the bodies between the marks are
-- taken, in order and apart from each other, and only the line ends behind them change. What is
-- taken holds no mark, so that it stays as it is.
theorem unwrap_stable (t : Text) :
    (¬ HasFence t ∧ unwrap t = t ∨
      HasFence t ∧ ¬ mark <:+: unwrap t ∧
        ∃ pieces : List Piece, pieces ≠ [] ∧ Cut t (pieces.map Piece.text) ∧
          Apart (pieces.map Piece.text) t ∧
          unwrap t = joinWith ['\n'] (pieces.map fun p => p.code ++ ['\n'])) ∧
      unwrap (unwrap t) = unwrap t := by
  refine ⟨?_, unwrap_unwrap t⟩
  by_cases h : HasFence t
  · obtain ⟨pieces, hpieces⟩ := Piece.exists_map_text (blocks t)
    have hcut : Cut t (pieces.map Piece.text) := hpieces ▸ cut_blocks t
    refine .inr ⟨h, markless_unwrap h, pieces, ?_, hcut, hcut.apart, ?_⟩
    · rintro rfl
      exact hcut.eq_nil_iff.mp rfl h
    · rw [unwrap_of_hasFence h, ← hpieces, List.map_map]
      exact congrArg _ (List.map_congr_left fun p _ => settleEnd_append p.noBreak p.breaks)
  · exact .inl ⟨h, unwrap_of_not_hasFence h⟩

-- Of four marks in a row three open the fence, and of the five behind the code two are left.
example : unwrap "````py\nx = 1\n\n`````\n".toList = "x = 1\n".toList := by decide +kernel

end Ghostwriter.Fence

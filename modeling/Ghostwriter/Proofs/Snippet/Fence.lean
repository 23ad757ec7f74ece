import Ghostwriter.Snippet.Fence
import Mathlib.Tactic.SplitIfs

/-!
What is taken out of a response with fenced blocks. Blocks with a known tag are taken as long as no
block with another tag stands before them. The closing mark of such a block is read as an opening
mark, so that from there on the prose is taken in place of the blocks.
-/

namespace Ghostwriter.Fence

open Ghostwriter.Text

-- The character that marks are made of.
def tick : Char := '\x60'

theorem mark_isPrefixOf_cons {c : Char} (h : c ≠ tick) (rest : Text) :
    mark.isPrefixOf (c :: rest) = false := by
  have hc : (tick == c) = false := beq_eq_false_iff_ne.mpr h.symm
  change (tick == c && _) = false
  rw [hc, Bool.false_and]

theorem upToMark?_append {body : Text} (h : tick ∉ body) (rest : Text) :
    upToMark? (body ++ (mark ++ rest)) = some (body, rest) := by
  induction body with
  | nil => rfl
  | cons c body ih =>
    rw [List.mem_cons, not_or] at h
    rw [List.cons_append, upToMark?, mark_isPrefixOf_cons (Ne.symm h.1), ih h.2]
    rfl

theorem upToMark?_eq_none {t : Text} (h : tick ∉ t) : upToMark? t = none := by
  induction t with
  | nil => rfl
  | cons c t ih =>
    rw [List.mem_cons, not_or] at h
    rw [upToMark?, mark_isPrefixOf_cons (Ne.symm h.1), ih h.2]
    rfl

theorem block?_cons {c : Char} (h : c ≠ tick) (rest : Text) : block? (c :: rest) = none := by
  unfold block? afterOpening?
  rw [mark_isPrefixOf_cons h]
  rfl

-- A tag stands between an opening mark and a line end, without blanks.
def IsTag (tag : Text) : Prop := ∀ c ∈ tag, c ≠ tick ∧ c ≠ '\n' ∧ c ≠ ' ' ∧ c ≠ '\t'

instance (tag : Text) : Decidable (IsTag tag) := List.decidableBAll _ tag

theorem isTag_of_mem_tags : ∀ known ∈ tags, IsTag known := by decide

theorem dropWhile_blanks {blanks : Text} (h : ∀ c ∈ blanks, c = ' ' ∨ c = '\t') (rest : Text) :
    (blanks ++ '\n' :: rest).dropWhile (fun c => c = ' ' || c = '\t') = '\n' :: rest := by
  rw [List.dropWhile_append_of_pos (by simpa using h)]
  rfl

theorem afterTag?_eq {tag known blanks : Text} (htag : IsTag tag) (hknown : IsTag known)
    (hblanks : ∀ c ∈ blanks, c = ' ' ∨ c = '\t') (rest : Text) :
    afterTag? (tag ++ (blanks ++ '\n' :: rest)) known =
      if known = tag then some rest else none := by
  unfold afterTag?
  induction known generalizing tag with
  | nil =>
    cases tag with
    | nil => simp [dropWhile_blanks hblanks]
    | cons c tag =>
      obtain ⟨⟨-, hbreak, hblank, htab⟩, -⟩ := List.forall_mem_cons.mp htag
      simp [hbreak, hblank, htab]
  | cons k known ih =>
    obtain ⟨⟨-, hbreak, hblank, htab⟩, hothers⟩ := List.forall_mem_cons.mp hknown
    cases tag with
    | nil =>
      have hhead : ¬ k :: known <+: blanks ++ '\n' :: rest := by
        cases blanks with
        | nil => simp [hbreak]
        | cons c blanks =>
          obtain ⟨rfl | rfl, -⟩ := List.forall_mem_cons.mp hblanks
          · simp [hblank]
          · simp [htab]
      simp [hhead]
    | cons c tag =>
      by_cases hsame : k = c
      · subst hsame
        simpa using ih (List.forall_mem_cons.mp htag).2 hothers
      · simp [hsame]

-- An opening mark with a known tag opens a block, and one with another tag does not.
theorem afterOpening?_line {tag blanks : Text} (htag : IsTag tag)
    (hblanks : ∀ c ∈ blanks, c = ' ' ∨ c = '\t') (rest : Text) :
    afterOpening? (mark ++ (tag ++ (blanks ++ '\n' :: rest))) =
      if tag ∈ tags then some rest else none := by
  have hopening : afterOpening? (mark ++ (tag ++ (blanks ++ '\n' :: rest))) =
      tags.findSome? (afterTag? (tag ++ (blanks ++ '\n' :: rest))) := rfl
  rw [hopening]
  generalize hnames : tags = names
  have hall : ∀ known ∈ names, IsTag known := hnames ▸ isTag_of_mem_tags
  clear hnames hopening
  induction names with
  | nil => rfl
  | cons known names ih =>
    obtain ⟨hknown, hothers⟩ := List.forall_mem_cons.mp hall
    rw [List.findSome?_cons, afterTag?_eq htag hknown hblanks, ih hothers]
    by_cases hsame : known = tag
    · simp [hsame]
    · simp [hsame, Ne.symm hsame]

theorem afterOpening?_mark {tag : Text} (htag : IsTag tag) (rest : Text) :
    afterOpening? (mark ++ (tag ++ '\n' :: rest)) = if tag ∈ tags then some rest else none := by
  have hnone : ∀ c ∈ ([] : Text), c = ' ' ∨ c = '\t' := by simp
  exact afterOpening?_line htag hnone rest

theorem length_of_upToMark? {t block after : Text} (h : upToMark? t = some (block, after)) :
    after.length ≤ t.length := by
  induction t generalizing block with
  | nil => cases h
  | cons c t ih =>
    unfold upToMark? at h
    split_ifs at h
    · cases h
      simp
    · obtain ⟨⟨block', after'⟩, hrest, heq⟩ := Option.map_eq_some_iff.mp h
      cases heq
      have := ih hrest
      simp
      omega

theorem length_of_afterOpening? {t rest : Text} (h : afterOpening? t = some rest) :
    rest.length < t.length := by
  unfold afterOpening? at h
  split_ifs at h
  obtain ⟨known, -, hknown⟩ := List.exists_of_findSome?_eq_some h
  unfold afterTag? at hknown
  split_ifs at hknown
  split at hknown
  · rename_i hdrop
    cases hknown
    have hlength := (List.dropWhile_sublist (fun c => c = ' ' || c = '\t')
      (l := (t.drop mark.length).drop known.length)).length_le
    rw [hdrop] at hlength
    simp at hlength
    omega
  · cases hknown

theorem length_of_block? {t block after : Text} (h : block? t = some (block, after)) :
    after.length < t.length := by
  obtain ⟨rest, hopening, hmark⟩ := Option.bind_eq_some_iff.mp h
  exact Nat.lt_of_le_of_lt (length_of_upToMark? hmark) (length_of_afterOpening? hopening)

theorem blocksUpTo_eq {fuel : Nat} {t : Text} (h : t.length ≤ fuel) :
    blocksUpTo fuel t = blocks t := by
  have hmore {fuel fuel' : Nat} {t : Text} (h : t.length ≤ fuel) (h' : t.length ≤ fuel') :
      blocksUpTo fuel t = blocksUpTo fuel' t := by
    induction fuel generalizing fuel' t with
    | zero =>
      obtain rfl : t = [] := List.length_eq_zero_iff.mp (by omega)
      cases fuel' <;> rfl
    | succ fuel ih =>
      cases t with
      | nil => cases fuel' <;> rfl
      | cons c rest =>
        obtain ⟨fuel', rfl⟩ : ∃ n, fuel' = n + 1 := ⟨fuel' - 1, by simp at h'; omega⟩
        simp only [List.length_cons, Nat.add_le_add_iff_right] at h h'
        simp only [blocksUpTo]
        cases hblock : block? (c :: rest) with
        | none => exact ih h h'
        | some found =>
          obtain ⟨block, after⟩ := found
          have := length_of_block? hblock
          simp only [List.length_cons] at this
          simp only
          rw [ih (by omega) (Nat.le_trans (by omega) h')]
  exact hmore h (Nat.le_refl _)

-- The blocks of a text, one step from its head on.
theorem blocks_cons (c : Char) (rest : Text) :
    blocks (c :: rest) =
      match block? (c :: rest) with
      | some (block, after) => block :: blocks after
      | none => blocks rest := by
  have hblocks : blocks (c :: rest) = blocksUpTo (rest.length + 1) (c :: rest) := rfl
  rw [hblocks]
  simp only [blocksUpTo]
  cases hblock : block? (c :: rest) with
  | none => rfl
  | some found =>
    obtain ⟨block, after⟩ := found
    have := length_of_block? hblock
    simp only [List.length_cons] at this
    simp only
    rw [blocksUpTo_eq (by omega)]

theorem blocks_append {prose : Text} (h : tick ∉ prose) (rest : Text) :
    blocks (prose ++ rest) = blocks rest := by
  induction prose with
  | nil => rfl
  | cons c prose ih =>
    rw [List.mem_cons, not_or] at h
    rw [List.cons_append, blocks_cons, block?_cons (Ne.symm h.1)]
    exact ih h.2

-- Where no block begins at a mark, the search goes on behind it.
theorem blocks_mark {rest : Text} (hhead : rest.head? ≠ some tick)
    (h : block? (mark ++ rest) = none) : blocks (mark ++ rest) = blocks rest := by
  have hshort {t : Text} (ht : mark.isPrefixOf t = false) : block? t = none := by
    unfold block? afterOpening?
    rw [ht]
    rfl
  have hone : block? (tick :: rest) = none := by
    refine hshort ?_
    cases rest with
    | nil => rfl
    | cons c rest =>
      have hc : (tick == c) = false := beq_eq_false_iff_ne.mpr fun hc => hhead (hc ▸ rfl)
      change (tick == tick && (tick == c && _)) = false
      rw [hc, Bool.false_and, Bool.and_false]
  have htwo : block? (tick :: tick :: rest) = none := by
    refine hshort ?_
    cases rest with
    | nil => rfl
    | cons c rest =>
      have hc : (tick == c) = false := beq_eq_false_iff_ne.mpr fun hc => hhead (hc ▸ rfl)
      change (tick == tick && (tick == tick && (tick == c && _))) = false
      rw [hc, Bool.false_and, Bool.and_false, Bool.and_false]
  have hsplit : mark ++ rest = tick :: tick :: tick :: rest := rfl
  rw [hsplit] at h ⊢
  rw [blocks_cons, h]
  simp only
  rw [blocks_cons, htwo]
  simp only
  rw [blocks_cons, hone]

-- Prose around blocks: it holds no marks.
abbrev Prose := {t : Text // tick ∉ t}

-- A block of a response. Its code is followed by a line end and perhaps more of them.
structure Block where
  tag : Text
  code : Text
  moreBreaks : Nat
  isTag : IsTag tag
  noTick : tick ∉ code
  noBreak : code.getLast? ≠ some '\n'

namespace Block

def body (b : Block) : Text := b.code ++ List.replicate (b.moreBreaks + 1) '\n'

-- What stands between the marks.
def inside (b : Block) : Text := b.tag ++ '\n' :: b.body

def write (b : Block) : Text := mark ++ b.inside ++ mark

def isKnown (b : Block) : Bool := tags.contains b.tag

end Block

-- A response with at least one block. Behind each block stands a line end with prose, except that
-- the last one may end the response.
structure Response where
  opening : Prose
  inner : List (Block × Prose)
  last : Block
  closing : Option Prose

namespace Response

-- The prose behind a block, with its line end.
def writeProse (prose : Prose) : Text := '\n' :: prose.val

-- Some blocks with the prose behind them, and then the last one.
def writeFrom (last : Block) (closing : Option Prose) : List (Block × Prose) → Text
  | [] => last.write ++ (closing.map writeProse).getD []
  | (b, prose) :: rest => b.write ++ (writeProse prose ++ writeFrom last closing rest)

def write (r : Response) : Text := r.opening.val ++ writeFrom r.last r.closing r.inner

def blocks (r : Response) : List Block := r.inner.map Prod.fst ++ [r.last]

-- The bodies up to the first block with another tag, and the prose between blocks from there on.
def takenFrom (last : Block) : List (Block × Prose) → List Text
  | [] => if last.isKnown then [last.body] else []
  | (b, prose) :: rest =>
    if b.isKnown then b.body :: takenFrom last rest
    else prose.val :: rest.map fun part => part.2.val

def taken (r : Response) : List Text := takenFrom r.last r.inner

end Response

open Response (writeProse writeFrom takenFrom)

theorem tick_not_mem_writeProse (prose : Prose) : tick ∉ writeProse prose := by
  have hbreak : tick ≠ '\n' := by decide
  simp [writeProse, prose.property, hbreak]

theorem tick_not_mem_inside (b : Block) : tick ∉ b.inside := by
  have htag : tick ∉ b.tag := fun hmem => (b.isTag tick hmem).1 rfl
  have hcode := b.noTick
  have hbreak : tick ≠ '\n' := by decide
  simp [Block.inside, Block.body, htag, hcode, hbreak]

theorem tick_not_mem_body (b : Block) : tick ∉ b.body := by
  have hinside := tick_not_mem_inside b
  simp only [Block.inside, List.mem_append, List.mem_cons, not_or] at hinside
  exact hinside.2.2

theorem head?_inside (b : Block) (rest : Text) : (b.inside ++ rest).head? ≠ some tick := by
  intro hhead
  refine tick_not_mem_inside b (List.mem_of_mem_head? ?_)
  simpa [List.head?_append, Block.inside] using hhead

theorem write_append (b : Block) (rest : Text) :
    b.write ++ rest = mark ++ (b.inside ++ (mark ++ rest)) := by
  simp [Block.write]

theorem block?_write (b : Block) (rest : Text) :
    block? (b.write ++ rest) = if b.isKnown then some (b.body, rest) else none := by
  have hinside : b.inside ++ (mark ++ rest) = b.tag ++ '\n' :: (b.body ++ (mark ++ rest)) := by
    simp [Block.inside]
  unfold block?
  rw [write_append, hinside, afterOpening?_mark b.isTag]
  by_cases hknown : b.tag ∈ tags
  · simp [Block.isKnown, hknown, upToMark?_append (tick_not_mem_body b)]
  · simp [Block.isKnown, hknown]

theorem blocks_write_of_known {b : Block} (h : b.isKnown = true) (rest : Text) :
    blocks (b.write ++ rest) = b.body :: blocks rest := by
  have hblock := block?_write b rest
  rw [if_pos h] at hblock
  have hwrite : b.write ++ rest = tick :: (b.write ++ rest).tail := rfl
  rw [hwrite] at hblock ⊢
  rw [blocks_cons, hblock]

-- A block with another tag is passed over, but for its closing mark.
theorem blocks_write_of_unknown {b : Block} (h : b.isKnown = false) (rest : Text) :
    blocks (b.write ++ rest) = blocks (mark ++ rest) := by
  have hblock := block?_write b rest
  rw [h, write_append] at hblock
  rw [write_append, blocks_mark (head?_inside b _) (by simpa using hblock),
    blocks_append (tick_not_mem_inside b)]

-- A closing mark with a line end behind it is taken for an opening one.
theorem block?_writeProse (prose : Prose) (rest : Text) :
    block? (mark ++ (writeProse prose ++ rest)) = upToMark? (prose.val ++ rest) := by
  have hnone : IsTag [] := by simp [IsTag]
  have hopening := afterOpening?_mark hnone (prose.val ++ rest)
  rw [List.nil_append, if_pos (by decide)] at hopening
  rw [block?, writeProse, List.cons_append, hopening]
  rfl

theorem blocks_closing (closing : Option Prose) :
    blocks (mark ++ (closing.map writeProse).getD []) = [] := by
  cases closing with
  | none => decide
  | some prose =>
    have hblock : block? (mark ++ writeProse prose) = none := by
      have hprose := block?_writeProse prose []
      rw [List.append_nil, List.append_nil, upToMark?_eq_none prose.property] at hprose
      exact hprose
    have hrest := blocks_append (tick_not_mem_writeProse prose) []
    rw [List.append_nil] at hrest
    rw [Option.map_some, Option.getD_some, blocks_mark ?_ hblock, hrest]
    · rfl
    · simp [writeProse, show '\n' ≠ tick by decide]

-- From the closing mark of a block that was passed over, the prose up to the next block is taken,
-- and the opening mark of that block is its end.
theorem blocks_stray_write (prose : Prose) (b : Block) (behind : Text) :
    blocks (mark ++ (writeProse prose ++ (b.write ++ behind))) =
      prose.val :: blocks (mark ++ behind) := by
  have hblock := block?_writeProse prose (b.write ++ behind)
  have hmark (t : Text) : mark ++ t = tick :: (mark ++ t).tail := rfl
  rw [write_append, upToMark?_append prose.property, hmark] at hblock
  rw [write_append, hmark, blocks_cons, hblock]
  simp only
  rw [blocks_append (tick_not_mem_inside b)]

theorem blocks_stray (last : Block) (closing : Option Prose) (prose : Prose)
    (rest : List (Block × Prose)) :
    blocks (mark ++ (writeProse prose ++ writeFrom last closing rest)) =
      prose.val :: rest.map fun part => part.2.val := by
  induction rest generalizing prose with
  | nil => rw [writeFrom, blocks_stray_write, blocks_closing, List.map_nil]
  | cons part rest ih => rw [writeFrom, blocks_stray_write, ih, List.map_cons]

theorem blocks_writeFrom (last : Block) (closing : Option Prose) (parts : List (Block × Prose)) :
    blocks (writeFrom last closing parts) = takenFrom last parts := by
  induction parts with
  | nil =>
    rw [writeFrom, takenFrom]
    cases hknown : last.isKnown with
    | true =>
      have hbehind : tick ∉ (closing.map writeProse).getD [] := by
        cases closing with
        | none => simp
        | some prose => exact tick_not_mem_writeProse prose
      have hend := blocks_append hbehind []
      rw [List.append_nil] at hend
      rw [blocks_write_of_known hknown, hend, if_pos rfl]
      rfl
    | false => simp [blocks_write_of_unknown hknown, blocks_closing]
  | cons part rest ih =>
    obtain ⟨b, prose⟩ := part
    rw [writeFrom, takenFrom]
    cases hknown : b.isKnown with
    | true =>
      rw [blocks_write_of_known hknown, blocks_append (tick_not_mem_writeProse prose), ih,
        if_pos rfl]
    | false => simp [blocks_write_of_unknown hknown, blocks_stray]

theorem blocks_write (r : Response) : blocks r.write = r.taken := by
  rw [Response.write, blocks_append r.opening.property, blocks_writeFrom, Response.taken]

-- The line ends behind some code become one.
theorem settleEnd_append {code : Text} (h : code.getLast? ≠ some '\n') (breaks : Nat) :
    settleEnd (code ++ List.replicate breaks '\n') = code ++ ['\n'] := by
  have hmore (n : Nat) : dropRightWhile (· = '\n') (code ++ List.replicate n '\n') =
      dropRightWhile (· = '\n') code := by
    induction n with
    | zero => simp
    | succ n ih =>
      rw [List.replicate_succ', ← List.append_assoc, dropRightWhile_concat _ rfl, ih]
  have hcode : dropRightWhile (· = '\n') code = code :=
    dropRightWhile_of_getLast? fun c hc =>
      decide_eq_false fun hbreak : c = '\n' => h (hbreak ▸ hc)
  rw [settleEnd, hmore, hcode]

theorem settleEnd_body (b : Block) : settleEnd b.body = b.code ++ ['\n'] :=
  settleEnd_append b.noBreak _

-- With a known tag on each block but perhaps the last, all blocks with a known tag are taken.
theorem takenFrom_of_known (last : Block) {parts : List (Block × Prose)}
    (h : ∀ part ∈ parts, part.1.isKnown = true) :
    takenFrom last parts =
      ((parts.map Prod.fst ++ [last]).filter Block.isKnown).map Block.body := by
  induction parts with
  | nil => cases hlast : last.isKnown <;> simp [takenFrom, hlast]
  | cons part parts ih =>
    obtain ⟨hknown, hothers⟩ := List.forall_mem_cons.mp h
    simp [takenFrom, hknown, ih hothers]

namespace Response

-- What a response is written for: the code of the blocks with a known tag.
def known (r : Response) : List Text :=
  (r.blocks.filter Block.isKnown).map fun b => b.code ++ ['\n']

end Response

-- A response gives what is taken from it, in all cases, and that is the code of the blocks with a
-- known tag where only the last block may have another one.
theorem unwrap_write (r : Response) :
    unwrap r.write =
        (if r.taken = [] then r.write else joinWith ['\n'] (r.taken.map settleEnd)) ∧
      ((∀ part ∈ r.inner, part.1.isKnown = true) →
        unwrap r.write = if r.known = [] then r.write else joinWith ['\n'] r.known) := by
  have htaken : unwrap r.write =
      if r.taken = [] then r.write else joinWith ['\n'] (r.taken.map settleEnd) := by
    rw [unwrap, blocks_write]
    cases r.taken <;> rfl
  refine ⟨htaken, fun h => ?_⟩
  have hknown : r.taken.map settleEnd = r.known := by
    rw [Response.taken, takenFrom_of_known r.last h, List.map_map]
    exact List.map_congr_left fun b _ => settleEnd_body b
  have hnone : r.taken = [] ↔ r.known = [] := by rw [← hknown, List.map_eq_nil_iff]
  simp only [htaken, hknown, hnone]

-- A response with a block in another language before the one that is wanted.
def mixed : Response where
  opening := ⟨"In short:\n".toList, by decide⟩
  inner := [({
    tag := "js".toList, code := "let a = 1".toList, moreBreaks := 0
    isTag := by decide, noTick := by decide, noBreak := by decide },
    ⟨"and in Python\n".toList, by decide⟩)]
  last := {
    tag := "python".toList, code := "a = 1".toList, moreBreaks := 1
    isTag := by decide, noTick := by decide, noBreak := by decide }
  closing := some ⟨"Done.\n".toList, by decide⟩

-- The same blocks the other way round.
def mixedBack : Response :=
  { mixed with
    inner := [(mixed.last, ⟨"and in a browser\n".toList, by decide⟩)]
    last := (mixed.inner.map Prod.fst).head (by decide) }

theorem unwrap_mixedBack :
    (∀ part ∈ mixedBack.inner, part.1.isKnown = true) ∧
      unwrap mixedBack.write = "a = 1\n".toList := by
  have hknown : ∀ part ∈ mixedBack.inner, part.1.isKnown = true := by decide
  have hunwrap := (unwrap_write mixedBack).2 hknown
  have hcode : (if mixedBack.known = [] then mixedBack.write else joinWith ['\n'] mixedBack.known) =
      "a = 1\n".toList := by decide
  exact ⟨hknown, hunwrap.trans hcode⟩

-- Prose is taken where the wanted code stands in the last block.
theorem unwrap_mixed :
    mixed.known = ["a = 1\n".toList] ∧ unwrap mixed.write = "and in Python\n".toList := by
  decide +kernel

end Ghostwriter.Fence

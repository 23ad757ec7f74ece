import Ghostwriter.Proofs.Directive.Found
import Ghostwriter.Proofs.Lexeme.Layout
import Mathlib.Algebra.Ring.Int.Defs
import Mathlib.Data.List.Chain
import Mathlib.Data.List.Infix

/-!
Which lines of a text are directives: the search returns the site of each line that is one.
-/

namespace Ghostwriter.Directive

open Ghostwriter.Lexeme Ghostwriter.Text

-- The brackets that lexemes open and do not close.
def depth (lexemes : List Lexeme) : Int := (lexemes.map Lexeme.depthChange).sum

@[simp] theorem depth_nil : depth [] = 0 := rfl

@[simp] theorem depth_cons (l : Lexeme) (lexemes : List Lexeme) :
    depth (l :: lexemes) = l.depthChange + depth lexemes := by
  simp [depth]

-- No bracket is closed that is not open.
def Nested (outer : Int) (lexemes : List Lexeme) : Prop :=
  ∀ before, before <+: lexemes → 0 ≤ outer + depth before

instance (outer : Int) (lexemes : List Lexeme) : Decidable (Nested outer lexemes) :=
  decidable_of_iff (∀ before ∈ lexemes.inits, 0 ≤ outer + depth before) (by simp [Nested])

-- The lines of lexemes, each with the lexeme that ends it. What ends a line may depend on the
-- bracket depth and on what follows.
def linesFrom (ends : Int → Lexeme → List Lexeme → Bool) :
    Int → List Lexeme → List (List Lexeme)
  | _, [] => []
  | outer, l :: rest =>
    let behind := linesFrom ends (outer + l.depthChange) rest
    if ends outer l rest then [l] :: behind
    else
      match behind with
      | [] => [[l]]
      | first :: others => (l :: first) :: others

def logicalLines (lexemes : List Lexeme) : List (List Lexeme) :=
  linesFrom (fun _ l _ => l.kind = .newline) 0 lexemes

-- A broken string ends a line too, if it stands outside of brackets and layout follows.
def endsLine (outer : Int) (l : Lexeme) (rest : List Lexeme) : Bool :=
  l.kind = .newline || (outer = 0 && l.isBroken && startsLeading rest)

def statements (lexemes : List Lexeme) : List (List Lexeme) := linesFrom endsLine 0 lexemes

-- The end of a line or of the file.
def isEnd (lexemes : List Lexeme) : Bool :=
  match lexemes with
  | [l] => l.kind = .newline || l.kind = .endMarker
  | _ => false

-- The same, where the end of the file can close blocks.
def isEndOfBlock (lexemes : List Lexeme) : Bool := isEnd (lexemes.dropWhile (·.kind = .dedent))

-- An end, with a comment before it or not.
def isTail (ends : List Lexeme → Bool) (lexemes : List Lexeme) : Bool :=
  match lexemes with
  | [] => false
  | l :: rest => if l.kind = .comment then ends rest else ends (l :: rest)

-- The site of a line that is a directive.
def directive? (ends : List Lexeme → Bool) (path : Path) (rows bound : List Text)
    (line : List Lexeme) : Option Site :=
  match line.dropWhile isLeading with
  | name :: opener :: body =>
    if name.kind = .name && EntryPoint.isName name.text && !bound.contains name.text &&
        opener.isOperator ['('] then
      match closing? 1 body with
      | some (closer, tail) =>
        if isTail ends tail then some (siteOf path rows name opener closer) else none
      | none => none
    else none
  | _ => none

section

variable {outer : Int} {l : Lexeme} {lexemes rest : List Lexeme}

theorem Nested.nonneg (h : Nested outer lexemes) : 0 ≤ outer := by
  simpa using h [] List.nil_prefix

theorem nested_cons :
    Nested outer (l :: rest) ↔ 0 ≤ outer ∧ Nested (outer + l.depthChange) rest := by
  constructor
  · intro h
    refine ⟨h.nonneg, fun before hprefix => ?_⟩
    have := h (l :: before) (List.cons_prefix_cons.mpr ⟨rfl, hprefix⟩)
    rwa [depth_cons, ← Int.add_assoc] at this
  · rintro ⟨hnonneg, hrest⟩ before hprefix
    cases before with
    | nil => simpa using hnonneg
    | cons l' before =>
      obtain ⟨rfl, hbefore⟩ := List.cons_prefix_cons.mp hprefix
      rw [depth_cons, ← Int.add_assoc]
      exact hrest before hbefore

theorem Nested.tail (h : Nested outer (l :: rest)) : Nested (outer + l.depthChange) rest :=
  (nested_cons.mp h).2

theorem Nested.behind {before : List Lexeme} (h : Nested outer (before ++ rest)) :
    Nested (outer + depth before) rest := by
  induction before generalizing outer with
  | nil => simpa using h
  | cons l before ih =>
    rw [depth_cons, ← Int.add_assoc]
    exact ih h.tail

theorem depthChange_cases (l : Lexeme) :
    l.depthChange = 1 ∨ l.depthChange = 0 ∨ (l.depthChange = -1 ∧ l.closes = true) := by
  unfold Lexeme.depthChange
  split_ifs with hopens hcloses
  · exact .inl rfl
  · exact .inr (.inr ⟨rfl, hcloses⟩)
  · exact .inr (.inl rfl)

theorem depthChange_of_closes (h : l.closes = true) : l.depthChange = -1 := by
  have hopens : l.opens = false := by
    simp only [Lexeme.closes, Lexeme.isOperator, Bool.or_eq_true, Bool.and_eq_true, beq_iff_eq] at h
    rcases h with (⟨-, htext⟩ | ⟨-, htext⟩) | ⟨-, htext⟩ <;>
      simp [Lexeme.opens, Lexeme.isOperator, htext]
  simp [Lexeme.depthChange, hopens, h]

-- What is behind a bracket that does not close all is still inside.
theorem inside_of_not_closes (h : 0 < outer)
    (hcloses : ¬ (l.closes && decide (outer + l.depthChange = 0)) = true) :
    0 < outer + l.depthChange := by
  rcases depthChange_cases l with hchange | hchange | ⟨hchange, hl⟩
  · omega
  · omega
  · have hne : outer + l.depthChange ≠ 0 := by simpa [hl] using hcloses
    omega

-- The bracket that closes is the first one behind which no more is open than before.
theorem closing?_eq_some_iff {closer : Lexeme} {tail : List Lexeme} (h : 0 < outer) :
    closing? outer lexemes = some (closer, tail) ↔
      ∃ within, lexemes = within ++ closer :: tail ∧ Nested (outer - 1) within ∧
        outer + depth within + closer.depthChange = 0 := by
  induction lexemes generalizing outer with
  | nil => simp [closing?]
  | cons l lexemes ih =>
    unfold closing?
    split_ifs with hcloses
    · simp only [Bool.and_eq_true, decide_eq_true_eq] at hcloses
      constructor
      · intro heq
        cases heq
        exact ⟨[], rfl, by simpa [Nested] using by omega, by simpa using hcloses.2⟩
      · rintro ⟨within, heq, hnested, -⟩
        cases within with
        | nil =>
          cases heq
          rfl
        | cons l' within =>
          cases heq
          have := hnested.tail.nonneg
          omega
    · have hshift : outer - 1 + l.depthChange = outer + l.depthChange - 1 := by omega
      rw [ih (inside_of_not_closes h hcloses)]
      constructor
      · rintro ⟨within, rfl, hnested, hzero⟩
        refine ⟨l :: within, rfl, nested_cons.mpr ⟨by omega, ?_⟩, by rw [depth_cons]; omega⟩
        rwa [hshift]
      · rintro ⟨within, heq, hnested, hzero⟩
        cases within with
        | nil =>
          cases heq
          have := inside_of_not_closes h hcloses
          simp only [depth_nil, Int.add_zero] at hzero
          omega
        | cons l' within =>
          cases heq
          refine ⟨within, rfl, ?_, by rw [depth_cons] at hzero; omega⟩
          rw [← hshift]
          exact hnested.tail

theorem linesFrom_ne_nil {ends : Int → Lexeme → List Lexeme → Bool} (h : lexemes ≠ []) :
    linesFrom ends outer lexemes ≠ [] := by
  cases lexemes with
  | nil => exact absurd rfl h
  | cons l rest =>
    simp only [linesFrom]
    split_ifs
    · simp
    · split <;> simp

theorem linesFrom_cons {ends : Int → Lexeme → List Lexeme → Bool} (h : rest ≠ [])
    (hends : ends outer l rest = false) :
    linesFrom ends outer (l :: rest) =
      (linesFrom ends (outer + l.depthChange) rest).modifyHead (l :: ·) := by
  simp only [linesFrom, hends, Bool.false_eq_true, if_false]
  cases hlines : linesFrom ends (outer + l.depthChange) rest with
  | nil => exact absurd hlines (linesFrom_ne_nil h)
  | cons first others => rfl

theorem endsLine_of_kind (h : l.kind ≠ .newline) (hbroken : l.kind ≠ .stray) :
    endsLine outer l rest = false := by
  simp [endsLine, Lexeme.isBroken, h, hbroken]

-- Everything up to the closing bracket is within one line.
structure Encloses (outer level : Int) (lexemes : List Lexeme) (within : List Lexeme)
    (closer : Lexeme) (behind : List Lexeme) : Prop where
  closing : closing? level lexemes = some (closer, behind)
  split : lexemes = within ++ closer :: behind
  laid : Laid (outer - level) false behind
  lines : linesFrom endsLine outer lexemes =
    (linesFrom endsLine (outer - level) behind).modifyHead (within ++ closer :: ·)

theorem Encloses.cons {level : Int} {within behind : List Lexeme} {closer : Lexeme}
    (h : Encloses (outer + l.depthChange) (level + l.depthChange) rest within closer behind)
    (hnot : ¬ (l.closes && decide (level + l.depthChange = 0)) = true)
    (hends : endsLine outer l rest = false) :
    Encloses outer level (l :: rest) (l :: within) closer behind := by
  obtain ⟨hclosing, hsplit, hlaid, hlines⟩ := h
  rw [Int.add_sub_add_right] at hlaid hlines
  refine ⟨?_, by rw [hsplit]; rfl, hlaid, ?_⟩
  · rw [closing?, if_neg hnot, hclosing]
  · rw [linesFrom_cons (by simp [hsplit]) hends, hlines, List.modifyHead_modifyHead]
    rfl

theorem exists_encloses {level : Int} {fresh : Bool} (hlaid : Laid outer fresh lexemes)
    (hlevel : 0 < level) (hle : level ≤ outer) :
    ∃ within closer behind, Encloses outer level lexemes within closer behind := by
  induction hlaid generalizing level with
  | newline _ hdepth => omega
  | endMarker => omega
  | @content depth fresh l rest hkind hrest ih =>
    have hends : endsLine depth l rest = false := by
      have hnewline : l.kind ≠ .newline := by rcases hkind with h | h | h | h | h <;> simp [h]
      have hdepth : depth ≠ 0 := by omega
      simp [endsLine, hnewline, hdepth]
    by_cases hcloses : (l.closes && decide (level + l.depthChange = 0)) = true
    · have hfound := Bool.and_eq_true_iff.mp hcloses
      have hchange := depthChange_of_closes hfound.1
      have hzero : level + l.depthChange = 0 := of_decide_eq_true hfound.2
      have hlevel : depth - level = depth + l.depthChange := by omega
      have hbroken : l.isBroken = false := by
        have hoperator : l.kind = .operator := by
          by_contra hne
          rw [depthChange_of_kind hne] at hchange
          omega
        simp [Lexeme.isBroken, hoperator]
      refine ⟨[], l, rest, ?_, rfl, ?_, ?_⟩
      · rw [closing?, if_pos hcloses]
      · rwa [hlevel, ← Bool.false_and, ← hbroken]
      · rw [hlevel]
        exact linesFrom_cons hrest.ne_nil hends
    · obtain ⟨within, closer, behind, h⟩ := ih (inside_of_not_closes hlevel hcloses) (by omega)
      exact ⟨l :: within, closer, behind, h.cons hcloses hends⟩
  | @lineBreak _ _ l _ hkind _ _ ih | @comment _ _ l _ hkind _ _ ih | @indent _ l _ hkind _ ih
  | @dedent _ l _ hkind _ ih | @close _ _ l _ hkind _ _ ih =>
    have hchange : l.depthChange = 0 := depthChange_of_kind (by simp [hkind])
    have hcloses : l.closes = false := by simp [Lexeme.closes, Lexeme.isOperator, hkind]
    obtain ⟨within, closer, behind, h⟩ := ih hlevel hle
    refine ⟨l :: within, closer, behind, Encloses.cons ?_ ?_ ?_⟩
    · rwa [hchange, Int.add_zero, Int.add_zero]
    · simp [hcloses]
    · exact endsLine_of_kind (by simp [hkind]) (by simp [hkind])

theorem endsStatement_of_kind (h : l.kind ≠ .newline) (hend : l.kind ≠ .endMarker)
    (htrivia : isTrivia l = false) : endsStatement (l :: rest) = false := by
  simp [endsStatement, htrivia, h, hend]

theorem endsStatement_of_isTrivia (h : isTrivia l = true) :
    endsStatement (l :: rest) = endsStatement rest := by
  simp [endsStatement, h]

theorem isEnd_of_kind (h : l.kind ≠ .newline) (hend : l.kind ≠ .endMarker) :
    isEnd (l :: rest) = false := by
  cases rest <;> simp [isEnd, h, hend]

-- Behind a directive within brackets.
theorem endsStatement_inside {fresh : Bool} (hlaid : Laid outer fresh lexemes) (h : 0 < outer) :
    endsStatement lexemes = false := by
  induction hlaid with
  | newline _ hdepth => omega
  | endMarker => omega
  | lineBreak hkind _ _ ih | comment hkind _ _ ih =>
    rw [endsStatement_of_isTrivia (by simp [isTrivia, hkind])]
    exact ih h
  | content hkind =>
    rcases hkind with h | h | h | h | h <;>
      exact endsStatement_of_kind (by simp [h]) (by simp [h]) (by simp [isTrivia, h])
  | indent hkind | dedent hkind | close hkind =>
    exact endsStatement_of_kind (by simp [hkind]) (by simp [hkind]) (by simp [isTrivia, hkind])

theorem exists_linesFrom (ends : Int → Lexeme → List Lexeme → Bool) (outer : Int) (l : Lexeme)
    (rest : List Lexeme) :
    ∃ more others, linesFrom ends outer (l :: rest) = (l :: more) :: others ∧
      (more = [] ∨ more.head? = rest.head?) := by
  by_cases hends : ends outer l rest = true
  · exact ⟨[], _, by simp only [linesFrom, hends, if_true]; rfl, .inl rfl⟩
  · cases rest with
    | nil => exact ⟨[], [], by simp [linesFrom], .inl rfl⟩
    | cons next rest =>
      obtain ⟨more, others, hlines, -⟩ :=
        exists_linesFrom ends (outer + l.depthChange) next rest
      refine ⟨next :: more, others, ?_, .inr rfl⟩
      rw [linesFrom_cons (by simp) (by simpa using hends), hlines]
      rfl

-- What is left of the line behind a directive that is not within brackets, and behind its comment.
theorem endsStatement_eq_isEnd (hlaid : Laid 0 false lexemes)
    (hhead : ∀ l ∈ lexemes.head?, l.kind ≠ .comment) :
    ∃ l more others, linesFrom endsLine 0 lexemes = (l :: more) :: others ∧
      l.kind ≠ .comment ∧ endsStatement lexemes = isEnd (l :: more) := by
  -- neither is an end
  have hother {l : Lexeme} {rest : List Lexeme} (h : l.kind ≠ .newline) (hend : l.kind ≠ .endMarker)
      (htrivia : isTrivia l = false) : ∃ l' more others,
        linesFrom endsLine 0 (l :: rest) = (l' :: more) :: others ∧
        l'.kind ≠ .comment ∧ endsStatement (l :: rest) = isEnd (l' :: more) := by
    obtain ⟨more, others, hlines, -⟩ := exists_linesFrom endsLine 0 l rest
    refine ⟨l, more, others, hlines, ?_, ?_⟩
    · rintro hkind
      simp [isTrivia, hkind] at htrivia
    · rw [endsStatement_of_kind h hend htrivia, isEnd_of_kind h hend]
  cases hlaid with
  | @newline _ _ l rest hkind =>
    refine ⟨l, [], _, by simp only [linesFrom, endsLine, hkind]; rfl, by simp [hkind], ?_⟩
    simp [endsStatement, isTrivia, isEnd, hkind]
  | @endMarker _ l hkind =>
    refine ⟨l, [], [], by simp [linesFrom], by simp [hkind], ?_⟩
    simp [endsStatement, isTrivia, isEnd, hkind]
  | lineBreak _ hfresh => simp at hfresh
  | comment hkind => exact absurd hkind (hhead _ rfl)
  | content hkind =>
    rcases hkind with h | h | h | h | h <;>
      exact hother (by simp [h]) (by simp [h]) (by simp [isTrivia, h])
  | close hkind => exact hother (by simp [hkind]) (by simp [hkind]) (by simp [isTrivia, hkind])

theorem endsStatement_eq_isTail (hlaid : Laid 0 false lexemes) :
    ∃ first others, linesFrom endsLine 0 lexemes = first :: others ∧
      endsStatement lexemes = isTail isEnd first := by
  by_cases hhead : ∀ l ∈ lexemes.head?, l.kind ≠ .comment
  · obtain ⟨l, more, others, hlines, hkind, hends⟩ := endsStatement_eq_isEnd hlaid hhead
    exact ⟨l :: more, others, hlines, by rw [hends, isTail, if_neg hkind]⟩
  · cases hlaid with
    | @comment _ _ c rest hkind hnext hrest =>
      obtain ⟨l, more, others, hlines, -, hends⟩ :=
        endsStatement_eq_isEnd hrest fun l hl => (hnext l hl).2
      refine ⟨c :: l :: more, others, ?_, ?_⟩
      · rw [linesFrom_cons hrest.ne_nil (endsLine_of_kind (by simp [hkind]) (by simp [hkind])),
          depthChange_of_kind (by simp [hkind]), Int.add_zero, hlines]
        rfl
      · rw [endsStatement_of_isTrivia (by simp [isTrivia, hkind]), hends, isTail, if_pos hkind]
    | newline hkind | lineBreak hkind | close hkind | endMarker hkind =>
      exact absurd (by simp [hkind]) hhead
    | content hkind =>
      refine absurd ?_ hhead
      rintro _ ⟨⟩
      rcases hkind with h | h | h | h | h <;> simp [h]

end

section

variable {ends : List Lexeme → Bool} {path : Path} {rows bound : List Text}

theorem directive?_eq_some_iff {line : List Lexeme} {site : Site} :
    directive? ends path rows bound line = some site ↔
      ∃ leading name opener within closer tail,
        line = leading ++ name :: opener :: (within ++ closer :: tail) ∧
        (∀ l ∈ leading, l.isLeading = true) ∧ name.kind = .name ∧
        EntryPoint.isName name.text = true ∧ name.text ∉ bound ∧
        opener.isOperator ['('] = true ∧ Nested 0 within ∧
        1 + depth within + closer.depthChange = 0 ∧ isTail ends tail = true ∧
        site = siteOf path rows name opener closer := by
  constructor
  · intro h
    unfold directive? at h
    have hsplit := List.takeWhile_append_dropWhile (p := isLeading) (l := line)
    split at h
    · rename_i name opener body hline
      split_ifs at h with hhead
      simp only [Bool.and_eq_true, decide_eq_true_eq, Bool.not_eq_true', List.contains_eq_mem,
        decide_eq_false_iff_not] at hhead
      obtain ⟨⟨⟨hkind, hname⟩, hbound⟩, hopener⟩ := hhead
      split at h
      · rename_i closer tail hclosing
        split_ifs at h with htail
        obtain ⟨within, rfl, hnested, hzero⟩ := (closing?_eq_some_iff (by decide)).mp hclosing
        refine ⟨line.takeWhile isLeading, name, opener, within, closer, tail, ?_, ?_, hkind, hname, hbound, hopener,
          hnested, hzero, htail, (Option.some.inj h).symm⟩
        · rw [← hline]
          exact hsplit.symm
        · exact fun l hl => List.mem_takeWhile_imp hl
      · cases h
    · cases h
  · rintro ⟨leading, name, opener, within, closer, tail, rfl, hleading, hkind, hname, hbound,
      hopener, hnested, hzero, htail, rfl⟩
    have hclosing : closing? 1 (within ++ closer :: tail) = some (closer, tail) :=
      (closing?_eq_some_iff (by decide)).mpr ⟨within, rfl, hnested, hzero⟩
    have hdrop : (leading ++ name :: opener :: (within ++ closer :: tail)).dropWhile isLeading =
        name :: opener :: (within ++ closer :: tail) := by
      rw [List.dropWhile_append_of_pos hleading]
      simp [isLeading, hkind]
    simp [directive?, hdrop, hkind, hname, hbound, hopener, hclosing, htail]

variable {outer : Int} {fresh : Bool} {l : Lexeme} {lexemes rest : List Lexeme}
  {before : Option Lexeme} {fuel : Nat}

theorem directive?_of_isLeading {line : List Lexeme} (h : l.isLeading = true) :
    directive? ends path rows bound (l :: line) = directive? ends path rows bound line := by
  simp [directive?, h]

theorem directive?_singleton : directive? ends path rows bound [l] = none := by
  by_cases h : l.isLeading = true <;> simp [directive?, h]

-- A line whose first word begins no directive.
theorem directive?_eq_none {line : List Lexeme} (hleading : l.isLeading = false)
    (hstart : l.kind = .name → startsLine before = true)
    (hbegins : begins bound before l line.head? = false) :
    directive? ends path rows bound (l :: line) = none := by
  cases line with
  | nil => exact directive?_singleton
  | cons opener body =>
    simp only [directive?, List.dropWhile_cons_of_neg (by simp [hleading] : ¬ l.isLeading = true)]
    rw [if_neg]
    intro h
    simp only [Bool.and_eq_true, decide_eq_true_eq] at h
    obtain ⟨⟨⟨hkind, hname⟩, hbound⟩, hopener⟩ := h
    simp [begins, hkind, hname, hstart hkind, hopener] at hbegins
    simp [hbegins] at hbound

theorem directive?_of_begins {name opener closer : Lexeme} {within behind more : List Lexeme}
    (hbegins : begins bound before name (some opener) = true)
    (hclosing : closing? 1 (within ++ closer :: behind) = some (closer, behind)) :
    directive? ends path rows bound (name :: opener :: (within ++ closer :: more)) =
      if isTail ends more then some (siteOf path rows name opener closer) else none := by
  obtain ⟨within', hsplit, hnested, hzero⟩ := (closing?_eq_some_iff (by decide)).mp hclosing
  obtain rfl := List.append_cancel_right hsplit
  have hmore : closing? 1 (within ++ closer :: more) = some (closer, more) :=
    (closing?_eq_some_iff (by decide)).mpr ⟨within, rfl, hnested, hzero⟩
  simp only [begins, Bool.and_eq_true, decide_eq_true_eq, Option.any_some] at hbegins
  obtain ⟨⟨⟨⟨hkind, hname⟩, hbound⟩, -⟩, hopener⟩ := hbegins
  have hleading : ¬ name.isLeading = true := by simp [Lexeme.isLeading, hkind]
  simp only [directive?, List.dropWhile_cons_of_neg hleading, hkind, hname, hbound, hopener,
    hmore, decide_true, Bool.and_self, if_true]

theorem sitesUpTo_of_not_begins (hne : rest ≠ [])
    (h : begins bound before l rest.head? = false) :
    sitesUpTo path rows bound (fuel + 1) before (l :: rest) =
      sitesUpTo path rows bound fuel (some l) rest := by
  obtain ⟨opener, body, rfl⟩ := List.exists_cons_of_ne_nil hne
  simp only [List.head?_cons] at h
  simp [sitesUpTo, h]

-- The lines that can be directives: not one that has begun, or that is within brackets.
def pending (outer : Int) (fresh : Bool) (lexemes : List Lexeme) : List (List Lexeme) :=
  if outer = 0 && fresh then linesFrom endsLine outer lexemes
  else (linesFrom endsLine outer lexemes).tail

theorem pending_of_isLeading (hleading : l.isLeading = true) (hne : rest ≠ []) :
    (pending outer fresh (l :: rest)).filterMap (directive? isEnd path rows bound) =
      (pending outer fresh rest).filterMap (directive? isEnd path rows bound) := by
  have hkind : l.kind ≠ .operator ∧ l.kind ≠ .newline ∧ l.kind ≠ .stray := by
    refine ⟨?_, ?_, ?_⟩ <;> intro h <;> simp [Lexeme.isLeading, h] at hleading
  have hlines := @linesFrom_cons outer l rest endsLine hne (endsLine_of_kind hkind.2.1 hkind.2.2)
  rw [depthChange_of_kind hkind.1, Int.add_zero] at hlines
  obtain ⟨first, others, hrest⟩ :=
    List.exists_cons_of_ne_nil (@linesFrom_ne_nil outer rest endsLine hne)
  rw [hrest, List.modifyHead_cons] at hlines
  unfold pending
  rw [hlines, hrest]
  split_ifs
  · simp only [List.filterMap_cons, directive?_of_isLeading hleading]
  · rfl

-- A directive, or what looks like one within brackets or in front of other words.
theorem pending_of_begins {name opener closer : Lexeme} {within behind : List Lexeme}
    (hbegins : begins bound before name (some opener) = true)
    (hlaid : Laid outer false behind) (hnonneg : 0 ≤ outer) (hfresh : outer = 0 → fresh = true)
    (hclosing : closing? 1 (within ++ closer :: behind) = some (closer, behind))
    (hlines : linesFrom endsLine outer (name :: opener :: (within ++ closer :: behind)) =
      (linesFrom endsLine outer behind).modifyHead (name :: opener :: within ++ closer :: ·)) :
    (pending outer fresh (name :: opener :: (within ++ closer :: behind))).filterMap
        (directive? isEnd path rows bound) =
      (if endsStatement behind then [siteOf path rows name opener closer] else []) ++
        (pending outer false behind).filterMap (directive? isEnd path rows bound) := by
  simp only [pending, hlines, Bool.and_false, Bool.false_eq_true, if_false]
  by_cases hzero : outer = 0
  · subst hzero
    obtain ⟨first, others, hbehind, hends⟩ := endsStatement_eq_isTail hlaid
    rw [hbehind, hends, hfresh rfl]
    simp only [decide_true, Bool.and_self, if_true, List.modifyHead_cons, List.filterMap_cons,
      List.cons_append, directive?_of_begins hbegins hclosing, List.tail_cons]
    split_ifs <;> rfl
  · rw [endsStatement_inside hlaid (by omega)]
    simp [hzero]

-- The lexemes from the name of a directive to its closing bracket.
theorem exists_span {name opener : Lexeme} {body : List Lexeme}
    (hlaid : Laid (outer + name.depthChange) fresh (opener :: body))
    (hnested : Nested outer (name :: opener :: body))
    (hbegins : begins bound before name (some opener) = true) :
    ∃ within closer behind, body = within ++ closer :: behind ∧
      closing? 1 body = some (closer, behind) ∧ startsLine (some closer) = false ∧
      Laid outer false behind ∧ Nested outer behind ∧
      linesFrom endsLine outer (name :: opener :: (within ++ closer :: behind)) =
        (linesFrom endsLine outer behind).modifyHead (name :: opener :: within ++ closer :: ·) := by
  simp only [begins, Bool.and_eq_true, decide_eq_true_eq, Option.any_some] at hbegins
  obtain ⟨⟨⟨⟨hname, -⟩, -⟩, -⟩, hopener⟩ := hbegins
  have hkind : opener.kind = .operator := by
    simp only [Lexeme.isOperator, Bool.and_eq_true, beq_iff_eq] at hopener
    exact hopener.1
  have hchange : opener.depthChange = 1 := by simp [Lexeme.depthChange, Lexeme.opens, hopener]
  have hnonneg := hnested.nonneg
  have hbody : Nested (outer + 1) body := by
    have := hnested.tail.tail
    rwa [depthChange_of_kind (by simp [hname]), Int.add_zero, hchange] at this
  rw [depthChange_of_kind (by simp [hname]), Int.add_zero] at hlaid
  cases hlaid with
  | content _ hlaid =>
    rw [hchange] at hlaid
    obtain ⟨within, closer, behind, hencloses⟩ :=
      exists_encloses hlaid (by decide : (0 : Int) < 1) (by omega)
    have hlines := hencloses.lines
    have hbehind := hencloses.laid
    rw [Int.add_sub_cancel] at hlines hbehind
    obtain ⟨within', hsplit, -, hzero⟩ :=
      (closing?_eq_some_iff (by decide)).mp hencloses.closing
    obtain rfl := List.append_cancel_right (hencloses.split.symm.trans hsplit)
    refine ⟨within, closer, behind, hsplit, hencloses.closing, ?_, hbehind, ?_, ?_⟩
    · have hcloses := closes_cases (closing?_spec hencloses.closing).1
      simp [startsLine, precedesLine, hcloses.1]
    · have hrest := (hsplit ▸ hbody).behind.tail
      rwa [show outer + 1 + depth within + closer.depthChange = outer by omega] at hrest
    · rw [← hsplit, linesFrom_cons (by simp) (endsLine_of_kind (by simp [hname]) (by simp [hname])),
        depthChange_of_kind (by simp [hname]), Int.add_zero,
        linesFrom_cons hlaid.ne_nil (endsLine_of_kind (by simp [hkind]) (by simp [hkind])), hchange,
        hlines, List.modifyHead_modifyHead, List.modifyHead_modifyHead]
      rfl
  | newline h | lineBreak h | comment h | indent h | dedent h | close h | endMarker h =>
    rw [hkind] at h
    cases h

theorem pending_of_content (hkind : IsContent l.kind) (hne : rest ≠ [])
    (hstart : outer = 0 → l.kind = .name → startsLine before = fresh)
    (hbegins : begins bound before l rest.head? = false) :
    (pending outer fresh (l :: rest)).filterMap (directive? isEnd path rows bound) =
      (pending (outer + l.depthChange) (l.isBroken && startsLeading rest) rest).filterMap
        (directive? isEnd path rows bound) := by
  obtain ⟨more, others, hlines, hmore⟩ := exists_linesFrom endsLine outer l rest
  have hfirst : outer = 0 → fresh = true → directive? isEnd path rows bound (l :: more) = none := by
    intro hzero hfresh
    refine directive?_eq_none ?_ (fun hname => (hstart hzero hname).trans hfresh) ?_
    · rcases hkind with h | h | h | h | h <;> simp [Lexeme.isLeading, h]
    · rcases hmore with rfl | hmore
      · simp [begins]
      · rw [hmore, hbegins]
  have htail : (pending outer fresh (l :: rest)).filterMap (directive? isEnd path rows bound) =
      others.filterMap (directive? isEnd path rows bound) := by
    unfold pending
    split_ifs with h
    · simp only [Bool.and_eq_true, decide_eq_true_eq] at h
      rw [hlines, List.filterMap_cons, hfirst h.1 h.2]
    · rw [hlines]
      rfl
  rw [htail]
  have hnewline : l.kind ≠ .newline := by rcases hkind with h | h | h | h | h <;> simp [h]
  by_cases hends : endsLine outer l rest = true
  · have hothers : others = linesFrom endsLine (outer + l.depthChange) rest := by
      rw [linesFrom.eq_def] at hlines
      simp only [hends, if_true] at hlines
      exact (List.cons.inj hlines).2.symm
    simp only [endsLine, hnewline, decide_false, Bool.false_or, Bool.and_eq_true,
      decide_eq_true_eq] at hends
    obtain ⟨⟨hzero, hbroken⟩, hleading⟩ := hends
    simp [pending, hothers, hzero, hbroken, hleading, depthChange_of_isBroken hbroken]
  · have hothers : others = (linesFrom endsLine (outer + l.depthChange) rest).tail := by
      rw [linesFrom_cons hne (by simpa using hends)] at hlines
      obtain ⟨first, others', hrest⟩ := List.exists_cons_of_ne_nil
        (@linesFrom_ne_nil (outer + l.depthChange) rest endsLine hne)
      rw [hrest, List.modifyHead_cons] at hlines
      rw [hrest]
      exact (List.cons.inj hlines).2.symm
    rw [hothers, pending, if_neg]
    intro h
    simp only [Bool.and_eq_true, decide_eq_true_eq] at h
    obtain ⟨hzero, hbroken, hleading⟩ := h
    rw [depthChange_of_isBroken hbroken, Int.add_zero] at hzero
    exact hends (by simp [endsLine, hbroken, hleading, hzero])

-- The search from some place on.
theorem sitesUpTo_eq (hlaid : Laid outer fresh lexemes) (hnested : Nested outer lexemes)
    (hfuel : lexemes.length ≤ fuel)
    (hstart : outer = 0 → ∀ l ∈ lexemes.head?, l.kind = .name → startsLine before = fresh) :
    sitesUpTo path rows bound fuel before lexemes =
      .ok ((pending outer fresh lexemes).filterMap (directive? isEnd path rows bound)) := by
  induction fuel generalizing before lexemes outer fresh with
  | zero => exact absurd (List.length_eq_zero_iff.mp (by omega)) hlaid.ne_nil
  | succ fuel ih =>
    have hskip {l : Lexeme} {rest : List Lexeme} (hleading : l.isLeading = true)
        (hrest : Laid outer fresh rest) (hlexemes : lexemes = l :: rest)
        (hnext : outer = 0 → ∀ next ∈ rest.head?, next.kind = .name → startsLine (some l) = fresh) :
        sitesUpTo path rows bound (fuel + 1) before (l :: rest) =
          .ok ((pending outer fresh (l :: rest)).filterMap (directive? isEnd path rows bound)) := by
      have hkind : l.kind ≠ .operator ∧ l.kind ≠ .name := by
        refine ⟨?_, ?_⟩ <;> intro h <;> simp [Lexeme.isLeading, h] at hleading
      have htail := (hlexemes ▸ hnested).tail
      rw [depthChange_of_kind hkind.1, Int.add_zero] at htail
      rw [sitesUpTo_of_not_begins hrest.ne_nil (by simp [begins, hkind.2]),
        pending_of_isLeading hleading hrest.ne_nil]
      exact ih hrest htail (by simp [hlexemes] at hfuel; omega) hnext
    cases hlaid with
    | lineBreak hkind hfresh hrest =>
      refine hskip (by simp [Lexeme.isLeading, hkind]) hrest rfl fun hzero _ _ _ => ?_
      rw [hfresh.resolve_left (by omega)]
      simp [startsLine, precedesLine, hkind]
    | comment hkind hnext hrest =>
      exact hskip (by simp [Lexeme.isLeading, hkind]) hrest rfl
        fun _ next hmem hname => absurd hname (hnext next hmem).1
    | indent hkind hrest | dedent hkind hrest =>
      refine hskip (by simp [Lexeme.isLeading, hkind]) hrest rfl fun _ _ _ _ => ?_
      simp [startsLine, precedesLine, hkind]
    | close hkind hnext hrest =>
      refine hskip (by simp [Lexeme.isLeading, hkind]) hrest rfl fun _ next hmem hname => ?_
      rcases hnext next hmem with h | h <;> simp [h] at hname
    | @endMarker _ l hkind =>
      have hnone : (pending 0 fresh [l]).filterMap (directive? isEnd path rows bound) = [] := by
        unfold pending
        split_ifs <;> simp [linesFrom, directive?_singleton]
      rw [hnone]
      rfl
    | @newline _ _ l rest hkind hdepth hrest =>
      obtain rfl : outer = 0 := by
        have := hnested.nonneg
        omega
      have hchange : l.depthChange = 0 := depthChange_of_kind (by simp [hkind])
      have hlines : linesFrom endsLine 0 (l :: rest) = [l] :: linesFrom endsLine 0 rest := by
        simp [linesFrom, endsLine, hkind, hchange]
      have hpending : (pending 0 fresh (l :: rest)).filterMap (directive? isEnd path rows bound) =
          (pending 0 true rest).filterMap (directive? isEnd path rows bound) := by
        cases fresh <;> simp [pending, hlines, directive?_singleton]
      have htail := hnested.tail
      rw [hchange, Int.add_zero] at htail
      rw [sitesUpTo_of_not_begins hrest.ne_nil (by simp [begins, hkind]), hpending]
      refine ih hrest htail (by simpa using hfuel) fun _ _ _ _ => ?_
      simp [startsLine, precedesLine, hkind]
    | @content _ _ l rest hkind hrest =>
      have hstarts : outer = 0 → l.kind = .name → startsLine before = fresh := fun hzero =>
        hstart hzero l rfl
      by_cases hbegins : begins bound before l rest.head? = true
      · cases rest with
        | nil => exact absurd rfl hrest.ne_nil
        | cons opener body =>
          obtain ⟨within, closer, behind, rfl, hclosing, hcloser, hbehind, hnext, hlines⟩ :=
            exists_span hrest hnested hbegins
          rw [List.head?_cons] at hbegins
          have hfresh : outer = 0 → fresh = true := by
            intro hzero
            simp only [begins, Bool.and_eq_true, decide_eq_true_eq] at hbegins
            exact (hstarts hzero hbegins.1.1.1.1).symm.trans hbegins.1.2
          have hothers := ih hbehind hnext
            (by simp only [List.length_cons, List.length_append] at hfuel; omega)
            fun _ _ _ _ => hcloser
          rw [pending_of_begins hbegins hbehind hnested.nonneg hfresh hclosing hlines]
          simp only [sitesUpTo, hbegins, if_true, hclosing, hothers, bind, Except.bind]
          split_ifs <;> rfl
      · rw [sitesUpTo_of_not_begins hrest.ne_nil (by simpa using hbegins),
          pending_of_content hkind hrest.ne_nil hstarts (by simpa using hbegins)]
        refine ih hrest hnested.tail (by simpa using hfuel) fun _ next hmem hname => ?_
        have hleading : startsLeading rest = false := by
          simp [startsLeading, Option.mem_def.mp hmem, Lexeme.isLeading, hname]
        rw [hleading, Bool.and_false]
        rcases hkind with h | h | h | h | h <;> simp [startsLine, precedesLine, h]

end

-- No string is broken off outside of brackets, with layout behind it.
def Unbroken : Int → List Lexeme → Prop
  | _, [] => True
  | outer, l :: rest =>
    (outer = 0 → l.isBroken = true → startsLeading rest = false) ∧
      Unbroken (outer + l.depthChange) rest

instance : (outer : Int) → (lexemes : List Lexeme) → Decidable (Unbroken outer lexemes)
  | _, [] => .isTrue trivial
  | outer, l :: rest =>
    have := instDecidableUnbroken (outer + l.depthChange) rest
    inferInstanceAs (Decidable ((outer = 0 → l.isBroken = true → startsLeading rest = false) ∧
      Unbroken (outer + l.depthChange) rest))

-- No block is closed directly behind a bracket or a comment.
def EndsBlocks (lexemes : List Lexeme) : Prop :=
  lexemes.IsChain fun l next => next.kind = .dedent → l.closes = false ∧ l.kind ≠ .comment

instance (lexemes : List Lexeme) : Decidable (EndsBlocks lexemes) :=
  inferInstanceAs (Decidable (List.IsChain _ lexemes))

theorem linesFrom_of_unbroken {outer : Int} {lexemes : List Lexeme} (h : Unbroken outer lexemes) :
    linesFrom endsLine outer lexemes = linesFrom (fun _ l _ => l.kind = .newline) outer lexemes := by
  induction lexemes generalizing outer with
  | nil => rfl
  | cons l rest ih =>
    have hends : endsLine outer l rest = decide (l.kind = .newline) := by
      cases hbreak : (decide (outer = 0) && l.isBroken && startsLeading rest) with
      | false => rw [endsLine, hbreak, Bool.or_false]
      | true =>
        simp only [Bool.and_eq_true, decide_eq_true_eq] at hbreak
        rw [h.1 hbreak.1.1 hbreak.1.2] at hbreak
        cases hbreak.2
    simp only [linesFrom, hends, ih h.2]

theorem linesFrom_flatten {ends : Int → Lexeme → List Lexeme → Bool} {outer : Int}
    {lexemes : List Lexeme} : (linesFrom ends outer lexemes).flatten = lexemes := by
  induction lexemes generalizing outer with
  | nil => rfl
  | cons l rest ih =>
    have hrest := @ih (outer + l.depthChange)
    simp only [linesFrom]
    split_ifs
    · simp [hrest]
    · split
      · rename_i hnil
        rw [hnil] at hrest
        simp [← hrest]
      · rename_i first others hlines
        rw [hlines] at hrest
        simp [← hrest]

theorem isTail_isEndOfBlock {closer : Lexeme} {tail : List Lexeme} (hcloses : closer.closes = true)
    (h : EndsBlocks (closer :: tail)) : isTail isEndOfBlock tail = isTail isEnd tail := by
  have hsame {l : Lexeme} {rest : List Lexeme} (hkind : l.kind ≠ .dedent) :
      isEndOfBlock (l :: rest) = isEnd (l :: rest) := by
    rw [isEndOfBlock, List.dropWhile_cons_of_neg (by simpa using hkind)]
  cases tail with
  | nil => rfl
  | cons l rest =>
    obtain ⟨hl, hrest⟩ := List.isChain_cons_cons.mp h
    simp only [isTail]
    split_ifs with hcomment
    · cases rest with
      | nil => rfl
      | cons next rest =>
        exact hsame fun hkind => ((List.isChain_cons_cons.mp hrest).1 hkind).2 hcomment
    · refine hsame fun hkind => ?_
      rw [(hl hkind).1] at hcloses
      cases hcloses

theorem directive?_isEndOfBlock {path : Path} {rows bound : List Text} {line : List Lexeme}
    (h : EndsBlocks line) :
    directive? isEndOfBlock path rows bound line = directive? isEnd path rows bound line := by
  have hdrop : EndsBlocks (line.dropWhile isLeading) :=
    List.IsChain.infix h (List.dropWhile_suffix isLeading).isInfix
  unfold directive?
  split
  · rename_i name opener body hline
    rw [hline] at hdrop
    cases hclosing : closing? 1 body with
    | none => rfl
    | some found =>
      obtain ⟨closer, tail⟩ := found
      obtain ⟨hcloses, within, rfl⟩ := closing?_spec hclosing
      have htail : closer :: tail <:+: name :: opener :: (within ++ closer :: tail) :=
        ⟨name :: opener :: within, [], by simp⟩
      have hends : EndsBlocks (closer :: tail) := List.IsChain.infix hdrop htail
      simp only [isTail_isEndOfBlock hcloses hends]
  · rfl

-- The sites that are found are those of the lines that are directives, in their order.
theorem find_eq_directives {path : Path} {t : Text} {lexemes : List Lexeme}
    (hscan : scan t = .ok lexemes) (hnested : Nested 0 lexemes) :
    find path t = .ok ((statements lexemes).filterMap
        (directive? isEnd path (lines t) (boundNames lexemes))) ∧
      (Unbroken 0 lexemes → EndsBlocks lexemes →
        find path t = .ok ((logicalLines lexemes).filterMap
          (directive? isEndOfBlock path (lines t) (boundNames lexemes)))) := by
  have hfind : find path t = .ok ((statements lexemes).filterMap
      (directive? isEnd path (lines t) (boundNames lexemes))) := by
    rw [find, hscan]
    exact sitesUpTo_eq (laid_scan hscan) hnested (Nat.le_refl _) fun _ _ _ _ => rfl
  refine ⟨hfind, fun hunbroken hends => ?_⟩
  rw [hfind, statements, linesFrom_of_unbroken hunbroken]
  congr 1
  refine List.filterMap_congr fun line hline => (directive?_isEndOfBlock ?_).symm
  have hinfix := List.infix_of_mem_flatten hline
  rw [linesFrom_flatten] at hinfix
  exact List.IsChain.infix hends hinfix

def modulePath : Path := ⟨.relative, ["m.py".toList]⟩

-- A directive in a block, and what looks like one within brackets.
def blockText : Text := "if f(a,\nmagic()\n):\n    magic('b') # c\n".toList

theorem find_eq_directives_block :
    ∃ lexemes, scan blockText = .ok lexemes ∧ Nested 0 lexemes ∧ Unbroken 0 lexemes ∧
      EndsBlocks lexemes ∧
      find modulePath blockText = .ok ((logicalLines lexemes).filterMap
        (directive? isEndOfBlock modulePath (lines blockText) (boundNames lexemes))) ∧
      (find modulePath blockText).toOption.map (·.map Site.start) = some [⟨4, 4⟩] := by
  obtain ⟨lexemes, ⟨hscan, hnested, hunbroken, hends⟩, hstart⟩ :
      ∃ lexemes, (scan blockText = .ok lexemes ∧ Nested 0 lexemes ∧ Unbroken 0 lexemes ∧
        EndsBlocks lexemes) ∧
      (find modulePath blockText).toOption.map (·.map Site.start) = some [⟨4, 4⟩] :=
    ⟨(scan blockText).toOption.getD [], by decide +kernel⟩
  exact ⟨lexemes, hscan, hnested, hunbroken, hends,
    (find_eq_directives hscan hnested).2 hunbroken hends, hstart⟩

-- The last row begins with a hash sign within a string and has no line end.
def openEndText : Text := "if a:\n    magic(\"\"\"\n# prompt\"\"\")".toList

-- A string that lacks its quote over two rows, and an empty row.
def brokenText : Text := "'a\\\nb\n\nmagic()\n".toList

-- Without its two conditions the lines of a text do not tell its directives: one that ends a block
-- at the end of the file is lost, and one is found in the line that a broken string begins.
theorem find_ne_directives :
    (∃ lexemes, scan openEndText = .ok lexemes ∧ Nested 0 lexemes ∧
      (find modulePath openEndText).toOption = some [] ∧
      ((logicalLines lexemes).filterMap (directive? isEndOfBlock modulePath (lines openEndText)
        (boundNames lexemes))).map Site.start = [⟨2, 4⟩]) ∧
    ∃ lexemes, scan brokenText = .ok lexemes ∧ Nested 0 lexemes ∧
      (find modulePath brokenText).toOption.map (·.map Site.start) = some [⟨4, 0⟩] ∧
      (logicalLines lexemes).filterMap (directive? isEndOfBlock modulePath (lines brokenText)
        (boundNames lexemes)) = [] := by
  refine ⟨⟨(scan openEndText).toOption.getD [], ?_⟩, ⟨(scan brokenText).toOption.getD [], ?_⟩⟩ <;>
    decide +kernel

end Ghostwriter.Directive

import Ghostwriter.Proofs.Directive.Slice

/-!
The brackets of a directive. The search only counts them, so what it finds is nested, but a bracket
may be closed by one of another kind. In a payload that is read the brackets are all parentheses.
-/

namespace Ghostwriter.Directive

open Ghostwriter.Grammar Ghostwriter.Lexeme Ghostwriter.Text

-- The bracket that closes what a lexeme opens.
def closer? (l : Lexeme) : Option Text :=
  if l.isOperator ['('] then some [')']
  else if l.isOperator ['['] then some [']']
  else if l.isOperator ['\x7b'] then some ['\x7d']
  else none

-- The closing brackets that are due behind a lexeme, the next one first.
def track? (due : List Text) (l : Lexeme) : Option (List Text) :=
  match closer? l with
  | some closer => some (closer :: due)
  | none =>
    if l.closes then
      match due with
      | closer :: outer => if l.text = closer then some outer else none
      | [] => none
    else some due

-- The brackets of all three kinds are nested, and each is closed by its own kind.
def Matched (lexemes : List Lexeme) : Prop := lexemes.foldlM track? [] = some []

instance (lexemes : List Lexeme) : Decidable (Matched lexemes) :=
  inferInstanceAs (Decidable (_ = _))

-- Neither a square bracket nor a brace.
def isRound (l : Lexeme) : Bool :=
  !(l.isOperator ['['] || l.isOperator [']'] || l.isOperator ['\x7b'] || l.isOperator ['\x7d'])

section

variable {l : Lexeme} {due : List Text} {lexemes others : List Lexeme} {n : Nat}

theorem track?_of_flat (h : l.depthChange = 0) : track? due l = some due := by
  have hplain : ¬ l.opens = true ∧ ¬ l.closes = true := by
    unfold Lexeme.depthChange at h
    by_cases hopens : l.opens = true
    · simp [hopens] at h
    by_cases hcloses : l.closes = true
    · simp [hopens, hcloses] at h
    exact ⟨hopens, hcloses⟩
  have hnone : closer? l = none := by
    have hopens := hplain.1
    simp only [Lexeme.opens, Bool.or_eq_true, not_or] at hopens
    simp [closer?, hopens]
  unfold track?
  simp [hnone, hplain.2]

theorem matched_nil : Matched [] := rfl

theorem Matched.append (h : Matched lexemes) (hothers : Matched others) :
    Matched (lexemes ++ others) := by
  unfold Matched at h hothers ⊢
  rw [List.foldlM_append, h]
  exact hothers

theorem Matched.cons (hl : l.depthChange = 0) (h : Matched lexemes) : Matched (l :: lexemes) := by
  unfold Matched at h ⊢
  rw [List.foldlM_cons, track?_of_flat hl]
  exact h

theorem matched_of_flat (h : ∀ l ∈ lexemes, l.depthChange = 0) : Matched lexemes := by
  induction lexemes with
  | nil => exact matched_nil
  | cons l lexemes ih =>
    rw [List.forall_mem_cons] at h
    exact .cons h.1 (ih h.2)

theorem isRound_of_kind (h : l.kind ≠ .operator) : isRound l = true := by
  simp [isRound, isOperator, h]

theorem track?_of_isRound (h : isRound l = true) (hroom : 0 ≤ (n : Int) + l.depthChange) :
    ∃ m : Nat, (m : Int) = n + l.depthChange ∧
      track? (List.replicate n [')']) l = some (List.replicate m [')']) := by
  simp only [isRound, Bool.not_eq_true', Bool.or_eq_false_iff] at h
  obtain ⟨⟨⟨hsquare, hsquared⟩, hbrace⟩, hbraced⟩ := h
  by_cases hopens : l.isOperator ['('] = true
  · refine ⟨n + 1, by simp [depthChange, opens, hopens], ?_⟩
    simp [track?, closer?, hopens, List.replicate_succ]
  by_cases hcloses : l.isOperator [')'] = true
  · have hchange : l.depthChange = -1 := depthChange_of_closes (by simp [closes, hcloses])
    obtain ⟨m, rfl⟩ : ∃ m, n = m + 1 := ⟨n - 1, by omega⟩
    refine ⟨m, by omega, ?_⟩
    have htext : l.text = [')'] := by
      simp only [isOperator, Bool.and_eq_true, beq_iff_eq] at hcloses
      exact hcloses.2
    simp [track?, closer?, hopens, hsquare, hbrace, closes, hcloses, htext, List.replicate_succ]
  · have hchange : l.depthChange = 0 := by
      simp [depthChange, opens, closes, hopens, hcloses, hsquare, hsquared, hbrace, hbraced]
    exact ⟨n, by omega, track?_of_flat hchange⟩

-- Parentheses that are nested by their number are nested.
theorem foldlM_track?_of_isRound (h : ∀ l ∈ lexemes, isRound l = true) (hnested : Nested n lexemes) :
    ∃ m : Nat, (m : Int) = n + depth lexemes ∧
      lexemes.foldlM track? (List.replicate n [')']) = some (List.replicate m [')']) := by
  induction lexemes generalizing n with
  | nil => exact ⟨n, by simp, rfl⟩
  | cons l lexemes ih =>
    rw [List.forall_mem_cons] at h
    obtain ⟨m, hm, htrack⟩ := track?_of_isRound h.1 hnested.tail.nonneg
    obtain ⟨k, hk, hrest⟩ := ih h.2 (hm ▸ hnested.tail)
    refine ⟨k, by rw [hk, hm, depth_cons, Int.add_assoc], ?_⟩
    rw [List.foldlM_cons, htrack]
    exact hrest

theorem matched_of_isRound (h : ∀ l ∈ lexemes, isRound l = true) (hnested : Nested 0 lexemes)
    (hbalanced : depth lexemes = 0) : Matched lexemes := by
  obtain ⟨m, hm, hmatched⟩ := @foldlM_track?_of_isRound lexemes 0 h hnested
  obtain rfl : m = 0 := by
    rw [hbalanced] at hm
    omega
  exact hmatched

end

section

variable {payload : Text} {read : Payload} {lexemes item : List Lexeme} {runs : List (List Lexeme)}
  {key : Options.Key} {v : Value} {t : Text}

theorem Runs.mem (h : Runs lexemes runs) : ∀ item ∈ runs, ∀ l ∈ item, l ∈ lexemes := by
  induction h with
  | last => simp
  | @next item rest semicolon items _ _ _ _ ih =>
    rw [List.forall_mem_cons]
    refine ⟨fun l hl => List.mem_append_left _ hl, fun other hother l hl => ?_⟩
    exact List.mem_append_right _ (List.mem_cons_of_mem _ (ih other hother l hl))

theorem isRound_of_semicolon {l : Lexeme} (h : l.isOperator [';'] = true) : isRound l = true := by
  simp only [isOperator, Bool.and_eq_true, beq_iff_eq] at h
  simp [isRound, isOperator, h]

-- Between the items stand only semicolons.
theorem Runs.matched (h : Runs lexemes runs)
    (hruns : ∀ item ∈ runs, Matched item ∧ ∀ l ∈ item, isRound l = true) :
    Matched lexemes ∧ ∀ l ∈ lexemes, isRound l = true := by
  induction h with
  | last => exact hruns _ List.mem_cons_self
  | @next item rest semicolon items _ _ hmark _ ih =>
    rw [List.forall_mem_cons] at hruns
    obtain ⟨⟨hitem, hround⟩, hothers⟩ := hruns
    obtain ⟨hrest, hrestRound⟩ := ih hothers
    refine ⟨hitem.append (hrest.cons (depthChange_of_semicolon hmark)), ?_⟩
    exact List.forall_mem_append.mpr
      ⟨hround, List.forall_mem_cons.mpr ⟨isRound_of_semicolon hmark, hrestRound⟩⟩

theorem exists_of_forall₂ {α β : Type} {R : α → β → Prop} {as : List α} {bs : List β} {a : α}
    (h : List.Forall₂ R as bs) (ha : a ∈ as) : ∃ b, R a b := by
  induction h with
  | nil => cases ha
  | @cons a' b as bs hab _ ih =>
    rcases List.mem_cons.mp ha with rfl | ha
    · exact ⟨b, hab⟩
    · exact ih ha

theorem isRound_of_fits {l : Lexeme} {token : Token} (hstands : ∃ rest, Stands rest l.kind l.text)
    (h : Fits l.unified token) : isRound l = true := by
  have hkind : l.unified.kind = l.kind := rfl
  cases h with
  | string hstring => exact isRound_of_kind (by simp [← hkind, hstring])
  | int hnumber => exact isRound_of_kind (by simp [← hkind, hnumber])
  | @symbol c symbol hoperator htext hsimple =>
    obtain ⟨rest, hl⟩ := hstands
    have hplain : l.text = [c] := by
      rw [← htext]
      exact (unifyBreaks_of_not_mem (hl.return_not_mem (by simp [← hkind, hoperator]))).symm
    have hnone : ∀ p ∈ simpleSymbols, p.1 ∉ ['[', ']', '\x7b', '\x7d'] := by decide
    have hc := hnone _ hsimple
    simp only [List.mem_cons, List.not_mem_nil, or_false, not_or] at hc
    simp [isRound, isOperator, hplain, hc]

theorem matched_of_ofText (hstands : ∀ l ∈ lexemes, ∃ rest, Stands rest l.kind l.text)
    (h : Value.ofText (literalSource lexemes) = .ok v) (hsimple : v.isSimple = true) :
    Matched lexemes ∧ ∀ l ∈ lexemes, isRound l = true := by
  have hne : lexemes ≠ [] := by
    rintro rfl
    cases h
  unfold Value.ofText at h
  split at h
  case h_2 => cases h
  rename_i e halone
  obtain ⟨tokens, -, -, hread⟩ :=
    Value.exists_readAs hstands hne halone (Value.isPlain_of_ofExpr h hsimple)
  have hround : ∀ l ∈ lexemes, isRound l = true := by
    intro l hl
    obtain ⟨token, hfits⟩ := exists_of_forall₂ hread.fits (List.mem_map_of_mem hl)
    exact isRound_of_fits (hstands l hl) hfits
  refine ⟨matched_of_isRound hround (Value.nested_of_unified hstands hread.nested) ?_, hround⟩
  rw [← Value.depth_unified hstands]
  exact hread.balanced

theorem matched_of_sets (hstands : ∀ l ∈ item, ∃ rest, Stands rest l.kind l.text)
    (h : Sets item key v) : Matched item ∧ ∀ l ∈ item, isRound l = true := by
  obtain ⟨name, equals, value, rfl, hname, -, hequals, hvalue, hadmits⟩ := h
  rw [List.forall_mem_cons, List.forall_mem_cons] at hstands
  obtain ⟨hmatched, hround⟩ := matched_of_ofText hstands.2.2 hvalue (isSimple_of_admits hadmits)
  have hflat : name.depthChange = 0 ∧ isRound name = true :=
    ⟨depthChange_of_kind (by simp [hname]), isRound_of_kind (by simp [hname])⟩
  have hequal : isRound equals = true := by
    simp only [isOperator, Bool.and_eq_true, beq_iff_eq] at hequals
    simp [isRound, isOperator, hequals]
  refine ⟨.cons hflat.1 (.cons (depthChange_of_equals hequals) hmatched), ?_⟩
  exact List.forall_mem_cons.mpr ⟨hflat.2, List.forall_mem_cons.mpr ⟨hequal, hround⟩⟩

theorem matched_of_prompts (h : Prompts item t) :
    Matched item ∧ ∀ l ∈ item, isRound l = true :=
  ⟨matched_of_flat fun l hl => depthChange_of_kind (by simp [h.2.1 l hl]),
    fun l hl => isRound_of_kind (by simp [h.2.1 l hl])⟩

-- A payload that is read has no brackets but parentheses among its lexemes, and they are nested.
theorem matched_of_read {opener closer : Lexeme} {inner : List Lexeme}
    (h : Payload.ofText payload = .ok read) (hscan : scan ('(' :: payload ++ [')']) = .ok lexemes)
    (hsolid : solid lexemes = opener :: (inner ++ [closer]))
    (hstands : ∀ l ∈ inner, ∃ rest, Stands rest l.kind l.text) :
    Matched inner ∧ ∀ l ∈ inner, isRound l = true := by
  obtain ⟨found, hfound, hread⟩ := bind_eq_ok.mp h
  obtain ⟨lexemes', runs, hscan', hruns, hitems⟩ := items_eq_ok_iff.mp hfound
  obtain rfl := Except.ok.inj (hscan.symm.trans hscan')
  have hinner : ((lexemes.filter fun l => !l.isLayout).drop 1).dropLast = inner := by
    change ((solid lexemes).drop 1).dropLast = inner
    rw [hsolid, List.drop_one, List.tail_cons, List.dropLast_concat]
  rw [hinner] at hruns
  have hempty : Matched [] ∧ ∀ l ∈ ([] : List Lexeme), isRound l = true := ⟨matched_nil, by simp⟩
  have hmatched : ∀ item ∈ found, (∀ l ∈ item, l ∈ inner) →
      Matched item ∧ ∀ l ∈ item, isRound l = true := by
    intro item hitem hinside
    split_ifs at hread with hblank
    · rw [hblank] at hitem
      rw [List.mem_singleton.mp hitem]
      exact hempty
    · obtain ⟨options, prompts, settings, rfl, hsets, -, -, hprompts⟩ :=
        (Payload.addItems_eq_ok_iff.mp hread).parts
      rcases List.mem_append.mp hitem with hitem | hitem
      · obtain ⟨s, hset⟩ := exists_of_forall₂ hsets hitem
        exact matched_of_sets (fun l hl => hstands l (hinside l hl)) hset
      · obtain ⟨t, hprompt⟩ := exists_of_forall₂ hprompts hitem
        exact matched_of_prompts hprompt
  refine hruns.matched fun item hitem => ?_
  have hmem := hruns.mem item hitem
  split_ifs at hitems with hlast
  · -- The last run is empty and is no item.
    have hends := List.dropLast_append_getLast? [] hlast.2
    rw [← hends, ← hitems, List.mem_append, List.mem_singleton] at hitem
    rcases hitem with hitem | rfl
    · exact hmatched item hitem hmem
    · exact hempty
  · exact hmatched item (hitems ▸ hitem) hmem

end

-- The lexemes of a directive in its text: behind its name and the parenthesis those of its payload,
-- and its last bracket.
def Consists (t : Text) (site : Site) (within : List Lexeme) (closer : Lexeme) : Prop :=
  ∃ before name opener behind,
    scan t = .ok (before ++ name :: opener :: (within ++ closer :: behind)) ∧
      opener.isOperator ['('] = true ∧ site = siteOf site.path (lines t) name opener closer

-- A directive whose brackets match.
def Bracketed (t : Text) (site : Site) : Prop :=
  ∃ within closer, Consists t site within closer ∧ closer.isOperator [')'] = true ∧ Matched within

section

variable {path : Path} {t : Text} {sites : List Site} {site : Site}

-- What is found is nested by the number of its brackets.
theorem consists_of_mem_find (h : find path t = .ok sites) (hsite : site ∈ sites) :
    ∃ within closer, Consists t site within closer ∧ closer.closes = true ∧ Nested 0 within ∧
      depth within = 0 := by
  obtain ⟨lexemes, name, opener, within, closer, behind, hscan, hbegun, rfl⟩ :=
    begun_of_mem_find h hsite
  obtain ⟨⟨before, rfl, hbegins⟩, hclosing, -⟩ := hbegun
  have hcloses := (closing?_spec hclosing).1
  obtain ⟨within', heq, hnested, hzero⟩ := (closing?_eq_some_iff (by decide)).mp hclosing
  obtain rfl := List.append_cancel_right heq
  rw [depthChange_of_closes hcloses] at hzero
  simp only [begins, Bool.and_eq_true, Option.any_some] at hbegins
  exact ⟨within, closer, ⟨before, name, opener, behind, hscan, hbegins.2, rfl⟩, hcloses, hnested,
    by omega⟩

theorem isOperator_of_isRound {l : Lexeme} (hcloses : l.closes = true) (h : isRound l = true) :
    l.isOperator [')'] = true := by
  simp only [isRound, Bool.not_eq_true', Bool.or_eq_false_iff] at h
  simpa [closes, h] using hcloses

-- A directive is found with its brackets matched unless there are others than parentheses among
-- them, and the payload of one that is read and legible has no others.
theorem bracketed_find (path : Path) (t : Text) :
    (∃ problem place, find path t =
      .error (.fault ⟨.directive problem, some (path.toText ++ place)⟩)) ∨
    ∃ sites, find path t = .ok sites ∧ ∀ site ∈ sites, ∃ within closer,
      Consists t site within closer ∧ closer.closes = true ∧ Nested 0 within ∧ depth within = 0 ∧
        ((∀ l ∈ within ++ [closer], isRound l = true) → Bracketed t site) ∧
          ∀ read, Payload.ofText site.payload = .ok read → Legible site.payload →
            ∃ inner, Covers 1 ['('] site.payload inner ∧ Matched inner ∧
              ∀ l ∈ inner, isRound l = true := by
  cases h : find path t with
  | error failure =>
    obtain ⟨problem, place, rfl⟩ := fault_of_find h
    exact .inl ⟨problem, place, rfl⟩
  | ok sites =>
    refine .inr ⟨sites, rfl, fun site hsite => ?_⟩
    obtain ⟨within, closer, hconsists, hcloses, hnested, hbalanced⟩ := consists_of_mem_find h hsite
    refine ⟨within, closer, hconsists, hcloses, hnested, hbalanced, fun hround => ?_,
      fun read hread hlegible => ?_⟩
    · rw [List.forall_mem_append, List.forall_mem_singleton] at hround
      exact ⟨within, closer, hconsists, isOperator_of_isRound hcloses hround.2,
        matched_of_isRound hround.1 hnested hbalanced⟩
    · obtain ⟨lexemes, opener, inner, closer', hscan, hsolid, hcovers, -⟩ := hlegible.covers
      exact ⟨inner, hcovers, matched_of_read hread hscan hsolid hcovers.stands⟩

end

def parensText : Text := "magic(".toList ++ commentedPayload ++ ")\n".toList

theorem bracketed_find_parens : ∃ site, find modulePath parensText = .ok [site] ∧
    Bracketed parensText site ∧ ∃ inner, Covers 1 ['('] site.payload inner ∧ Matched inner := by
  have hfind : find modulePath parensText =
      .ok [⟨modulePath, "magic".toList, commentedPayload, ⟨1, 0⟩, ⟨3, 1⟩, []⟩] :=
    ok_of_toOption (by decide +kernel)
  have hread : Payload.ofText commentedPayload =
      .ok ⟨⟨some ['a', 'b'], some 7, none⟩, some ['x', 'z']⟩ := ok_of_toOption (by decide +kernel)
  have hround : ((scan parensText).toOption.getD []).all isRound = true := by decide +kernel
  rcases bracketed_find modulePath parensText with ⟨_, _, h⟩ | ⟨sites, h, hsites⟩
  · rw [hfind] at h
    cases h
  · obtain rfl := Except.ok.inj (hfind.symm.trans h)
    obtain ⟨within, closer, hconsists, -, -, -, hbracketed, hpayload⟩ := hsites _ List.mem_cons_self
    obtain ⟨inner, hcovers, hmatched, -⟩ := hpayload _ hread legible_commented
    refine ⟨_, hfind, hbracketed fun l hl => ?_, inner, hcovers, hmatched⟩
    obtain ⟨before, name, opener, behind, hscan, -⟩ := hconsists
    rw [hscan] at hround
    refine List.all_eq_true.mp hround l (List.mem_append_right _ ?_)
    refine List.mem_cons_of_mem _ (List.mem_cons_of_mem _ ?_)
    rw [List.append_cons]
    exact List.mem_append_left _ hl

-- A square bracket closes the parenthesis of a directive, and what is between them is read.
theorem not_bracketed : ∃ site, find modulePath "magic(]\n".toList = .ok [site] ∧
    Payload.ofText site.payload = .ok Payload.empty ∧ ¬ Bracketed "magic(]\n".toList site := by
  refine ⟨⟨modulePath, "magic".toList, [], ⟨1, 0⟩, ⟨1, 7⟩, []⟩, ok_of_toOption (by decide +kernel),
    ok_of_toOption (by decide +kernel), ?_⟩
  rintro ⟨within, closer, ⟨before, name, opener, behind, hscan, -⟩, hparen, -⟩
  have hnone : ((scan "magic(]\n".toList).toOption.getD []).all
      (fun l => !l.isOperator [')']) = true := by
    decide +kernel
  rw [hscan] at hnone
  have hcloser := List.all_eq_true.mp hnone closer (by simp [Except.toOption])
  rw [hparen] at hcloser
  cases hcloser

end Ghostwriter.Directive

import Ghostwriter.Literal.Evaluate
import Ghostwriter.Proofs.Grammar.Lexed

/-!
Expressions that are a text or an integer. They have no operators but one sign, and no brackets but
parentheses around the whole of them.
-/

namespace Ghostwriter.Grammar

open Ghostwriter.Text

-- A text, or an integer with a sign or none.
def isPlain : Expr → Bool
  | .text _ | .number (.int _) | .signed _ (.number (.int _)) => true
  | _ => false

def signOf (negative : Bool) : Symbol := if negative then .minus else .plus

-- How such an expression is written, with a sign of its own or without.
inductive Plain : Bool → List Token → Expr → Prop
  | strings {signs : Bool} {texts : List Text} (some : texts ≠ []) :
      Plain signs (texts.map fun t => .string (.text t)) (.text texts.flatten)
  | int {signs : Bool} {n : Nat} : Plain signs [.number (.int n)] (.number (.int n))
  | paren {signs : Bool} {tokens : List Token} {e : Expr} (inner : Plain true tokens e) :
      Plain signs (.symbol .openParen :: (tokens ++ [.symbol .closeParen])) e
  | signed {negative : Bool} {n : Nat} {tokens : List Token}
      (operand : Plain false tokens (.number (.int n))) :
      Plain true (.symbol (signOf negative) :: tokens) (.signed negative (.number (.int n)))

section

variable {expression primary : Parser Expr} {ts rest : List Token} {e left operand : Expr}
  {fuel : Nat}

theorem Plain.withSign {tokens : List Token} (h : Plain false tokens e) : Plain true tokens e := by
  generalize hsigns : false = signs at h
  cases h with
  | strings hsome => exact .strings hsome
  | int => exact .int
  | paren hinner => exact .paren hinner
  | signed => cases hsigns

theorem take?_eq {symbol : Symbol} (h : take? symbol ts = some rest) :
    ts = .symbol symbol :: rest := by
  unfold take? at h
  split at h
  · split_ifs at h with hsame
    cases h
    rw [hsame]
  · cases h

-- An operator leaves no trace in such an expression.
theorem operatorsUpTo_plain {β : Type} {operator : Parser β} {parser : Parser Expr}
    {combine : Expr → β → Expr → Expr} (hcombine : ∀ a b c, isPlain (combine a b c) = false)
    (h : operatorsUpTo operator parser combine fuel left ts = some (e, rest))
    (hplain : isPlain e = true) : left = e ∧ ts = rest := by
  induction fuel generalizing left ts with
  | zero =>
    cases h
    exact ⟨rfl, rfl⟩
  | succ fuel ih =>
    rw [operatorsUpTo] at h
    split at h
    · cases h
      exact ⟨rfl, rfl⟩
    · obtain ⟨⟨right, behind⟩, -, hmore⟩ := Option.bind_eq_some_iff.mp h
      obtain ⟨hcombined, -⟩ := ih hmore
      rw [← hcombined, hcombine] at hplain
      cases hplain

theorem operators_plain {β : Type} {operator : Parser β} {parser : Parser Expr}
    {combine : Expr → β → Expr → Expr} (hcombine : ∀ a b c, isPlain (combine a b c) = false)
    (h : operators operator parser combine ts = some (e, rest)) (hplain : isPlain e = true) :
    parser ts = some (e, rest) := by
  obtain ⟨⟨left, behind⟩, hleft, hmore⟩ := Option.bind_eq_some_iff.mp h
  obtain ⟨rfl, rfl⟩ := operatorsUpTo_plain hcombine hmore hplain
  exact hleft

theorem isPlain_asOther {α β γ : Type} (a : α) (b : β) (c : γ) :
    isPlain (asOther a b c) = false := rfl

theorem disjunction_plain (h : disjunction primary ts = some (e, rest)) (hplain : isPlain e = true) :
    signedPrimary primary ts = some (e, rest) := by
  have hinversion := operators_plain isPlain_asOther (operators_plain isPlain_asOther h hplain) hplain
  unfold inversion at hinversion
  simp only at hinversion
  split at hinversion
  · cases hinversion
  · rename_i e' rest' hcomparison
    by_cases hnot : ts.head?.any (fun t => decide (t = .keyword .not_)) = true
    · rw [if_pos hnot] at hinversion
      cases hinversion
      cases hplain
    · rw [if_neg hnot] at hinversion
      cases hinversion
      have hsame : ts.dropWhile (fun t => decide (t = .keyword .not_)) = ts := by
        cases ts with
        | nil => rfl
        | cons t ts => exact List.dropWhile_cons_of_neg hnot
      rw [hsame] at hcomparison
      have hbitOr := operators_plain isPlain_asOther hcomparison hplain
      have hshift := operators_plain isPlain_asOther
        (operators_plain isPlain_asOther (operators_plain isPlain_asOther hbitOr hplain) hplain)
        hplain
      have hsum := operators_plain isPlain_asOther hshift hplain
      have hproduct := operators_plain (fun _ _ _ => rfl) hsum hplain
      exact operators_plain isPlain_asOther (operators_plain isPlain_asOther hproduct hplain) hplain

theorem signs_cons (negative : Bool) (ts : List Token) :
    signs (.symbol (signOf negative) :: ts) = (some negative :: (signs ts).1, (signs ts).2) := by
  cases negative <;> rfl

theorem signs_cases (ts : List Token) :
    signs ts = ([], ts) ∨
      (∃ negative behind, ts = .symbol (signOf negative) :: behind ∧
        signs ts = (some negative :: (signs behind).1, (signs behind).2)) ∨
      ∃ behind, (signs ts).1 = none :: (signs behind).1 := by
  rw [signs.eq_def ts]
  split
  · exact .inr (.inl ⟨false, _, rfl, rfl⟩)
  · exact .inr (.inl ⟨true, _, rfl, rfl⟩)
  · exact .inr (.inr ⟨_, rfl⟩)
  · exact .inl rfl

theorem signs_of_nil (h : (signs ts).1 = []) : (signs ts).2 = ts := by
  rcases signs_cases ts with heq | ⟨negative, behind, -, heq⟩ | ⟨behind, heq⟩
  · rw [heq]
  · rw [heq] at h
    cases h
  · rw [heq] at h
    cases h

theorem foldr_applySign {signs : List (Option Bool)} {n : Numeral}
    (h : signs.foldr applySign operand = .number n) : signs = [] ∧ operand = .number n := by
  cases signs with
  | nil => exact ⟨rfl, h⟩
  | cons sign signs => cases sign <;> cases h

theorem number_of_signed {negative : Bool} (h : isPlain (.signed negative e) = true) :
    ∃ n, e = .number (.int n) := by
  unfold isPlain at h
  split at h
  · cases ‹Expr.signed negative e = _›
  · cases ‹Expr.signed negative e = _›
  · cases ‹Expr.signed negative e = _›
    exact ⟨_, rfl⟩
  · cases h

theorem signedPrimary_plain (h : signedPrimary primary ts = some (e, rest))
    (hplain : isPlain e = true) :
    primary ts = some (e, rest) ∨ ∃ negative n behind, e = .signed negative (.number (.int n)) ∧
      ts = .symbol (signOf negative) :: behind ∧
      primary behind = some (.number (.int n), rest) := by
  obtain ⟨⟨operand, behind⟩, hoperand, heq⟩ := Option.bind_eq_some_iff.mp h
  cases heq
  rcases signs_cases ts with hsigns | ⟨negative, behind, rfl, hsigns⟩ | ⟨behind, hsigns⟩
  · rw [hsigns] at hoperand ⊢
    exact .inl hoperand
  · rw [hsigns] at hoperand hplain ⊢
    obtain ⟨n, hnumber⟩ := number_of_signed hplain
    obtain ⟨hnil, rfl⟩ := foldr_applySign hnumber
    rw [hnil]
    rw [signs_of_nil hnil] at hoperand
    exact .inr ⟨negative, n, behind, rfl, rfl, hoperand⟩
  · rw [hsigns] at hplain
    cases hplain

-- What follows an operand makes something else of it.
theorem trailersUpTo_plain (h : trailersUpTo expression primary fuel left ts = some (e, rest))
    (hplain : isPlain e = true) : left = e ∧ ts = rest := by
  induction fuel generalizing left ts with
  | zero =>
    cases h
    exact ⟨rfl, rfl⟩
  | succ fuel ih =>
    have hnot {trailed : Expr} {behind : List Token} (htrailed : isPlain trailed = false)
        (h : trailersUpTo expression primary fuel trailed behind = some (e, rest)) : False := by
      obtain ⟨rfl, -⟩ := ih h
      rw [htrailed] at hplain
      cases hplain
    unfold trailersUpTo at h
    split at h
    · obtain ⟨⟨name, behind⟩, -, hmore⟩ := Option.bind_eq_some_iff.mp h
      exact (hnot rfl hmore).elim
    · obtain ⟨⟨hasArguments, behind⟩, -, hmore⟩ := Option.bind_eq_some_iff.mp h
      exact (hnot rfl hmore).elim
    · obtain ⟨⟨parts, trailing, behind⟩, -, hclosed⟩ := Option.bind_eq_some_iff.mp h
      obtain ⟨behind', -, hmore⟩ := Option.bind_eq_some_iff.mp hclosed
      exact (hnot rfl hmore).elim
    · cases h
      exact ⟨rfl, rfl⟩

theorem item_plain (h : item expression primary ts = some (e, rest)) (hplain : isPlain e = true) :
    expression ts = some (e, rest) := by
  unfold item at h
  split at h
  · obtain ⟨⟨operand, behind⟩, -, heq⟩ := Option.bind_eq_some_iff.mp h
    cases heq
    cases hplain
  · unfold named at h
    split at h
    · split at h
      · cases h
        cases hplain
      · cases h
    · exact h

theorem moreItems_nil {α : Type} {parser : Parser α}
    (h : moreItems parser ts = ([], false, rest)) : rest = ts := by
  unfold moreItems moreItemsUpTo at h
  split at h
  · cases h
    rfl
  · split at h
    · cases h
      rfl
    · split at h
      · cases h
      · cases h

theorem take?_of_bracketRest {α : Type} {next : Parser α} {closer : Symbol} {comprehends : Bool}
    (h : bracketRest primary next closer comprehends ts = some (some ([], false), rest)) :
    ts = .symbol closer :: rest := by
  unfold bracketRest at h
  split_ifs at h
  · obtain ⟨behind, -, hclosed⟩ := Option.bind_eq_some_iff.mp h
    obtain ⟨behind', -, heq⟩ := Option.bind_eq_some_iff.mp hclosed
    cases heq
  · rcases hmore : moreItems next ts with ⟨others, trailing, behind⟩
    rw [hmore] at h
    obtain ⟨behind', htake, heq⟩ := Option.bind_eq_some_iff.mp h
    cases heq
    rw [← moreItems_nil hmore]
    exact take?_eq htake

theorem afterParen_plain (h : afterParen expression primary ts = some (e, rest))
    (hplain : isPlain e = true) :
    expression ts = some (e, .symbol .closeParen :: rest) := by
  unfold afterParen at h
  split at h
  · cases h
    cases hplain
  · obtain ⟨behind, -, hclosed⟩ := Option.bind_eq_some_iff.mp h
    obtain ⟨behind', -, heq⟩ := Option.bind_eq_some_iff.mp hclosed
    cases heq
    cases hplain
  · obtain ⟨⟨first, behind⟩, hitem, hmore⟩ := Option.bind_eq_some_iff.mp h
    obtain ⟨⟨others, behind'⟩, hrest, hresult⟩ := Option.bind_eq_some_iff.mp hmore
    simp only at hresult
    split at hresult
    · cases hresult
      cases hplain
    · split_ifs at hresult
      cases hresult
      rw [take?_of_bracketRest hrest] at hitem
      exact item_plain hitem hplain
    · cases hresult
      cases hplain

theorem afterBracket_plain (h : afterBracket expression primary ts = some (e, rest)) :
    isPlain e = false := by
  unfold afterBracket at h
  split at h
  · cases h
    rfl
  · obtain ⟨⟨first, behind⟩, -, hmore⟩ := Option.bind_eq_some_iff.mp h
    obtain ⟨⟨others, behind'⟩, -, hresult⟩ := Option.bind_eq_some_iff.mp hmore
    simp only at hresult
    split at hresult
    · cases hresult
      rfl
    · cases hresult
      rfl

theorem dictRest_plain {first : Expr × Expr} {comprehends : Bool}
    (h : dictRest expression primary first comprehends ts = some (e, rest)) :
    isPlain e = false := by
  obtain ⟨⟨others, behind⟩, -, hresult⟩ := Option.bind_eq_some_iff.mp h
  simp only at hresult
  split at hresult
  · cases hresult
    rfl
  · cases hresult
    rfl

theorem afterBrace_plain (h : afterBrace expression primary ts = some (e, rest)) :
    isPlain e = false := by
  unfold afterBrace at h
  split at h
  · cases h
    rfl
  · obtain ⟨⟨first, behind⟩, -, hmore⟩ := Option.bind_eq_some_iff.mp h
    exact dictRest_plain hmore
  · obtain ⟨⟨first, behind⟩, -, hmore⟩ := Option.bind_eq_some_iff.mp h
    simp only at hmore
    split at hmore
    · split_ifs at hmore
      obtain ⟨⟨value, behind'⟩, -, hdict⟩ := Option.bind_eq_some_iff.mp hmore
      exact dictRest_plain hdict
    · obtain ⟨⟨others, behind'⟩, -, hresult⟩ := Option.bind_eq_some_iff.mp hmore
      simp only at hresult
      split at hresult
      · cases hresult
        rfl
      · cases hresult
        rfl

-- The contents of the strings at the head of some tokens.
def leadingContents (ts : List Token) : List StringContent :=
  ((ts.map stringContent?).takeWhile Option.isSome).filterMap id

theorem leadingContents_append (ts : List Token) :
    ts = (leadingContents ts).map .string ++ ts.drop (leadingContents ts).length := by
  induction ts with
  | nil => rfl
  | cons t ts ih =>
    cases t with
    | string content =>
      have hcons : leadingContents (.string content :: ts) = content :: leadingContents ts := rfl
      rw [hcons, List.map_cons, List.cons_append, List.length_cons, List.drop_succ_cons, ← ih]
    | _ => rfl

theorem exists_texts {contents : List StringContent} (h : ∀ c ∈ contents, ∃ t, c = .text t) :
    ∃ texts : List Text, contents = texts.map .text := by
  induction contents with
  | nil => exact ⟨[], rfl⟩
  | cons c contents ih =>
    rw [List.forall_mem_cons] at h
    obtain ⟨⟨t, rfl⟩, hcontents⟩ := h
    obtain ⟨texts, rfl⟩ := ih hcontents
    exact ⟨t :: texts, rfl⟩

theorem joinStrings_texts (texts : List Text) (hsome : texts ≠ []) :
    joinStrings (texts.map .text) = some (.text texts.flatten) := by
  obtain ⟨t, texts, rfl⟩ := List.exists_cons_of_ne_nil hsome
  simp [joinStrings, List.flatMap_map]

theorem joinStrings_plain {contents : List StringContent} (hsome : contents ≠ [])
    (h : joinStrings contents = some e) (hplain : isPlain e = true) :
    ∃ texts : List Text, contents = texts.map .text ∧ e = .text texts.flatten := by
  have htexts : ∀ c ∈ contents, ∃ t, c = .text t := by
    unfold joinStrings at h
    simp only at h
    split_ifs at h with hall hbytes hformatted
    · cases h
      cases hplain
    · cases h
      cases hplain
    · intro c hc
      cases c with
      | text t => exact ⟨t, rfl⟩
      | bytes b => exact absurd (List.any_eq_true.mpr ⟨_, hc, rfl⟩) hbytes
      | formatted => exact absurd (List.any_eq_true.mpr ⟨_, hc, rfl⟩) hformatted
  obtain ⟨texts, rfl⟩ := exists_texts htexts
  rw [joinStrings_texts texts (by simpa using hsome)] at h
  cases h
  exact ⟨texts, rfl, rfl⟩

theorem atom_plain (h : atom expression primary ts = some (e, rest)) (hplain : isPlain e = true)
    (hexpression : ∀ ts rest, expression ts = some (e, rest) →
      ∃ body, ts = body ++ rest ∧ Plain true body e) :
    ∃ body, ts = body ++ rest ∧ Plain false body e := by
  unfold atom at h
  split at h
  · cases h
    cases hplain
  · cases h
    cases hplain
  · cases h
    cases hplain
  · cases h
    cases hplain
  · cases h
    cases hplain
  · rename_i value ts
    cases h
    cases value with
    | int => exact ⟨[_], rfl, .int⟩
    | real => cases hplain
    | imaginary => cases hplain
  · rename_i content ts
    unfold strings at h
    simp only at h
    split_ifs at h
    obtain ⟨joined, hjoined, heq⟩ := Option.bind_eq_some_iff.mp h
    cases heq
    have hsome : leadingContents (.string content :: ts) ≠ [] := by
      simp [leadingContents, stringContent?]
    obtain ⟨texts, htexts, rfl⟩ := joinStrings_plain hsome hjoined hplain
    have hwhole := leadingContents_append (.string content :: ts)
    rw [htexts] at hwhole hsome
    refine ⟨texts.map fun t => .string (.text t), ?_, .strings (by simpa using hsome)⟩
    refine hwhole.trans ?_
    rw [List.map_map, ← htexts]
    rfl
  · obtain ⟨body, hbody, hinner⟩ := hexpression _ _ (afterParen_plain h hplain)
    refine ⟨.symbol .openParen :: (body ++ [.symbol .closeParen]), ?_, .paren hinner⟩
    rw [hbody]
    simp
  · rw [afterBracket_plain h] at hplain
    cases hplain
  · rw [afterBrace_plain h] at hplain
    cases hplain
  · cases h

theorem primaryRule_plain (h : primaryRule expression primary ts = some (e, rest))
    (hplain : isPlain e = true) : atom expression primary ts = some (e, rest) := by
  unfold primaryRule at h
  split at h
  · obtain ⟨⟨operand, behind⟩, -, hmore⟩ := Option.bind_eq_some_iff.mp h
    obtain ⟨⟨trailed, behind'⟩, -, heq⟩ := Option.bind_eq_some_iff.mp hmore
    cases heq
    cases hplain
  · obtain ⟨⟨operand, behind⟩, hatom, hmore⟩ := Option.bind_eq_some_iff.mp h
    obtain ⟨rfl, rfl⟩ := trailersUpTo_plain hmore hplain
    exact hatom

theorem expressionRule_plain (h : expressionRule expression primary ts = some (e, rest))
    (hplain : isPlain e = true) : signedPrimary primary ts = some (e, rest) := by
  unfold expressionRule at h
  split at h
  · obtain ⟨behind, -, hmore⟩ := Option.bind_eq_some_iff.mp h
    obtain ⟨behind', -, hbody⟩ := Option.bind_eq_some_iff.mp hmore
    obtain ⟨⟨value, behind''⟩, -, heq⟩ := Option.bind_eq_some_iff.mp hbody
    cases heq
    cases hplain
  · obtain ⟨⟨operand, behind⟩, hoperand, hmore⟩ := Option.bind_eq_some_iff.mp h
    simp only at hmore
    split at hmore
    · cases hmore
      exact disjunction_plain hoperand hplain
    · obtain ⟨⟨condition, behind'⟩, -, hrest⟩ := Option.bind_eq_some_iff.mp hmore
      obtain ⟨behind'', -, hvalue⟩ := Option.bind_eq_some_iff.mp hrest
      obtain ⟨⟨value, last⟩, -, heq⟩ := Option.bind_eq_some_iff.mp hvalue
      cases heq
      cases hplain

end

section

variable {ts rest tokens : List Token} {e : Expr} {fuel : Nat}

-- A text or an integer is written like one.
theorem exists_plain (fuel : Nat) :
    (∀ ts e rest, primary fuel ts = some (e, rest) → isPlain e = true →
      ∃ body, ts = body ++ rest ∧ Plain false body e) ∧
    ∀ ts e rest, expression fuel ts = some (e, rest) → isPlain e = true →
      ∃ body, ts = body ++ rest ∧ Plain true body e := by
  induction fuel with
  | zero =>
    constructor
    · intro ts e rest h
      cases h
    · intro ts e rest h
      cases h
  | succ fuel ih =>
    obtain ⟨hprimary, hexpression⟩ := ih
    constructor
    · intro ts e rest h hplain
      rw [primary] at h
      exact atom_plain (primaryRule_plain h hplain) hplain fun ts rest h =>
        hexpression ts e rest h hplain
    · intro ts e rest h hplain
      rw [expression] at h
      rcases signedPrimary_plain (expressionRule_plain h hplain) hplain with
        hunsigned | ⟨negative, n, behind, rfl, rfl, hoperand⟩
      · obtain ⟨body, hbody, hwritten⟩ := hprimary ts e rest hunsigned hplain
        exact ⟨body, hbody, hwritten.withSign⟩
      · obtain ⟨body, rfl, hwritten⟩ := hprimary behind _ rest hoperand rfl
        exact ⟨_, rfl, .signed hwritten⟩

end

-- What a text or an integer may be followed by, alone or in parentheses.
def Closed (rest : List Token) : Prop := rest = [] ∨ ∃ behind, rest = .symbol .closeParen :: behind

-- What a text or an integer may begin with.
def starts : Token → Bool
  | .string _ | .number _ => true
  | .symbol symbol => symbol = .openParen || symbol = .plus || symbol = .minus
  | _ => false

section

variable {expression primary : Parser Expr} {ts rest tokens : List Token} {e : Expr} {token : Token}
  {fuel : Nat} {withSign : Bool}

theorem operators_of_none {β : Type} {operator : Parser β} {parser : Parser Expr}
    {combine : Expr → β → Expr → Expr} (hnone : operator rest = none)
    (h : parser ts = some (e, rest)) : operators operator parser combine ts = some (e, rest) := by
  simp only [operators, h, Option.bind_eq_bind, Option.bind_some]
  unfold operatorsUpTo
  split
  · rfl
  · simp [hnone]

theorem Closed.anyOf (h : Closed rest) {symbols : List Symbol}
    (hsymbols : .closeParen ∉ symbols) : anyOf symbols rest = none := by
  rcases h with rfl | ⟨behind, rfl⟩
  · rfl
  · simp [Grammar.anyOf, hsymbols]

theorem Closed.takeWord? (h : Closed rest) (keyword : Keyword) : takeWord? keyword rest = none := by
  rcases h with rfl | ⟨behind, rfl⟩
  · rfl
  · rfl

theorem disjunction_of_closed (hclosed : Closed rest) (hstarts : starts token = true)
    (h : signedPrimary primary (token :: ts) = some (e, rest)) :
    disjunction primary (token :: ts) = some (e, rest) := by
  have hsign : isSign rest = none := by
    rcases hclosed with rfl | ⟨behind, rfl⟩
    · rfl
    · rfl
  have hcomparison : comparisonOperator rest = none := by
    rcases hclosed with rfl | ⟨behind, rfl⟩
    · rfl
    · rfl
  have hnot : token ≠ .keyword .not_ := by
    rintro rfl
    cases hstarts
  have hcompared : comparison primary (token :: ts) = some (e, rest) := by
    apply operators_of_none hcomparison
    apply operators_of_none (hclosed.anyOf (by decide))
    apply operators_of_none (hclosed.anyOf (by decide))
    apply operators_of_none (hclosed.anyOf (by decide))
    apply operators_of_none (hclosed.anyOf (by decide))
    apply operators_of_none hsign
    apply operators_of_none (hclosed.anyOf (by decide))
    exact operators_of_none (hclosed.anyOf (by decide)) h
  have hinverted : inversion primary (token :: ts) = some (e, rest) := by
    simp [inversion, hnot, hcompared]
  have hword (keyword : Keyword) :
      (Grammar.takeWord? keyword rest).map (fun behind => ((), behind)) = none := by
    rw [hclosed.takeWord?]
    rfl
  apply operators_of_none (hword .or_)
  exact operators_of_none (hword .and_) hinverted

theorem expressionRule_of_closed (hclosed : Closed rest) (hstarts : starts token = true)
    (h : signedPrimary primary (token :: ts) = some (e, rest)) :
    expressionRule expression primary (token :: ts) = some (e, rest) := by
  have hdisjunction := disjunction_of_closed hclosed hstarts h
  unfold expressionRule
  split
  · cases ‹_›
    cases hstarts
  · simp [hdisjunction, hclosed.takeWord?]

theorem item_of_starts (hstarts : starts token = true) :
    item expression primary (token :: ts) = expression (token :: ts) := by
  cases token with
  | name => cases hstarts
  | symbol symbol =>
    have hstar : symbol ≠ .star := by
      rintro rfl
      cases hstarts
    simp [item, named, hstar]
  | _ => rfl

theorem trailers_of_closed (hclosed : Closed rest) (e : Expr) :
    trailers expression primary e rest = some (e, rest) := by
  rcases hclosed with rfl | ⟨behind, rfl⟩
  · rfl
  · rfl

theorem primaryRule_of_closed (hclosed : Closed rest) (hstarts : starts token = true)
    (h : atom expression primary (token :: ts) = some (e, rest)) :
    primaryRule expression primary (token :: ts) = some (e, rest) := by
  unfold primaryRule
  split
  · cases ‹_›
    cases hstarts
  · simp [h, trailers_of_closed hclosed]

theorem afterParen_of_starts (hstarts : starts token = true) (hstarred : e.isStarred = false)
    (h : expression (token :: ts) = some (e, .symbol .closeParen :: rest)) :
    afterParen expression primary (token :: ts) = some (e, rest) := by
  have hitem := @item_of_starts expression primary ts token hstarts
  have hmore : moreItems (item expression primary) (.symbol .closeParen :: rest) =
      ([], false, .symbol .closeParen :: rest) := rfl
  have hrest : bracketRest primary (item expression primary) .closeParen true
      (.symbol .closeParen :: rest) = some (some ([], false), rest) := by
    simp [bracketRest, startsClauses, hmore, take?]
  unfold afterParen
  split
  · cases ‹_›
    cases hstarts
  · cases ‹_›
    cases hstarts
  · simp [hitem, h, hstarred, hrest]

theorem atom_of_texts {texts : List Text} (hclosed : Closed rest) (hsome : texts ≠ []) :
    atom expression primary (texts.map (fun t => .string (.text t)) ++ rest) =
      some (.text texts.flatten, rest) := by
  have hcontents : leadingContents (texts.map (fun t => .string (.text t)) ++ rest) =
      texts.map .text := by
    clear hsome
    induction texts with
    | nil =>
      rcases hclosed with rfl | ⟨behind, rfl⟩
      · rfl
      · rfl
    | cons t texts ih => exact congrArg (StringContent.text t :: ·) ih
  obtain ⟨t, others, htexts⟩ := List.exists_cons_of_ne_nil hsome
  have hatom : atom expression primary (texts.map (fun t => .string (.text t)) ++ rest) =
      strings expression primary (texts.map (fun t => .string (.text t)) ++ rest) := by
    rw [htexts]
    rfl
  rw [hatom]
  unfold strings
  unfold leadingContents at hcontents
  simp only [hcontents]
  simp [joinStrings_texts texts hsome]

-- What is written like a text or an integer is read as that.
theorem Plain.starts (h : Plain withSign tokens e) :
    ∃ token ts, tokens = token :: ts ∧ Grammar.starts token = true := by
  cases h with
  | strings hsome =>
    obtain ⟨t, texts, rfl⟩ := List.exists_cons_of_ne_nil hsome
    exact ⟨_, _, rfl, rfl⟩
  | int => exact ⟨_, _, rfl, rfl⟩
  | paren => exact ⟨_, _, rfl, rfl⟩
  | @signed negative => exact ⟨_, _, rfl, by cases negative <;> rfl⟩

theorem Plain.isPlain (h : Plain withSign tokens e) : isPlain e = true := by
  induction h with
  | strings => rfl
  | int => rfl
  | paren _ ih => exact ih
  | signed => rfl

theorem isStarred_of_isPlain (h : isPlain e = true) : e.isStarred = false := by
  cases e with
  | starred => cases h
  | _ => rfl

theorem Plain.signs_append (h : Plain false tokens e) (rest : List Token) :
    signs (tokens ++ rest) = ([], tokens ++ rest) := by
  generalize hunsigned : false = withSign at h
  cases h with
  | strings hsome =>
    obtain ⟨t, texts, rfl⟩ := List.exists_cons_of_ne_nil hsome
    rfl
  | int => rfl
  | paren => rfl
  | signed => cases hunsigned

end

section

variable {rest tokens : List Token} {e : Expr} {fuel : Nat} {withSign : Bool}

-- The operands that some tokens are read as, if that many levels are left.
def Operand (tokens : List Token) (e : Expr) : Prop :=
  ∀ fuel rest, Closed rest → 2 * tokens.length ≤ fuel + 1 →
    primary fuel (tokens ++ rest) = some (e, rest)

theorem operand_of_atom (h : Plain withSign tokens e)
    (hatom : ∀ fuel rest, Closed rest → 2 * tokens.length ≤ fuel + 2 →
      atom (expression fuel) (primary fuel) (tokens ++ rest) = some (e, rest)) :
    Operand tokens e := by
  intro fuel rest hclosed hfuel
  obtain ⟨token, ts, rfl, hstarts⟩ := h.starts
  cases fuel with
  | zero =>
    rw [List.length_cons] at hfuel
    omega
  | succ fuel =>
    rw [primary]
    exact primaryRule_of_closed hclosed hstarts (hatom fuel rest hclosed hfuel)

theorem expression_of_signed (h : Plain withSign tokens e) (hclosed : Closed rest)
    (hfuel : 2 * tokens.length ≤ fuel)
    (hsigned : ∀ fuel, 2 * tokens.length ≤ fuel + 1 →
      signedPrimary (primary fuel) (tokens ++ rest) = some (e, rest)) :
    expression fuel (tokens ++ rest) = some (e, rest) := by
  obtain ⟨token, ts, rfl, hstarts⟩ := h.starts
  cases fuel with
  | zero =>
    rw [List.length_cons] at hfuel
    omega
  | succ fuel =>
    rw [expression]
    exact expressionRule_of_closed hclosed hstarts (hsigned fuel hfuel)

theorem Operand.expression (h : Plain false tokens e) (hoperands : Operand tokens e)
    (hclosed : Closed rest) (hfuel : 2 * tokens.length ≤ fuel) :
    expression fuel (tokens ++ rest) = some (e, rest) := by
  refine expression_of_signed h hclosed hfuel fun fuel hfuel => ?_
  simp [signedPrimary, h.signs_append, hoperands fuel rest hclosed hfuel]

theorem Plain.read (h : Plain withSign tokens e) :
    (withSign = false → Operand tokens e) ∧
      ∀ fuel rest, Closed rest → 2 * tokens.length ≤ fuel →
        expression fuel (tokens ++ rest) = some (e, rest) := by
  induction h with
  | @strings _ texts hsome =>
    have hwritten : Plain false (texts.map fun t => .string (.text t)) (.text texts.flatten) :=
      .strings hsome
    have hoperands := operand_of_atom hwritten fun fuel rest hclosed _ => atom_of_texts hclosed hsome
    exact ⟨fun _ => hoperands, fun _ _ => hoperands.expression hwritten⟩
  | @int _ n =>
    have hwritten : Plain false [.number (.int n)] (.number (.int n)) := .int
    have hoperands := operand_of_atom hwritten fun fuel rest _ _ => rfl
    exact ⟨fun _ => hoperands, fun _ _ => hoperands.expression hwritten⟩
  | @paren _ tokens e hinner ih =>
    have hwritten : Plain false (.symbol .openParen :: (tokens ++ [.symbol .closeParen])) e :=
      .paren hinner
    have hoperands := operand_of_atom hwritten fun fuel rest _ hfuel => by
      have hlength : 2 * tokens.length ≤ fuel := by
        rw [List.length_cons, List.length_append, List.length_singleton] at hfuel
        omega
      have hexpression := ih.2 fuel (.symbol .closeParen :: rest) (.inr ⟨rest, rfl⟩) hlength
      obtain ⟨token, ts, rfl, hstarts⟩ := hinner.starts
      have hparen := @afterParen_of_starts (expression fuel) (primary fuel) _ _ _ _ hstarts
        (isStarred_of_isPlain hinner.isPlain) hexpression
      simpa [atom] using hparen
    exact ⟨fun _ => hoperands, fun _ _ => hoperands.expression hwritten⟩
  | @signed negative n tokens hoperand ih =>
    refine ⟨fun hunsigned => absurd hunsigned (by decide), fun fuel rest hclosed hfuel => ?_⟩
    refine expression_of_signed (.signed hoperand) hclosed hfuel fun fuel hfuel => ?_
    have hlength : 2 * tokens.length ≤ fuel + 1 := by
      rw [List.length_cons] at hfuel
      omega
    have hprimary := ih.1 rfl fuel rest hclosed hlength
    have hsigns : signs (.symbol (signOf negative) :: tokens ++ rest) =
        ([some negative], tokens ++ rest) := by
      rw [List.cons_append, signs_cons, hoperand.signs_append]
    simp only [signedPrimary, hsigns, hprimary, Option.bind_eq_bind, Option.bind_some]
    rfl

theorem Plain.weight (h : Plain withSign tokens e) : ∀ token ∈ tokens, token.weight = 1 := by
  induction h with
  | strings => simp [Token.weight]
  | int => simp [Token.weight]
  | paren _ ih => simpa [Token.weight, or_imp, forall_and] using ih
  | signed _ ih => simpa [Token.weight] using ih

theorem depthBound_of_weight (h : ∀ token ∈ tokens, token.weight = 1) :
    depthBound tokens = 2 * tokens.length + 8 := by
  have hfold : ∀ sum : Nat,
      tokens.foldl (fun sum t => sum + t.weight) sum = sum + tokens.length := by
    induction tokens with
    | nil => exact fun _ => rfl
    | cons token tokens ih =>
      rw [List.forall_mem_cons] at h
      intro sum
      rw [List.foldl_cons, ih h.2, h.1, List.length_cons, Nat.add_assoc, Nat.add_comm 1]
  rw [depthBound, hfold, Nat.zero_add]

theorem expressionAlone?_of_plain {t : Text} (h : aloneTokens? t = some tokens)
    (hwritten : Plain withSign tokens e) : expressionAlone? t = some e := by
  have hbound := depthBound_of_weight hwritten.weight
  have hread := hwritten.read.2 (depthBound tokens) [] (.inl rfl) (by omega)
  rw [List.append_nil] at hread
  have hmore : moreItems (expression (depthBound tokens)) [] = ([], false, []) := rfl
  simp [expressionAlone?, h, commaList, hread, hmore]

theorem plain_of_expressionAlone? {t : Text} (h : expressionAlone? t = some e)
    (hplain : isPlain e = true) : ∃ tokens, aloneTokens? t = some tokens ∧ Plain true tokens e := by
  obtain ⟨tokens, htokens, hparsed⟩ := Option.bind_eq_some_iff.mp h
  obtain ⟨⟨items, trailing, rest⟩, hitems, hresult⟩ := Option.bind_eq_some_iff.mp hparsed
  simp only at hresult
  split_ifs at hresult with hrest
  · cases hresult
  obtain rfl : rest = [] := by simpa using hrest
  obtain ⟨⟨first, behind⟩, hfirst, hmore⟩ := Option.bind_eq_some_iff.mp hitems
  simp only at hmore
  rcases hothers : moreItems (expression (depthBound tokens)) behind with ⟨others, trailing', last⟩
  rw [hothers] at hmore
  cases hmore
  split at hresult
  · rename_i hitem htrailing
    cases hresult
    obtain ⟨rfl, rfl⟩ : first = e ∧ others = [] := List.cons.inj hitem
    obtain rfl : trailing' = false := htrailing
    rw [← moreItems_nil hothers] at hfirst
    obtain ⟨body, hbody, hwritten⟩ := (exists_plain _).2 _ _ _ hfirst hplain
    rw [List.append_nil] at hbody
    exact ⟨tokens, htokens, hbody ▸ hwritten⟩
  · cases hresult
    cases hplain

-- Behind an integer comes nothing but a closing parenthesis.
theorem Plain.sparse (h : Plain withSign tokens e) (hrest : Sparse rest) (hclosed : Closed rest) :
    Sparse (tokens ++ rest) := by
  induction h generalizing rest with
  | @strings _ texts hsome =>
    clear hsome
    induction texts with
    | nil => exact hrest
    | cons t texts ih => exact ih
  | int =>
    refine ⟨fun token htoken => ?_, hrest⟩
    rcases hclosed with rfl | ⟨behind, rfl⟩
    · cases htoken
    · exact (Option.some.inj htoken).symm
  | @paren _ tokens _ _ ih =>
    have hinner : Sparse (tokens ++ .symbol .closeParen :: rest) :=
      ih ⟨⟨')', by decide⟩, hrest⟩ (.inr ⟨rest, rfl⟩)
    rw [List.cons_append, List.append_assoc]
    exact ⟨⟨'(', by decide⟩, hinner⟩
  | @signed negative _ _ _ ih =>
    refine ⟨?_, ih hrest hclosed⟩
    cases negative with
    | false => exact ⟨'+', by decide⟩
    | true => exact ⟨'-', by decide⟩

end

end Ghostwriter.Grammar

namespace Ghostwriter.Value

open Ghostwriter.Grammar Ghostwriter.Text

-- The kinds of value that an option or a prompt can have.
def isSimple : Value → Bool
  | text _ | int _ => true
  | _ => false

section

variable {e : Expr} {v : Value}

theorem isPlain_of_signedNumber? (h : signedNumber? e = some v) (hsimple : isSimple v = true) :
    isPlain e = true := by
  unfold signedNumber? at h
  split at h
  · rename_i n
    cases h
    cases n with
    | int => rfl
    | real => cases hsimple
    | imaginary => cases hsimple
  · rename_i negative n
    cases h
    cases n with
    | int => rfl
    | real => cases negative <;> cases hsimple
    | imaginary => cases negative <;> cases hsimple
  · cases h

theorem not_isSimple_of_map {α : Type} {r : Except LiteralError α} {f : α → Value}
    (hf : ∀ a, isSimple (f a) = false) (h : r.map f = .ok v) : isSimple v = false := by
  cases r with
  | error => cases h
  | ok a => exact Except.ok.inj h ▸ hf a

theorem not_isSimple_of_complexSum {negative : Bool} {left right : Expr}
    (h : complexSum negative left right = .ok v) : isSimple v = false := by
  unfold complexSum at h
  split at h
  · split_ifs at h <;> cases h <;> rfl
  · cases h
  · cases h

-- Texts and integers come of such expressions only.
theorem isPlain_of_ofExpr (h : ofExpr e = .ok v) (hsimple : isSimple v = true) :
    isPlain e = true := by
  have hnot (hother : isSimple v = false) : isPlain e = true := by
    rw [hother] at hsimple
    cases hsimple
  unfold ofExpr at h
  split at h
  · rename_i s
    cases h
    cases s <;> cases hsimple
  · rfl
  · cases h
    cases hsimple
  · exact hnot (not_isSimple_of_map (fun _ => rfl) h)
  · exact hnot (not_isSimple_of_map (fun _ => rfl) h)
  · exact hnot (not_isSimple_of_map (fun _ => rfl) h)
  · exact hnot (not_isSimple_of_map (fun _ => rfl) h)
  · split_ifs at h
    cases h
    cases hsimple
  · exact hnot (not_isSimple_of_complexSum h)
  · split at h
    · cases h
      exact isPlain_of_signedNumber? ‹_› hsimple
    · cases h

end

end Ghostwriter.Value

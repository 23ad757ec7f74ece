import Ghostwriter.Proofs.Failure.Result
import Ghostwriter.Request.Message
import Mathlib.Tactic.SplitIfs

/-!
What can go wrong with a payload. A fault does not say yet where it arose. A crash comes from a
literal: its value cannot be made, or it has to be written into a message and is too long for that.
-/

namespace Ghostwriter.Directive

open Ghostwriter.Lexeme Ghostwriter.Text

-- The crash over a literal that stands for nothing, or for nothing that can be written.
inductive Refused (source : Text) : Crash → Prop
  | unhashable (kind : String) (value : Value.ofText source = .error (.unhashable kind)) :
    Refused source (.unhashable kind)
  | tooLarge (value : Value.ofText source = .error .tooLarge) : Refused source .tooLarge
  | digitLimit (v : Value) (value : Value.ofText source = .ok v) (unwritten : v.write? = none) :
    Refused source .digitLimit

-- A failure over some items: a fault without a location, or a crash over a literal that ends one.
-- That the payload cannot be taken apart into items is no failure over these.
inductive Over (items : List (List Lexeme)) : Failure → Prop
  | fault (cause : FaultCause) (split : ∀ e, cause ≠ .directive (.unreadablePayload e)) :
    Over items (.ofCause cause)
  | crash (item lexemes : List Lexeme) (crash : Crash) (among : item ∈ items)
    (part : lexemes <:+ item) (refused : Refused (literalSource lexemes) crash) :
    Over items (.crash crash)

section

variable {items more : List (List Lexeme)} {item lexemes : List Lexeme} {failure : Failure}

theorem Over.of_suffix (h : Over [lexemes] failure) (hpart : lexemes <:+ item)
    (hitem : item ∈ items) : Over items failure := by
  cases h with
  | fault cause hsplit => exact .fault cause hsplit
  | crash inner part crash among hsuffix hrefused =>
    rw [List.mem_singleton] at among
    subst among
    exact .crash item part crash hitem (hsuffix.trans hpart) hrefused

theorem Over.of_subset (h : Over more failure) (hsubset : more ⊆ items) : Over items failure := by
  cases h with
  | fault cause hsplit => exact .fault cause hsplit
  | crash item part crash among hsuffix hrefused =>
    exact .crash item part crash (hsubset among) hsuffix hrefused

theorem over_of_literal {what : Text} (h : literal lexemes what = .error failure) :
    Over [lexemes] failure := by
  unfold literal at h
  simp only at h
  split at h
  · cases h
  · cases h
    exact .fault _ (by simp)
  · rename_i kind hvalue
    cases h
    exact .crash lexemes lexemes _ (by simp) List.suffix_rfl (.unhashable kind hvalue)
  · rename_i hvalue
    cases h
    exact .crash lexemes lexemes _ (by simp) List.suffix_rfl (.tooLarge hvalue)

theorem over_of_invalid {α : Type} {key : Options.Key} {expected : String} {v : Value}
    (hv : Value.ofText (literalSource lexemes) = .ok v)
    (h : (Options.invalid key expected v : Result α) = .error failure) :
    Over [lexemes] failure := by
  unfold Options.invalid at h
  split at h
  · cases h
    exact .fault _ (by simp)
  · rename_i hunwritten
    cases h
    exact .crash lexemes lexemes _ (by simp) List.suffix_rfl (.digitLimit v hv hunwritten)

theorem over_of_set {options : Options} {key : Options.Key} {v : Value}
    (hv : Value.ofText (literalSource lexemes) = .ok v)
    (h : options.set key v = .error failure) : Over [lexemes] failure := by
  unfold Options.set at h
  split at h
  · split at h
    · cases h
    · exact over_of_invalid hv h
  · split at h
    · split_ifs at h
      exact over_of_invalid hv h
    · exact over_of_invalid hv h
  · split at h
    · split_ifs at h
      exact over_of_invalid hv h
    · exact over_of_invalid hv h

theorem ofText_of_literal {what : Text} {v : Value} (h : literal lexemes what = .ok v) :
    Value.ofText (literalSource lexemes) = .ok v := by
  unfold literal at h
  simp only at h
  split at h
  · rename_i hvalue
    rw [hvalue, Except.ok.inj h]
  all_goals cases h

theorem over_of_addOption {payload : Payload} {name : Text}
    (h : payload.addOption name lexemes = .error failure) : Over [lexemes] failure := by
  unfold Payload.addOption at h
  split at h
  · cases h
    exact .fault _ (by simp)
  · rename_i key _
    simp only at h
    split at h
    · cases h
      exact .fault _ (by simp)
    · split at h
      · cases h
        exact .fault _ (by simp)
      · rcases bind_eq_error.mp h with hliteral | ⟨v, hliteral, h⟩
        · exact over_of_literal hliteral
        · rcases bind_eq_error.mp h with hset | ⟨options, -, h⟩
          · exact over_of_set (ofText_of_literal hliteral) hset
          · cases h

theorem over_of_addPrompt {payload : Payload} (h : payload.addPrompt item = .error failure) :
    Over [item] failure := by
  rcases bind_eq_error.mp h with hliteral | ⟨v, -, h⟩
  · exact over_of_literal hliteral
  · split at h
    · cases h
    · cases h
      exact .fault _ (by simp)

theorem over_of_addItem {payload : Payload} {number : Nat} {first : Lexeme} {rest : List Lexeme}
    (h : payload.addItem number first rest = .error failure) : Over [first :: rest] failure := by
  have hother (h : Payload.addItem.other payload number first rest = .error failure) :
      Over [first :: rest] failure := by
    unfold Payload.addItem.other at h
    split_ifs at h
    · exact over_of_addPrompt h
    · cases h
      exact .fault _ (by simp)
  unfold Payload.addItem at h
  split at h
  · rename_i second value
    split_ifs at h
    · refine (over_of_addOption h).of_suffix ?_ (List.mem_singleton_self _)
      exact ⟨[first, second], rfl⟩
    · exact hother h
  · exact hother h

-- Whatever goes wrong goes wrong with one of the items.
theorem over_of_addItems {payload : Payload} {number : Nat}
    (h : payload.addItems number items = .error failure) : Over items failure := by
  induction items generalizing payload number with
  | nil => cases h
  | cons item rest ih =>
    cases item with
    | nil =>
      cases h
      exact .fault _ (by simp)
    | cons first tail =>
      unfold Payload.addItems at h
      split_ifs at h
      · cases h
        exact .fault _ (by simp)
      · rcases bind_eq_error.mp h with hadd | ⟨next, -, hrest⟩
        · exact (over_of_addItem hadd).of_subset (by simp)
        · exact (ih hrest).of_subset (List.subset_cons_self _ _)

end

-- A crash over a literal of a payload.
def Crashes (payload : Text) (crash : Crash) : Prop :=
  ∃ all item lexemes, items payload = .ok all ∧ item ∈ all ∧ lexemes <:+ item ∧
    Refused (literalSource lexemes) crash

-- Reading a payload fails with a fault without a location, or crashes over a literal.
theorem failure_of_ofText {payload : Text} {failure : Failure}
    (h : Payload.ofText payload = .error failure) :
    (∃ cause, failure = .ofCause cause) ∨
      ∃ crash, failure = .crash crash ∧ Crashes payload crash := by
  rcases bind_eq_error.mp h with hitems | ⟨all, hitems, h⟩
  · unfold items at hitems
    split at hitems
    · cases hitems
      exact .inl ⟨_, rfl⟩
    · cases hitems
  · split_ifs at h
    cases over_of_addItems h with
    | fault cause => exact .inl ⟨cause, rfl⟩
    | crash item lexemes crash among part refused =>
      exact .inr ⟨crash, rfl, all, item, lexemes, hitems, among, part, refused⟩

-- A payload cannot be taken apart only where the scanner fails on it.
theorem scan_of_unreadable {payload : Text} {e : ScanError}
    (h : Payload.ofText payload = .error (.ofCause (.directive (.unreadablePayload e)))) :
    scan ('(' :: payload ++ [')']) = .error e := by
  rcases bind_eq_error.mp h with hitems | ⟨all, -, h⟩
  · unfold items at hitems
    split at hitems
    · rename_i hscan
      cases hitems
      exact hscan
    · cases hitems
  · split_ifs at h
    generalize hfailure : Failure.ofCause (.directive (.unreadablePayload e)) = failure at h
    cases over_of_addItems h with
    | fault cause hsplit =>
      cases hfailure
      exact absurd rfl (hsplit e)
    | crash => cases hfailure

end Ghostwriter.Directive

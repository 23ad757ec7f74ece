import Ghostwriter.Proofs.Cache.Digest
import Mathlib.Tactic.NormNum
import Mathlib.Tactic.Ring

/-!
The seed of a directive that sets none: the first 64 of the 256 bits of its digest, without the
highest one. A digest is nothing but digits, so that it always gives such a number.
-/

namespace Ghostwriter

open Ghostwriter.Text

namespace Text

variable {base : Nat} {t u : Text}

-- Digits in front of others count as much more as there are others.
theorem foldl_digits (base value : Nat) (t : Text) :
    t.foldl (fun value c => value * base + digitOf c) value =
      value * base ^ t.length + t.foldl (fun value c => value * base + digitOf c) 0 := by
  induction t generalizing value with
  | nil => simp
  | cons c t ih =>
    rw [List.foldl_cons, List.foldl_cons, ih (value * base + digitOf c), ih (0 * base + digitOf c),
      List.length_cons, Nat.pow_succ']
    ring

theorem filter_underscore (h : '_' ∉ t) : t.filter (· ≠ '_') = t := by
  rw [List.filter_eq_self]
  intro c hc
  exact decide_eq_true fun heq => h (heq ▸ hc)

theorem valueOf_append (h : '_' ∉ u) :
    valueOf base (t ++ u) = valueOf base t * base ^ u.length + valueOf base u := by
  rw [valueOf, List.filter_append, List.foldl_append, foldl_digits, filter_underscore h]
  simp only [valueOf, filter_underscore h]

theorem valueOf_singleton {c : Char} (h : c ≠ '_') : valueOf base [c] = digitOf c := by
  simp [valueOf, h]

theorem valueOf_lt (hnone : '_' ∉ t) (h : ∀ c ∈ t, digitOf c < base) :
    valueOf base t < base ^ t.length := by
  induction t with
  | nil => simp [valueOf]
  | cons c t ih =>
    rw [List.forall_mem_cons] at h
    rw [List.mem_cons, not_or] at hnone
    have hrest := ih hnone.2 h.2
    rw [← List.singleton_append, valueOf_append hnone.2, valueOf_singleton (Ne.symm hnone.1),
      List.length_append, List.length_singleton, Nat.add_comm 1, Nat.pow_succ']
    calc
      digitOf c * base ^ t.length + valueOf base t < digitOf c * base ^ t.length + base ^ t.length :=
        Nat.add_lt_add_left hrest _
      _ = (digitOf c + 1) * base ^ t.length := by ring
      _ ≤ base * base ^ t.length := Nat.mul_le_mul_right _ h.1

end Text

namespace Key

-- The first 64 of the 256 bits of a digest, as a number.
def leadingBits (digest : Text) : Nat := valueOf 16 digest / 2 ^ 192

section

variable {t : Text} {c : Char}

theorem isNumberBlank_of_isKeyChar (h : Cache.isKeyChar c) : isNumberBlank c = false := by
  have hrange := (Cache.isKeyChar_iff c).mp h
  have hne : c ≠ ' ' := by
    rintro rfl
    exact absurd h (by decide)
  simp only [isNumberBlank, if_pos (show c.toNat < 127 by omega), hne, decide_false, Bool.false_or,
    Bool.and_eq_false_iff, decide_eq_false_iff_not]
  omega

theorem digit_of_isKeyChar (h : Cache.isKeyChar c) :
    hexValue? c = some (digitOf c) ∧ digitOf c < 16 := by
  have hrange := (Cache.isKeyChar_iff c).mp h
  have hzero : '0' ≤ c ↔ 48 ≤ c.toNat := Iff.rfl
  have hnine : c ≤ '9' ↔ c.toNat ≤ 57 := Iff.rfl
  have ha : 'a' ≤ c ↔ 97 ≤ c.toNat := Iff.rfl
  have hf : c ≤ 'f' ↔ c.toNat ≤ 102 := Iff.rfl
  have hA : 'A' ≤ c ↔ 65 ≤ c.toNat := Iff.rfl
  have hF : c ≤ 'F' ↔ c.toNat ≤ 70 := Iff.rfl
  simp only [hexValue?, digitOf, digitValue?, Bool.and_eq_true, decide_eq_true_eq, hzero, hnine, ha,
    hf, hA, hF]
  rcases hrange with ⟨hlow, hhigh⟩ | ⟨hlow, hhigh⟩
  · have hsmall : ¬ (97 ≤ c.toNat ∧ c.toNat ≤ 102) ∧ ¬ (65 ≤ c.toNat ∧ c.toNat ≤ 70) := by omega
    rw [if_neg hsmall.1, if_neg hsmall.2, if_pos ⟨hlow, hhigh⟩, if_pos ⟨hlow, hhigh⟩]
    exact ⟨rfl, by omega⟩
  · have hlarge : ¬ (48 ≤ c.toNat ∧ c.toNat ≤ 57) := by omega
    rw [if_pos ⟨hlow, hhigh⟩, if_neg hlarge, if_pos ⟨hlow, hhigh⟩]
    exact ⟨rfl, by omega⟩

theorem underscore_not_mem (h : ∀ c ∈ t, Cache.isKeyChar c) : '_' ∉ t :=
  fun hmem => absurd (h _ hmem) (by decide)

theorem hexNumber?_eq (hne : t ≠ []) (h : ∀ c ∈ t, Cache.isKeyChar c) (value : Nat) :
    hexNumber? value t = some (value * 16 ^ t.length + valueOf 16 t) := by
  induction t generalizing value with
  | nil => exact absurd rfl hne
  | cons c rest ih =>
    have hnone := underscore_not_mem h
    rw [List.forall_mem_cons] at h
    rw [List.mem_cons, not_or] at hnone
    have hdigit := (digit_of_isKeyChar h.1).1
    have hvalue : valueOf 16 [c] = digitOf c := valueOf_singleton (Ne.symm hnone.1)
    cases rest with
    | nil => simp [hexNumber?, hdigit, hvalue]
    | cons d rest =>
      have hd : d ≠ '_' := fun heq => hnone.2 (by simp [heq])
      have hsplit : valueOf 16 (c :: d :: rest) =
          digitOf c * 16 ^ (d :: rest).length + valueOf 16 (d :: rest) := by
        rw [← List.singleton_append, valueOf_append hnone.2, hvalue]
      simp only [hexNumber?, hdigit, if_neg hd]
      rw [ih (List.cons_ne_nil d rest) h.2, hsplit, Option.some.injEq, List.length_cons (a := c),
        Nat.pow_succ']
      ring

theorem unprefixed_of_isKeyChar (h : ∀ c ∈ t, Cache.isKeyChar c) : unprefixed t = t := by
  unfold unprefixed
  split
  · rename_i z x rest
    have hx := h x (by simp)
    have hne : x ≠ 'x' ∧ x ≠ 'X' := by
      constructor <;>
      · rintro rfl
        exact absurd hx (by decide)
    simp [hne]
  · rfl

theorem hexInteger?_eq (hne : t ≠ []) (h : ∀ c ∈ t, Cache.isKeyChar c) :
    hexInteger? t = some (valueOf 16 t : Int) := by
  have hbare : dropRightWhile isNumberBlank (t.dropWhile isNumberBlank) = t := by
    have hblank : ∀ c ∈ t, isNumberBlank c = false :=
      fun c hc => isNumberBlank_of_isKeyChar (h c hc)
    have hfront : t.dropWhile isNumberBlank = t := by
      cases t with
      | nil => rfl
      | cons c rest => rw [List.dropWhile_cons_of_neg (by simp [hblank c])]
    rw [hfront, dropRightWhile_of_getLast? fun c hc => hblank c (List.mem_of_getLast? hc)]
  unfold hexInteger?
  simp only [hbare]
  split
  · exact absurd (h _ List.mem_cons_self) (by decide)
  · exact absurd (h _ List.mem_cons_self) (by decide)
  · rw [unprefixed_of_isKeyChar h, hexNumber?_eq hne h, Nat.zero_mul, Nat.zero_add]
    rfl

end

theorem leadingBits_eq {digest : Text} (hlength : digest.length = 64)
    (h : ∀ c ∈ digest, Cache.isKeyChar c) :
    leadingBits digest = valueOf 16 (digest.take seedDigits) := by
  have hrest : ∀ c ∈ digest.drop seedDigits, Cache.isKeyChar c :=
    fun c hc => h c (List.mem_of_mem_drop hc)
  have hcount : (digest.drop seedDigits).length = 48 := by
    rw [List.length_drop, hlength]
    rfl
  have hsmall := valueOf_lt (underscore_not_mem hrest) fun c hc => (digit_of_isKeyChar (hrest c hc)).2
  have hsplit := @valueOf_append 16 (digest.take seedDigits) _ (underscore_not_mem hrest)
  have hpower : 16 ^ 48 = 2 ^ 192 := by norm_num
  rw [List.take_append_drop, hcount, hpower] at hsplit
  rw [hcount, hpower] at hsmall
  rw [leadingBits, hsplit, Nat.mul_comm, Nat.mul_add_div (by norm_num),
    Nat.div_eq_of_lt hsmall, Nat.add_zero]

-- A digest always gives a seed.
theorem defaultSeed_digest (source : Bytes) (entryPoint payload : Text) :
    defaultSeed (digest source entryPoint payload) =
      .ok (leadingBits (digest source entryPoint payload) % 2 ^ 63) := by
  have hlength : (digest source entryPoint payload).length = 64 := Hash.length_sha256 _
  have hdigits : ∀ c ∈ digest source entryPoint payload, Cache.isKeyChar c :=
    fun c hc => Hash.isKeyChar_of_mem_sha256 hc
  have hhead : (digest source entryPoint payload).take seedDigits ≠ [] := by
    rw [← List.length_pos_iff, List.length_take, hlength]
    decide
  have hnumber := hexInteger?_eq hhead fun c hc => hdigits c (List.mem_of_mem_take hc)
  have hmax : (Options.maxSeed : Int) + 1 = ((2 ^ 63 : Nat) : Int) := by decide
  simp only [defaultSeed, hnumber]
  rw [hmax, ← Int.natCast_mod, Int.toNat_natCast, leadingBits_eq hlength hdigits]

end Key

end Ghostwriter

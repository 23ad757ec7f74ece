import Ghostwriter.Grammar.Escape
import Ghostwriter.Text.Quoted
import Mathlib.Data.Bool.AllAny
import Mathlib.Data.List.TakeWhile
import Mathlib.Tactic.IntervalCases
import Mathlib.Tactic.SplitIfs

/-!
What is written is read back. The digits of a number lead back to it, and so do the escapes between
quotes to the text: there each character stands for itself or is an escape that stands for it.
-/

namespace Ghostwriter.Text

open Ghostwriter.Grammar Ghostwriter.Lexeme

theorem digit_digitChar {n : Nat} (h : n < 16) :
    digitOf (Nat.digitChar n) = n ∧ isHexDigit (Nat.digitChar n) = true ∧
      Nat.digitChar n ≠ '_' := by
  interval_cases n <;> decide

theorem valueOf_concat {base : Nat} {c : Char} (digits : Text) (h : c ≠ '_') :
    valueOf base (digits ++ [c]) = valueOf base digits * base + digitOf c := by
  simp [valueOf, h]

theorem decimal_of_lt {n : Nat} (h : n < 10) : decimal n = [Nat.digitChar n] :=
  Nat.toDigits_of_lt_base h

theorem decimal_of_le {n : Nat} (h : 10 ≤ n) :
    decimal n = decimal (n / 10) ++ [Nat.digitChar (n % 10)] := by
  have hlast : n % 10 < 10 := Nat.mod_lt n (by decide)
  have hsplit := Nat.toDigits_append_toDigits (by decide : 1 < 10)
    (Nat.div_pos h (by decide)) hlast
  rw [Nat.div_add_mod, Nat.toDigits_of_lt_base hlast] at hsplit
  exact hsplit.symm

theorem decimal_ne_nil (n : Nat) : decimal n ≠ [] :=
  List.ne_nil_of_length_pos Nat.length_toDigits_pos

-- What is true of the ten digits is true of each digit of a number.
theorem of_mem_decimal {p : Char → Prop} (h : ∀ d ∈ "0123456789".toList, p d) (n : Nat) :
    ∀ c ∈ decimal n, p c := by
  have hdigit {n : Nat} (hn : n < 10) : Nat.digitChar n ∈ "0123456789".toList := by
    interval_cases n <;> decide
  induction n using Nat.strongRecOn with
  | ind n ih =>
    rcases Nat.lt_or_ge n 10 with hsmall | hlarge
    · simpa [decimal_of_lt hsmall] using h _ (hdigit hsmall)
    · rw [decimal_of_le hlarge, List.forall_mem_append]
      have hlast := h _ (hdigit (Nat.mod_lt n (by decide)))
      exact ⟨ih _ (by omega), by simpa using hlast⟩

theorem isDigit_of_mem_decimal (n : Nat) : ∀ c ∈ decimal n, isDigit c = true :=
  of_mem_decimal (by decide) n

theorem valueOf_decimal (n : Nat) : valueOf 10 (decimal n) = n := by
  induction n using Nat.strongRecOn with
  | ind n ih =>
    rcases Nat.lt_or_ge n 10 with hsmall | hlarge
    · obtain ⟨hdigit, -, hne⟩ := digit_digitChar (show n < 16 by omega)
      rw [decimal_of_lt hsmall, ← List.nil_append [_], valueOf_concat _ hne, hdigit]
      exact Nat.zero_add n
    · obtain ⟨hdigit, -, hne⟩ := digit_digitChar (show n % 10 < 16 by omega)
      rw [decimal_of_le hlarge, valueOf_concat _ hne, ih _ (by omega), hdigit]
      omega

-- Only zero is written with a zero at its head.
theorem head_decimal {n : Nat} (h : 0 < n) :
    ∃ c rest, decimal n = c :: rest ∧ c ≠ '0' := by
  induction n using Nat.strongRecOn with
  | ind n ih =>
    rcases Nat.lt_or_ge n 10 with hsmall | hlarge
    · refine ⟨_, [], decimal_of_lt hsmall, ?_⟩
      interval_cases n <;> decide
    · obtain ⟨c, rest, hrest, hzero⟩ := ih (n / 10) (by omega) (by omega)
      exact ⟨c, rest ++ [_], by rw [decimal_of_le hlarge, hrest]; rfl, hzero⟩

theorem length_hexDigits (width n : Nat) : (hexDigits width n).length = width := by
  induction width generalizing n with
  | zero => rfl
  | succ width ih => rw [hexDigits, List.length_append, ih, List.length_singleton]

theorem isHexDigit_of_mem_hexDigits {width n : Nat} :
    ∀ c ∈ hexDigits width n, isHexDigit c = true := by
  induction width generalizing n with
  | zero => simp [hexDigits]
  | succ width ih =>
    have hlast := (digit_digitChar (Nat.mod_lt n (by decide : 0 < 16))).2.1
    rw [hexDigits, List.forall_mem_append]
    exact ⟨ih, by simpa using hlast⟩

theorem valueOf_hexDigits (width n : Nat) : valueOf 16 (hexDigits width n) = n % 16 ^ width := by
  induction width generalizing n with
  | zero => rw [Nat.pow_zero, Nat.mod_one]; rfl
  | succ width ih =>
    obtain ⟨hdigit, -, hne⟩ := digit_digitChar (Nat.mod_lt n (by decide : 0 < 16))
    rw [hexDigits, valueOf_concat _ hne, ih, hdigit, Nat.pow_succ', Nat.mod_mul, Nat.mul_comm,
      Nat.add_comm]

theorem hexRun?_hexDigits {width n : Nat} (h : n < 16 ^ width) (rest : Text) :
    hexRun? width (hexDigits width n ++ rest) = some n := by
  have htake : (hexDigits width n ++ rest).take width = hexDigits width n :=
    List.take_left' (length_hexDigits width n)
  have hall : (hexDigits width n).takeWhile isHexDigit = hexDigits width n :=
    List.takeWhile_eq_self_iff.mpr isHexDigit_of_mem_hexDigits
  simp only [hexRun?, htake, hall, length_hexDigits, if_true, valueOf_hexDigits, Nat.mod_eq_of_lt h]

-- No character is a surrogate.
theorem scalar_toNat (c : Char) : scalar c.toNat = c := by
  have hvalid : c.toNat < 0xD800 ∨ 0xDFFF < c.toNat ∧ c.toNat < 0x110000 := c.valid
  have hrange : (decide (0xD800 ≤ c.toNat) && decide (c.toNat ≤ 0xDFFF)) = false := by
    rw [Bool.and_eq_false_iff, decide_eq_false_iff_not, decide_eq_false_iff_not]
    omega
  rw [scalar, hrange]
  exact Char.ofNat_toNat c

-- The letters that announce a code point in a number of digits.
def codePoints : List (Char × Nat) := [('x', 2), ('u', 4), ('U', 8)]

theorem escapeAt?_codePoint {letter c : Char} {width : Nat} (h : (letter, width) ∈ codePoints)
    (hsmall : c.toNat < 16 ^ width) (rest : Text) :
    escapeAt? (letter :: hexDigits width c.toNat ++ rest) = some ([c], rest) := by
  have hlimit : ¬ 0x10FFFF < c.toNat := by
    have hvalid : c.toNat < 0xD800 ∨ 0xDFFF < c.toNat ∧ c.toNat < 0x110000 := c.valid
    omega
  have hdrop : (hexDigits width c.toNat ++ rest).drop width = rest :=
    List.drop_left' (length_hexDigits width c.toNat)
  simp only [codePoints, List.mem_cons, Prod.mk.injEq, List.not_mem_nil, or_false] at h
  rcases h with ⟨rfl, rfl⟩ | ⟨rfl, rfl⟩ | ⟨rfl, rfl⟩ <;>
    simp [escapeAt?, simpleEscape?, hexWidth?, hexRun?_hexDigits hsmall, hlimit, hdrop,
      scalar_toNat]

-- How a character is written between quotes of this kind: as it is, or as a backslash, a character
-- and hexadecimal digits that stand for it together.
inductive WrittenAs (quote c : Char) : Text → Prop
  | itself (printable : isPrintable c = true) (other : c ≠ quote) (slash : c ≠ '\\') :
      WrittenAs quote c [c]
  | escape {letter : Char} {digits : Text} (printable : isPrintable letter = true)
      (hex : ∀ d ∈ digits, isHexDigit d = true)
      (stands : ∀ rest, escapeAt? (letter :: digits ++ rest) = some ([c], rest)) :
      WrittenAs quote c ('\\' :: letter :: digits)

theorem writtenAs_codePoint {quote letter c : Char} {width : Nat}
    (h : (letter, width) ∈ codePoints) (hsmall : c.toNat < 16 ^ width) :
    WrittenAs quote c ('\\' :: letter :: hexDigits width c.toNat) := by
  have hprintable : ∀ l ∈ codePoints, isPrintable l.1 = true :=
    List.all_iff_forall_prop.mp (by decide +kernel)
  exact .escape (hprintable _ h) isHexDigit_of_mem_hexDigits (escapeAt?_codePoint h hsmall)

theorem writtenAs_escapeChar {quote : Char} (hquote : isQuote quote = true) (c : Char) :
    WrittenAs quote c (escapeChar quote c) := by
  have hquotes : quote = '\'' ∨ quote = '"' := by simpa [isQuote] using hquote
  unfold escapeChar
  split_ifs with hsame hbreak hreturn htab hprintable hone htwo
  · have hcases : c = '\'' ∨ c = '"' ∨ c = '\\' := by
      rw [Bool.or_eq_true, decide_eq_true_eq, decide_eq_true_eq] at hsame
      rcases hsame with rfl | rfl
      · exact hquotes.imp_right .inl
      · exact .inr (.inr rfl)
    rcases hcases with rfl | rfl | rfl <;>
      exact .escape (by decide) (by simp) fun rest => rfl
  · subst hbreak
    exact .escape (by decide) (by simp) fun rest => rfl
  · subst hreturn
    exact .escape (by decide) (by simp) fun rest => rfl
  · subst htab
    exact .escape (by decide) (by simp) fun rest => rfl
  · rw [Bool.or_eq_true, decide_eq_true_eq, decide_eq_true_eq, not_or] at hsame
    exact .itself hprintable hsame.1 hsame.2
  · exact writtenAs_codePoint (by decide) hone
  · exact writtenAs_codePoint (by decide) htwo
  · have hvalid : c.toNat < 0xD800 ∨ 0xDFFF < c.toNat ∧ c.toNat < 0x110000 := c.valid
    exact writtenAs_codePoint (by decide) (by omega)

-- Unescaping comes back to the text.
theorem unescapeUpTo_escaped {quote : Char} (hquote : isQuote quote = true) {t : Text} {fuel : Nat}
    (h : (t.flatMap (escapeChar quote)).length ≤ fuel) :
    unescapeUpTo fuel (t.flatMap (escapeChar quote)) = some t := by
  induction t generalizing fuel with
  | nil => cases fuel <;> rfl
  | cons c t ih =>
    rw [List.flatMap_cons] at h ⊢
    generalize escapeChar quote c = written, writtenAs_escapeChar hquote c = hwritten at h ⊢
    cases hwritten with
    | itself _ _ hslash =>
      obtain ⟨fuel, rfl⟩ : ∃ more, fuel = more + 1 := ⟨fuel - 1, by simp at h; omega⟩
      rw [List.singleton_append, unescapeUpTo.eq_4 _ _ _ hslash, ih (by simpa using h)]
      rfl
    | @escape letter digits _ _ hstands =>
      obtain ⟨fuel, rfl⟩ : ∃ more, fuel = more + 1 := ⟨fuel - 1, by simp at h; omega⟩
      simp only [List.length_append, List.length_cons] at h
      rw [List.cons_append, unescapeUpTo, hstands]
      simp only [ih (show _ ≤ fuel by omega)]
      rfl

theorem unescape?_escaped {quote : Char} (hquote : isQuote quote = true) (t : Text) :
    unescape? (t.flatMap (escapeChar quote)) = some t := unescapeUpTo_escaped hquote le_rfl

-- The quote itself, a line feed and a character that cannot be printed are escaped.
example : "'\n\x7f".toList.flatMap (escapeChar '\'') = "\\'\\n\\x7f".toList := by decide +kernel

end Ghostwriter.Text

import Ghostwriter.Text.Utf8
import Mathlib.Data.List.Basic
import Mathlib.Tactic.NormNum

/-!
Encoding loses nothing: decoding an encoded text gives the text back, so that different texts have
different bytes. The byte zero stands for the null character and for nothing else.
-/

namespace Ghostwriter.Text

-- A code point is not a surrogate and stays below the upper limit.
private theorem codePoint (c : Char) :
    c.toNat < 0xD800 ∨ (0xDFFF < c.toNat ∧ c.toNat < 0x110000) := by
  have h := c.valid
  rw [UInt32.isValidChar, Nat.isValidChar] at h
  exact h

private theorem exists_byte (n : Nat) (hn : n < 256) :
    ∃ b : UInt8, b = UInt8.ofNat n ∧ b.toNat = n :=
  ⟨UInt8.ofNat n, rfl, by simp [UInt8.toNat_ofNat', Nat.mod_eq_of_lt hn]⟩

private theorem continueChar_next (value count : Nat) (read rest : Bytes) (low high b : UInt8)
    (hlow : low.toNat ≤ b.toNat) (hhigh : b.toNat ≤ high.toNat) :
    continueChar value read low high (count + 1) (b :: rest) =
      continueChar (value * 0x40 + b.toNat % 0x40) (b :: read) 0x80 0xBF count rest := by
  have hl : low ≤ b := UInt8.le_iff_toNat_le.mpr hlow
  have hh : b ≤ high := UInt8.le_iff_toNat_le.mpr hhigh
  simp [continueChar, hl, hh]

-- The rule for a first byte, in terms of its value.
private theorem follow?_eq (b : UInt8) :
    follow? b =
      if 0xC2 ≤ b.toNat ∧ b.toNat ≤ 0xDF then some (1, 0x80, 0xBF)
      else if b.toNat = 0xE0 then some (2, 0xA0, 0xBF)
      else if b.toNat = 0xED then some (2, 0x80, 0x9F)
      else if 0xE1 ≤ b.toNat ∧ b.toNat ≤ 0xEF then some (2, 0x80, 0xBF)
      else if b.toNat = 0xF0 then some (3, 0x90, 0xBF)
      else if b.toNat = 0xF4 then some (3, 0x80, 0x8F)
      else if 0xF1 ≤ b.toNat ∧ b.toNat ≤ 0xF3 then some (3, 0x80, 0xBF)
      else none := by
  simp [follow?, UInt8.le_iff_toNat_le, ← UInt8.toNat_inj]

-- A character that takes more than one byte, from its first two bytes and the value of the others.
private theorem firstChar_lead (b b' : UInt8) (count : Nat) (low high : UInt8) (rest : Bytes)
    (hlead : 0x80 ≤ b.toNat) (hfollow : follow? b = some (count + 1, low, high))
    (hlow : low.toNat ≤ b'.toNat) (hhigh : b'.toNat ≤ high.toNat) :
    firstChar b (b' :: rest) =
      continueChar (leadValue (count + 1) b * 0x40 + b'.toNat % 0x40) [b', b] 0x80 0xBF count
        rest := by
  have hb : ¬ b < 0x80 := by
    rw [UInt8.lt_iff_toNat_lt]
    simpa using hlead
  simp only [firstChar, hb, if_false, hfollow]
  rw [continueChar_next _ _ _ _ _ _ _ hlow hhigh]

-- The bytes of a character are read back as that character, whatever follows them.
theorem firstChar_encodeChar (c : Char) (rest : Bytes) :
    ∃ b more, encodeChar c = b :: more ∧ firstChar b (more ++ rest) = .char c rest := by
  have hpoint := codePoint c
  by_cases h1 : c.toNat < 0x80
  · obtain ⟨b, hb, hbn⟩ := exists_byte c.toNat (by omega)
    refine ⟨b, [], by simp [encodeChar, h1, hb], ?_⟩
    have hlt : b < 0x80 := UInt8.lt_iff_toNat_lt.mpr (by simp only [hbn]; exact h1)
    simp [firstChar, hlt, hbn, Char.ofNat_toNat]
  by_cases h2 : c.toNat < 0x800
  · obtain ⟨b, hb, hbn⟩ := exists_byte (0xC0 + c.toNat / 0x40) (by omega)
    obtain ⟨b', hb', hbn'⟩ := exists_byte (0x80 + c.toNat % 0x40) (by omega)
    refine ⟨b, [b'], by simp only [encodeChar, h1, h2, if_false, if_true, hb, hb'], ?_⟩
    have hfollow : follow? b = some (0 + 1, 0x80, 0xBF) := by
      rw [follow?_eq, hbn, if_pos (by omega)]
    have hvalue : leadValue 1 b * 0x40 + b'.toNat % 0x40 = c.toNat := by
      simp only [leadValue, hbn, hbn']
      omega
    rw [List.singleton_append, firstChar_lead _ _ _ _ _ _ (by omega) hfollow
      (by simp [hbn']) (by simp [hbn']; omega)]
    simp only [continueChar, Nat.zero_add, hvalue, Char.ofNat_toNat]
  by_cases h3 : c.toNat < 0x10000
  · obtain ⟨b, hb, hbn⟩ := exists_byte (0xE0 + c.toNat / 0x1000) (by omega)
    obtain ⟨b', hb', hbn'⟩ := exists_byte (0x80 + c.toNat / 0x40 % 0x40) (by omega)
    obtain ⟨b'', hb'', hbn''⟩ := exists_byte (0x80 + c.toNat % 0x40) (by omega)
    refine ⟨b, [b', b''], by simp only [encodeChar, h1, h2, h3, if_false, if_true, hb, hb', hb''],
      ?_⟩
    -- the second byte keeps clear of overlong forms and of surrogates
    have hfollow : ∃ low high, follow? b = some (1 + 1, low, high) ∧
        low.toNat ≤ b'.toNat ∧ b'.toNat ≤ high.toNat := by
      rw [follow?_eq, hbn, hbn', if_neg (by omega)]
      split_ifs
      · exact ⟨_, _, rfl, by simp; omega, by simp; omega⟩
      · exact ⟨_, _, rfl, by simp, by simp; omega⟩
      · exact ⟨_, _, rfl, by simp, by simp; omega⟩
      all_goals omega
    obtain ⟨low, high, hfollow, hlow, hhigh⟩ := hfollow
    have hvalue :
        (leadValue 2 b * 0x40 + b'.toNat % 0x40) * 0x40 + b''.toNat % 0x40 = c.toNat := by
      simp only [leadValue, hbn, hbn', hbn'']
      omega
    rw [List.cons_append, List.singleton_append,
      firstChar_lead _ _ _ _ _ _ (by omega) hfollow hlow hhigh,
      continueChar_next _ _ _ _ _ _ _ (by simp [hbn'']) (by simp [hbn'']; omega)]
    simp only [continueChar, Nat.reduceAdd, hvalue, Char.ofNat_toNat]
  · obtain ⟨b, hb, hbn⟩ := exists_byte (0xF0 + c.toNat / 0x40000) (by omega)
    obtain ⟨b', hb', hbn'⟩ := exists_byte (0x80 + c.toNat / 0x1000 % 0x40) (by omega)
    obtain ⟨b'', hb'', hbn''⟩ := exists_byte (0x80 + c.toNat / 0x40 % 0x40) (by omega)
    obtain ⟨b3, hb3, hbn3⟩ := exists_byte (0x80 + c.toNat % 0x40) (by omega)
    refine ⟨b, [b', b'', b3],
      by simp only [encodeChar, h1, h2, h3, if_false, hb, hb', hb'', hb3], ?_⟩
    -- the second byte keeps clear of overlong forms and of what lies behind the last code point
    have hfollow : ∃ low high, follow? b = some (2 + 1, low, high) ∧
        low.toNat ≤ b'.toNat ∧ b'.toNat ≤ high.toNat := by
      rw [follow?_eq, hbn, hbn', if_neg (by omega), if_neg (by omega), if_neg (by omega),
        if_neg (by omega)]
      split_ifs
      · exact ⟨_, _, rfl, by simp; omega, by simp; omega⟩
      · exact ⟨_, _, rfl, by simp, by simp; omega⟩
      · exact ⟨_, _, rfl, by simp, by simp; omega⟩
      all_goals omega
    obtain ⟨low, high, hfollow, hlow, hhigh⟩ := hfollow
    have hvalue :
        ((leadValue 3 b * 0x40 + b'.toNat % 0x40) * 0x40 + b''.toNat % 0x40) * 0x40 +
          b3.toNat % 0x40 = c.toNat := by
      simp only [leadValue, hbn, hbn', hbn'', hbn3]
      omega
    rw [List.cons_append, List.cons_append, List.singleton_append,
      firstChar_lead _ _ _ _ _ _ (by omega) hfollow hlow hhigh,
      continueChar_next _ _ _ _ _ _ _ (by simp [hbn'']) (by simp [hbn'']; omega),
      continueChar_next _ _ _ _ _ _ _ (by simp [hbn3]) (by simp [hbn3]; omega)]
    simp only [continueChar, Nat.reduceAdd, hvalue, Char.ofNat_toNat]

private theorem decodeFrom_encode (t : Text) (fuel position : Nat) (hfuel : t.length ≤ fuel) :
    decodeFrom fuel position (encode t) = .ok t := by
  induction t generalizing fuel position with
  | nil => cases fuel <;> rfl
  | cons c rest ih =>
    obtain ⟨fuel, rfl⟩ : ∃ n, fuel = n + 1 := ⟨fuel - 1, by simp at hfuel; omega⟩
    obtain ⟨b, more, hbytes, hfirst⟩ := firstChar_encodeChar c (encode rest)
    have hencode : encode (c :: rest) = b :: (more ++ encode rest) := by
      simp [encode, hbytes]
    rw [hencode, decodeFrom, hfirst]
    simp only [ih fuel _ (by simpa using hfuel), Except.map]

theorem encodeChar_ne_nil (c : Char) : encodeChar c ≠ [] := by
  obtain ⟨b, more, hbytes, -⟩ := firstChar_encodeChar c []
  simp [hbytes]

theorem length_le_encode (t : Text) : t.length ≤ (encode t).length := by
  induction t with
  | nil => simp
  | cons c rest ih =>
    have hpos := List.length_pos_iff.mpr (encodeChar_ne_nil c)
    simp only [encode, List.flatMap_cons, List.length_append, List.length_cons] at ih ⊢
    omega

@[simp] theorem decode_encode (t : Text) : decode (encode t) = .ok t :=
  decodeFrom_encode t _ 0 (length_le_encode t)

theorem encode_injective : Function.Injective encode := by
  intro s t h
  have hdecode := congrArg decode h
  simpa using hdecode

@[simp] theorem encode_append (s t : Text) : encode (s ++ t) = encode s ++ encode t := by
  simp [encode]

-- Text in ASCII has one byte for each character.
theorem length_encode_of_ascii {t : Text} (h : ∀ c ∈ t, c.toNat < 0x80) :
    (encode t).length = t.length := by
  induction t with
  | nil => rfl
  | cons c rest ih =>
    rw [List.forall_mem_cons] at h
    have hrest := ih h.2
    simp only [encode, List.flatMap_cons, List.length_append, List.length_cons] at hrest ⊢
    rw [hrest, encodeChar, if_pos h.1, List.length_singleton, Nat.add_comm]

private theorem zero_mem_encodeChar (c : Char) : 0 ∈ encodeChar c ↔ c = '\x00' := by
  have hpoint := codePoint c
  have hnull : c = '\x00' ↔ c.toNat = 0 := by
    constructor
    · rintro rfl
      rfl
    · intro h
      rw [← Char.ofNat_toNat c, h]
  have hbyte (n : Nat) (hn : n < 256) : 0 = UInt8.ofNat n ↔ n = 0 := by
    rw [← UInt8.toNat_inj]
    simp [UInt8.toNat_ofNat', Nat.mod_eq_of_lt hn, eq_comm]
  rw [hnull]
  simp only [encodeChar]
  split_ifs
  · simp only [List.mem_singleton]
    exact hbyte _ (by omega)
  all_goals
    simp only [List.mem_cons, List.not_mem_nil, or_false]
    repeat rw [hbyte _ (by omega)]
    omega

theorem zero_mem_encode (t : Text) : 0 ∈ encode t ↔ '\x00' ∈ t := by
  simp [encode, zero_mem_encodeChar]

example : encode "é\x00".toList = [0xc3, 0xa9, 0] := by decide +kernel

end Ghostwriter.Text

import Ghostwriter.Cache.Basic
import Ghostwriter.Cache.Key
import Ghostwriter.Proofs.Text.Utf8
import Mathlib.Tactic.SplitIfs

/-!
The shape of digests: 64 hexadecimal digits in lower case, which is what keys are made of.
-/

namespace Ghostwriter

open Ghostwriter.Text

theorem Cache.isKeyChar_iff (c : Char) :
    Cache.isKeyChar c ↔
      (48 ≤ c.toNat ∧ c.toNat ≤ 57) ∨ (97 ≤ c.toNat ∧ c.toNat ≤ 102) := by
  simp only [isKeyChar, Bool.or_eq_true, Bool.and_eq_true, decide_eq_true_eq]
  exact Iff.rfl

namespace Hash

theorem length_bigEndian (count n : Nat) : (bigEndian count n).length = count := by
  induction count generalizing n with
  | zero => rfl
  | succ count ih => simp [bigEndian, ih]

theorem length_hexWord (w : UInt32) : (hexWord w).length = 8 := by
  simp [hexWord, List.length_flatMap, length_bigEndian]

theorem isKeyChar_digitChar (n : Nat) (hn : n < 16) : Cache.isKeyChar (Nat.digitChar n) := by
  revert n
  decide

theorem isKeyChar_of_mem_hexWord {w : UInt32} {c : Char} (h : c ∈ hexWord w) :
    Cache.isKeyChar c := by
  simp only [hexWord, List.mem_flatMap, List.mem_cons, List.not_mem_nil, or_false] at h
  obtain ⟨b, -, hc⟩ := h
  have hb := b.toNat_lt
  cases hc with
  | inl hc => exact hc ▸ isKeyChar_digitChar _ (by omega)
  | inr hc => exact hc ▸ isKeyChar_digitChar _ (by omega)

theorem length_sha256 (message : Bytes) : (sha256 message).length = 64 := by
  simp [sha256, length_hexWord]

theorem isKeyChar_of_mem_sha256 {message : Bytes} {c : Char} (h : c ∈ sha256 message) :
    Cache.isKeyChar c := by
  simp only [sha256, List.mem_flatMap] at h
  obtain ⟨w, -, hc⟩ := h
  exact isKeyChar_of_mem_hexWord hc

theorem isKey_sha256 (message : Bytes) : Cache.isKey (sha256 message) := by
  have htake : (sha256 message).take 64 = sha256 message :=
    List.take_of_length_le (length_sha256 message).le
  have hdrop : (sha256 message).drop 64 = [] :=
    List.drop_eq_nil_of_le (length_sha256 message).le
  have hall : (sha256 message).all Cache.isKeyChar :=
    List.all_eq_true.mpr fun _ h => isKeyChar_of_mem_sha256 h
  simp [Cache.isKey, htake, hdrop, length_sha256, hall]

end Hash

namespace Key

theorem isKey_ofDigest (digest model : Text) : Cache.isKey (ofDigest digest model) :=
  Hash.isKey_sha256 _

theorem zero_not_mem_encode_digest (source : Bytes) (entryPoint payload : Text) :
    0 ∉ encode (digest source entryPoint payload) := by
  rw [zero_mem_encode]
  intro h
  exact absurd (Hash.isKeyChar_of_mem_sha256 h) (by decide)

end Key

end Ghostwriter

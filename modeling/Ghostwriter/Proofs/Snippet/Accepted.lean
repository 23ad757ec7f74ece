import Ghostwriter.Proofs.Text.Breaks
import Ghostwriter.Snippet.Basic

/-!
Snippets that come from a response.
-/

namespace Ghostwriter.Snippet

open Ghostwriter.Grammar Ghostwriter.Text

theorem check_eq_ok {code : Text} {items : List StatementKind} :
    check code = .ok items ↔ '\x00' ∉ code ∧ statements? code = some items := by
  unfold check
  by_cases hnull : '\x00' ∈ code
  · simp [hnull]
  · cases statements? code <;> simp [hnull]

theorem ofResponse_eq_ok {unwraps : Bool} {response : Text} {snippet : Snippet} :
    ofResponse unwraps response = .ok snippet ↔
      snippet.text = unifyBreaks (if unwraps then Fence.unwrap response else response) ∧
        check snippet.text = .ok snippet.items := by
  unfold ofResponse
  constructor
  · intro h
    simp only at h
    split at h
    · rename_i items hitems
      cases h
      exact ⟨rfl, hitems⟩
    · cases h
  · rintro ⟨htext, hitems⟩
    simp only [← htext, hitems]

def Accepted (snippet : Snippet) : Prop :=
  ∃ unwraps response, ofResponse unwraps response = .ok snippet

theorem Accepted.check_eq {snippet : Snippet} (h : snippet.Accepted) :
    check snippet.text = .ok snippet.items := by
  obtain ⟨unwraps, response, hresponse⟩ := h
  exact (ofResponse_eq_ok.mp hresponse).2

theorem Accepted.return_not_mem {snippet : Snippet} (h : snippet.Accepted) :
    '\r' ∉ snippet.text := by
  obtain ⟨unwraps, response, hresponse⟩ := h
  rw [(ofResponse_eq_ok.mp hresponse).1]
  exact return_not_mem_unifyBreaks _

-- A snippet is known by its code.
theorem Accepted.ext {snippet other : Snippet} (h : snippet.Accepted) (hother : other.Accepted)
    (htext : snippet.text = other.text) : snippet = other := by
  obtain ⟨text, items⟩ := snippet
  obtain rfl : text = other.text := htext
  have hitems : items = other.items := Except.ok.inj (h.check_eq.symm.trans hother.check_eq)
  rw [hitems]

end Ghostwriter.Snippet

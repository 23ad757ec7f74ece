import Ghostwriter.Proofs.Failure.Result
import Ghostwriter.Proofs.Snippet.Accepted
import Ghostwriter.Proofs.Snippet.Stable
import Ghostwriter.Proofs.Text.Breaks

/-!
Responses in which each line feed has a carriage return before it. They are read like those with
line feeds alone, but no fence is seen in them: where blocks are to be taken out, the marks around
them stay in the code.
-/

namespace Ghostwriter

open Ghostwriter.Text

namespace Fence

theorem length_settleEnd (block : Text) : (settleEnd block).length ≤ block.length + 1 := by
  have hdrop : (dropRightWhile (· = '\n') block).length ≤ block.length := by
    induction block with
    | nil => simp [dropRightWhile]
    | cons c block ih =>
      unfold dropRightWhile
      split
      · split <;> simp
      · rename_i kept
        simp_all
  rw [settleEnd, List.length_append, List.length_singleton]
  omega

-- What is taken out of a text is shorter than the text.
theorem length_unwrap {t : Text} (h : blocks t ≠ []) : (unwrap t).length < t.length := by
  have hjoined (found : List Text) :
      (joinWith ['\n'] (found.map settleEnd)).length + found.length ≤
        found.flatten.length + 7 * found.length := by
    induction found with
    | nil => simp [joinWith]
    | cons block found ih =>
      have := length_settleEnd block
      cases found with
      | nil =>
        simp only [List.map_cons, List.map_nil, joinWith, List.flatten_cons, List.flatten_nil,
          List.append_nil, List.length_cons, List.length_nil]
        omega
      | cons next found =>
        simp only [List.map_cons, joinWith, List.flatten_cons, List.length_append, List.length_cons,
          List.length_nil] at ih ⊢
        omega
  have hwhole := (cut_blocks t).length_le
  have hmore := hjoined (blocks t)
  have hpos := List.length_pos_of_ne_nil h
  unfold unwrap
  split
  · contradiction
  · omega

-- Where each line feed has a carriage return before it, no mark opens a block.
theorem afterOpening?_of_returned {t : Text} (h : Returned t) : afterOpening? t = none := by
  cases hopening : afterOpening? t with
  | none => rfl
  | some rest =>
    obtain ⟨opening, ⟨tag, htag, blanks, hblanks, rfl⟩, rfl⟩ := afterOpening?_iff.mp hopening
    rw [List.append_assoc, List.singleton_append] at h
    have hmark : mark ++ tag ++ blanks ≠ [] := by simp [mark]
    have hreturn := h.return_mem hmark
    simp only [List.mem_append] at hreturn
    rcases hreturn with (hmem | hmem) | hmem
    · exact absurd hmem (by decide)
    · have htags : ∀ tag ∈ tags, '\r' ∉ tag := by decide
      exact absurd hmem (htags tag htag)
    · rcases hblanks _ hmem with heq | heq <;> cases heq

theorem blocks_of_returned {t : Text} (h : Returned t) : blocks t = [] := by
  induction t with
  | nil => rfl
  | cons c t ih =>
    rw [blocks_cons, block?, afterOpening?_of_returned h]
    exact ih h.of_cons

theorem unwrap_withReturns (t : Text) : unwrap (withReturns t) = withReturns t := by
  rw [unwrap, blocks_of_returned (returned_withReturns t).1]

end Fence

namespace Snippet

section

variable {t : Text} {snippet : Snippet}

-- With carriage returns, a response is read as it stands, whether or not blocks are to be taken out.
theorem ofResponse_withReturns (h : '\r' ∉ t) (unwraps : Bool) :
    ofResponse unwraps (withReturns t) = .ok snippet ↔ ofResponse false t = .ok snippet := by
  have hcode : (if unwraps then Fence.unwrap (withReturns t) else withReturns t) =
      withReturns t := by
    rw [Fence.unwrap_withReturns, ite_self]
  simp only [ofResponse_eq_ok, hcode, unifyBreaks_withReturns h, Bool.false_eq_true, if_false,
    unifyBreaks_of_not_mem h]

-- Code that is taken out of a response is shorter than the response.
theorem text_ne_of_blocks (h : '\r' ∉ t) (hblocks : Fence.blocks t ≠ []) {other : Snippet}
    (hread : ofResponse false t = .ok snippet) (hother : ofResponse true t = .ok other) :
    snippet.text ≠ other.text := by
  have hunwrap := Fence.length_unwrap hblocks
  have hunify := length_unifyBreaks (Fence.unwrap t)
  have htext : snippet.text = t := by
    simpa [unifyBreaks_of_not_mem h] using (ofResponse_eq_ok.mp hread).1
  have hshorter : other.text = unifyBreaks (Fence.unwrap t) := by
    simpa using (ofResponse_eq_ok.mp hother).1
  rw [htext, hshorter]
  intro heq
  have := congrArg List.length heq
  omega

-- Two responses that are accepted only together, and then with one and the same code.
def ReadAlike (unwraps : Bool) (t u : Text) : Prop :=
  ∀ snippet, ofResponse unwraps t = .ok snippet ↔ ofResponse unwraps u = .ok snippet

-- Carriage returns before the line feeds make no difference as long as no blocks are to be taken
-- out. Where they are, the two ways to end a line come to the same only if there is no block, or
-- if neither the blocks nor the response as it stands is code.
theorem readAlike_withReturns (h : '\r' ∉ t) :
    ReadAlike false t (withReturns t) ∧
      (ReadAlike true t (withReturns t) ↔
        Fence.blocks t = [] ∨ ∀ unwraps snippet, ofResponse unwraps t ≠ .ok snippet) := by
  refine ⟨fun snippet => (ofResponse_withReturns h false).symm, ?_⟩
  have halike : ReadAlike true t (withReturns t) ↔
      ∀ snippet, ofResponse true t = .ok snippet ↔ ofResponse false t = .ok snippet := by
    simp only [ReadAlike, ofResponse_withReturns h]
  rw [halike]
  constructor
  · intro hsame
    by_cases hblocks : Fence.blocks t = []
    · exact .inl hblocks
    · have hnone (snippet : Snippet) : ofResponse false t ≠ .ok snippet := fun hread =>
        text_ne_of_blocks h hblocks hread ((hsame snippet).mpr hread) rfl
      refine .inr fun unwraps snippet hread => ?_
      cases unwraps with
      | false => exact hnone snippet hread
      | true => exact hnone snippet ((hsame snippet).mp hread)
  · rintro (hblocks | hnone) snippet
    · have hunwrap : Fence.unwrap t = t := by rw [Fence.unwrap, hblocks]
      simp only [ofResponse_eq_ok, hunwrap, if_true, Bool.false_eq_true, if_false]
    · exact iff_of_false (hnone true snippet) (hnone false snippet)

end

theorem readAlike_lines :
    '\r' ∉ "x = 1\ny = \"\"\"\n\"\"\"\n".toList ∧
      ReadAlike true "x = 1\ny = \"\"\"\n\"\"\"\n".toList
        "x = 1\r\ny = \"\"\"\r\n\"\"\"\r\n".toList :=
  ⟨by decide, (readAlike_withReturns (by decide)).2.mpr (.inl (by decide))⟩

def fenced : Text := "```python\nx = 1\n```\n".toList

theorem not_readAlike_fenced : '\r' ∉ fenced ∧ ¬ ReadAlike true fenced (withReturns fenced) := by
  refine ⟨by decide, fun h => ?_⟩
  have hread : ofResponse true fenced = .ok ⟨"x = 1\n".toList, [.assign]⟩ :=
    ok_of_toOption (by decide +kernel)
  have hreturns : (ofResponse true (withReturns fenced)).toOption = none := by decide +kernel
  rw [(h _).mp hread] at hreturns
  cases hreturns

end Snippet

end Ghostwriter

import Ghostwriter.Directive.Find
import Ghostwriter.Snippet.Splice

/-!
The seam between a snippet and what is kept of the text around it.
-/

namespace Ghostwriter.Splice

open Ghostwriter.Text Ghostwriter.Grammar

-- The text with the word `pass` in the place of every directive.
def withPass (source : Text) (sites : List Site) : Text :=
  sites.foldr (fun site text =>
    text.take (offset (lines text) site.start) ++ "pass".toList ++
      text.drop (offset (lines text) site.stop)) source

def backslashed : Text := "magic()\nx = 1\n".toList

def backslashedSite : Site := ⟨.ofText "a.py".toList, "magic".toList, [], ⟨1, 0⟩, ⟨1, 7⟩, []⟩

-- The backslash joined nothing to the code but an empty row. Without that row it joins the row
-- below the directive.
def backslashCode : Snippet := ⟨"pass \\\n\n".toList, [.pass]⟩

set_option maxRecDepth 10000 in
theorem substituteAll_backslash_not_code :
    Directive.find backslashedSite.path backslashed = .ok [backslashedSite] ∧
      Snippet.ofResponse false backslashCode.text = .ok backslashCode ∧
      statements? (withPass backslashed [backslashedSite]) = some [.pass, .assign] ∧
      substituteAll backslashed [(backslashedSite, backslashCode)] =
        .ok "pass \\\nx = 1\n".toList ∧
      statements? "pass \\\nx = 1\n".toList = none := by
  refine ⟨by rfl, ?_, by decide +kernel, ?_, by decide +kernel⟩
  · have hcheck : (Snippet.ofResponse false backslashCode.text).toOption = some backslashCode := by
      decide +kernel
    generalize Snippet.ofResponse false backslashCode.text = result at hcheck
    cases result with
    | ok snippet => exact congrArg Except.ok (Option.some.inj hcheck)
    | error e => cases hcheck
  · have hspliced : (substituteAll backslashed [(backslashedSite, backslashCode)]).toOption =
        some "pass \\\nx = 1\n".toList := by decide +kernel
    generalize substituteAll backslashed _ = result at hspliced
    cases result with
    | ok text => exact congrArg Except.ok (Option.some.inj hspliced)
    | error e => cases hspliced

end Ghostwriter.Splice

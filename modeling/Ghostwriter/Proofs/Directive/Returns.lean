import Ghostwriter.Proofs.Directive.Cut
import Ghostwriter.Proofs.Lexeme.Returns

/-!
Where directives are found does not depend on how the ends of rows are written: with a carriage
return before each line feed the same directives are found, or the same failure.
-/

namespace Ghostwriter

open Ghostwriter.Text

-- The directive in the text with a carriage return before each line feed.
def Site.withReturns (site : Site) : Site := { site with payload := Text.withReturns site.payload }

namespace Directive

open Ghostwriter.Lexeme Ghostwriter.Splice

section

variable {t : Text} {words : List String} {l : Lexeme}

theorem newline_not_mem_of_isName (h : EntryPoint.isName t = true) : '\n' ∉ t := by
  have htable : ∀ entry ∈ EntryPoint.table, '\n' ∉ entry.1 := by decide +kernel
  obtain ⟨language, hlookup⟩ := Option.isSome_iff_exists.mp h
  obtain ⟨_, _, hentry, -⟩ := List.lookup_eq_some_iff.mp hlookup
  exact htable (t, language) (hentry ▸ List.mem_append_right _ List.mem_cons_self)

theorem isName_withReturns (t : Text) : EntryPoint.isName (withReturns t) = EntryPoint.isName t := by
  by_cases hfeed : '\n' ∈ t
  · have hnone {u : Text} (hu : '\n' ∈ u) : EntryPoint.isName u = false := by
      by_contra hname
      exact newline_not_mem_of_isName (by simpa using hname) hu
    rw [hnone hfeed, hnone ((mem_withReturns (by decide)).mpr hfeed)]
  · rw [withReturns_of_not_mem hfeed]

theorem isWord_returned (hwords : ∀ word ∈ words, '\n' ∉ word.toList) (l : Lexeme) :
    isWord words l.returned = isWord words l := by
  rw [Bool.eq_iff_iff, isWord, isWord, List.any_eq_true, List.any_eq_true]
  refine exists_congr fun word => and_congr_right fun hword => ?_
  rw [decide_eq_true_eq, decide_eq_true_eq, eq_comm, eq_comm (a := word.toList)]
  exact withReturns_eq_iff (hwords word hword)

theorem startsLine_returned (before : Option Lexeme) :
    startsLine (before.map returned) = startsLine before := by
  cases before <;> rfl

theorem binds_returned (inImport : Bool) (before after : Option Lexeme) :
    binds inImport (before.map returned) (after.map returned) = binds inImport before after := by
  have hword (l : Lexeme) : isWord ["def", "class"] l.returned = isWord ["def", "class"] l :=
    isWord_returned (by decide) l
  have hequals (l : Lexeme) : l.returned.isOperator ['='] = l.isOperator ['='] :=
    isOperator_returned l (by decide)
  rw [binds, binds, startsLine_returned]
  cases before <;> cases after <;> simp [hword, hequals]

theorem boundNamesFrom_returned (inImport : Bool) (before : Option Lexeme)
    (lexemes : List Lexeme) :
    boundNamesFrom inImport (before.map returned) (lexemes.map returned) =
      boundNamesFrom inImport before lexemes := by
  induction lexemes generalizing inImport before with
  | nil => rfl
  | cons l rest ih =>
    have hkind : l.returned.kind = l.kind := rfl
    have hword : isWord ["import", "from"] l.returned = isWord ["import", "from"] l :=
      isWord_returned (by decide) l
    have hrest (inImport : Bool) : boundNamesFrom inImport (some l.returned) (rest.map returned) =
        boundNamesFrom inImport (some l) rest := ih inImport (some l)
    rw [List.map_cons, boundNamesFrom, boundNamesFrom, hkind, startsLine_returned, hword,
      List.head?_map, binds_returned]
    split
    · exact hrest false
    · split
      · exact hrest true
      · have hname : EntryPoint.isName l.returned.text = EntryPoint.isName l.text :=
          isName_withReturns l.text
        rw [hname]
        split
        · rename_i hbound
          rw [Bool.and_eq_true] at hbound
          rw [returned_of_not_mem (newline_not_mem_of_isName hbound.1), ← hrest,
            returned_of_not_mem (newline_not_mem_of_isName hbound.1)]
        · exact hrest inImport
    · exact hrest inImport

theorem begins_returned (bound : List Text) (before : Option Lexeme) (l after : Lexeme) :
    begins bound (before.map returned) l.returned (some after.returned) =
      begins bound before l (some after) := by
  have hkind : l.returned.kind = l.kind := rfl
  have hname : EntryPoint.isName l.returned.text = EntryPoint.isName l.text :=
    isName_withReturns l.text
  have hopener : after.returned.isOperator ['('] = after.isOperator ['('] :=
    isOperator_returned after (by decide)
  rw [begins, begins, startsLine_returned, hkind, hname, Option.any_some, Option.any_some, hopener]
  by_cases h : EntryPoint.isName l.text = true
  · rw [returned_of_not_mem (newline_not_mem_of_isName h)]
  · simp [h]

theorem closing?_returned (depth : Int) (lexemes : List Lexeme) :
    closing? depth (lexemes.map returned) =
      (closing? depth lexemes).map fun found => (found.1.returned, found.2.map returned) := by
  induction lexemes generalizing depth with
  | nil => rfl
  | cons l rest ih =>
    rw [List.map_cons, closing?, closing?, closes_returned, depthChange_returned, ih]
    split <;> rfl

theorem endsStatement_returned (lexemes : List Lexeme) :
    endsStatement (lexemes.map returned) = endsStatement lexemes := by
  have htrivia : isTrivia ∘ returned = isTrivia := rfl
  rw [endsStatement, endsStatement, List.dropWhile_map, htrivia]
  cases lexemes.dropWhile isTrivia <;> rfl

end

section

variable {rows : List Text} {p q : Position} {t a behind : Text} {path : Path}

-- A position in its row.
def Inside (rows : List Text) (p : Position) : Prop :=
  Within p.column (rows.getD (p.line - 1) [])

theorem getD_withReturns (rows : List Text) (n : Nat) :
    (rows.map withReturns).getD n [] = withReturns (rows.getD n []) := by
  rw [List.getD_eq_getElem?_getD, List.getD_eq_getElem?_getD, List.getElem?_map]
  cases rows[n]? <;> rfl

theorem slice_withReturns (hp : Inside rows p) (hq : Inside rows q) :
    slice (rows.map withReturns) p q = withReturns (slice rows p q) := by
  unfold Inside at hp hq
  unfold slice
  simp only [getD_withReturns]
  split
  · rename_i hline
    rw [hline, take_withReturns hq]
    exact (withReturns_of_not_mem fun hmem => hq (List.mem_of_mem_drop hmem)).symm
  · rw [drop_withReturns hp, take_withReturns hq, ← List.map_take, ← List.map_drop,
      withReturns_flatten, withReturns_append, withReturns_append]
    rw [withReturns_of_not_mem hq]

theorem exists_lastRow (t : Text) : ∃ rows part, t = rows ++ part ∧
    (∀ c ∈ rows.getLast?, c = '\n') ∧ '\n' ∉ part := by
  induction t using List.reverseRecOn with
  | nil => exact ⟨[], [], rfl, by simp, List.not_mem_nil⟩
  | append_singleton t c ih =>
    obtain ⟨rows, part, rfl, hrows, hpart⟩ := ih
    by_cases hc : c = '\n'
    · exact ⟨rows ++ part ++ [c], [], (List.append_nil _).symm, by simp [hc], List.not_mem_nil⟩
    · exact ⟨rows, part ++ [c], by simp, hrows, by simpa [hpart] using Ne.symm hc⟩

theorem inside_positionOf (a behind : Text) : Inside (lines (a ++ behind)) (positionOf a) := by
  obtain ⟨rows, part, rfl, hrows, hpart⟩ := exists_lastRow a
  rw [Inside, Within, List.append_assoc, take_row hrows hpart]
  exact hpart

theorem inside_of_mem {lexemes : List Lexeme} {l : Lexeme} (h : scan t = .ok lexemes)
    (hl : l ∈ lexemes) (hsolid : IsSolid l) :
    Inside (lines t) l.start ∧ Inside (lines t) l.stop := by
  obtain ⟨before, behind, rfl⟩ := List.append_of_mem hl
  obtain ⟨u, v, rfl, hstart, hstop, -⟩ := (tiled_scan h).split hsolid
  rw [List.nil_append] at hstart hstop
  refine ⟨hstart ▸ inside_positionOf u _, hstop ▸ ?_⟩
  rw [← List.append_assoc]
  exact inside_positionOf (u ++ l.text) v

end

section

variable {path : Path} {rows : List Text} {bound : List Text} {name opener closer : Lexeme}
  {lexemes : List Lexeme} {t : Text}

theorem siteOf_returned (hname : '\n' ∉ name.text) (hclosed : closer.closes = true)
    (hstart : Inside rows name.start) (hopen : Inside rows opener.stop)
    (hclose : Inside rows closer.start) (hopener : opener.isOperator ['('] = true) :
    siteOf path (rows.map withReturns) name.returned opener.returned closer.returned =
      (siteOf path rows name opener closer).withReturns := by
  have htext : '\n' ∉ opener.text ∧ '\n' ∉ closer.text := by
    obtain ⟨-, c, hc, hcloser⟩ := closes_cases hclosed
    simp only [isOperator, Bool.and_eq_true, beq_iff_eq] at hopener
    rw [hopener.2, hcloser]
    refine ⟨by decide, ?_⟩
    rintro hmem
    rw [← List.mem_singleton.mp hmem] at hc
    exact absurd hc (by decide)
  rw [returned_of_not_mem hname, returned_of_not_mem htext.1, returned_of_not_mem htext.2]
  unfold siteOf
  rw [slice_withReturns hopen hclose, getD_withReturns, take_withReturns hstart]
  rfl

theorem sitesUpTo_returned (fuel : Nat) (before : Option Lexeme)
    (hinside : ∀ l ∈ lexemes, IsSolid l → Inside rows l.start ∧ Inside rows l.stop) :
    sitesUpTo path (rows.map withReturns) bound fuel (before.map returned) (lexemes.map returned) =
      (sitesUpTo path rows bound fuel before lexemes).map (List.map Site.withReturns) := by
  induction fuel generalizing before lexemes with
  | zero => rfl
  | succ fuel ih =>
    match lexemes with
    | [] => rfl
    | [l] => rfl
    | l :: opener :: body =>
      rw [List.map_cons, List.map_cons, sitesUpTo, sitesUpTo, begins_returned]
      split
      · rename_i hbegins
        simp only [begins, Bool.and_eq_true, decide_eq_true_eq, Option.any_some] at hbegins
        obtain ⟨⟨⟨⟨hkind, hisName⟩, -⟩, -⟩, hopener⟩ := hbegins
        have hname := newline_not_mem_of_isName hisName
        rw [closing?_returned]
        cases hclosing : closing? 1 body with
        | none =>
          rw [returned_of_not_mem hname]
          rfl
        | some found =>
          obtain ⟨closer, behind⟩ := found
          obtain ⟨hclosed, within, rfl⟩ := closing?_spec hclosing
          simp only [List.forall_mem_cons, List.forall_mem_append] at hinside
          obtain ⟨hnamed, hopened, -, hcloser, hbehind⟩ := hinside
          have hoperator : opener.kind = .operator := by
            simp only [isOperator, Bool.and_eq_true, beq_iff_eq] at hopener
            exact hopener.1
          have hsite := @siteOf_returned path rows l opener closer hname hclosed
            (hnamed (.inl hkind)).1 (hopened (.inr hoperator)).2
            (hcloser (.inr (closes_cases hclosed).1)).1 hopener
          have hrest := ih (some closer) hbehind
          rw [Option.map_some] at hrest
          simp only [Option.map_some, hrest, hsite, endsStatement_returned]
          cases sitesUpTo path rows bound fuel (some closer) behind with
          | error e => rfl
          | ok others =>
            by_cases hends : endsStatement behind = true
            · simp [hends, Except.map, bind, Except.bind]
            · simp [hends, Except.map, bind, Except.bind]
      · exact ih (some l) fun other hother => hinside other (List.mem_cons_of_mem l hother)

-- With carriage returns the same directives are found, with carriage returns in their payloads, or
-- the same failure.
theorem find_withReturns (hreturn : '\r' ∉ t) :
    find path (withReturns t) = (find path t).map (List.map Site.withReturns) := by
  unfold find
  rw [scan_withReturns hreturn]
  cases hscan : scan t with
  | error e => rfl
  | ok lexemes =>
    have hbound : boundNames (lexemes.map returned) = boundNames lexemes :=
      boundNamesFrom_returned false none lexemes
    simp only [Except.map]
    rw [lines_withReturns, hbound, List.length_map]
    exact sitesUpTo_returned lexemes.length none fun l hl hsolid => inside_of_mem hscan hl hsolid

end

-- Rows that a backslash joins, a string over two rows, and comments.
def joinedText : Text := "x = \\\n 1\nmagic(seed = \\\n 3; \"\"\"b\nc\"\"\" # d\n) # e\n".toList

theorem find_withReturns_joined : ∃ site, find modulePath joinedText = .ok [site] ∧
    find modulePath (withReturns joinedText) = .ok [site.withReturns] ∧
      site.withReturns.payload =
        "seed = \\\r\n 3; \"\"\"b\r\nc\"\"\" # d\r\n".toList := by
  have hfind : find modulePath joinedText = .ok [
      ⟨modulePath, "magic".toList, "seed = \\\n 3; \"\"\"b\nc\"\"\" # d\n".toList, ⟨3, 0⟩, ⟨6, 1⟩,
        []⟩] := ok_of_toOption (by decide +kernel)
  refine ⟨_, hfind, ?_, by decide⟩
  rw [find_withReturns (by decide), hfind]
  rfl

end Directive

end Ghostwriter

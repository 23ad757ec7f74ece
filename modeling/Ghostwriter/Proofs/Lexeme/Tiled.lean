import Ghostwriter.Proofs.Lexeme.Cover

/-!
How any text is made of its lexemes, be they stray or not. Between two of them there are only blanks
and rows that a backslash joins, and whatever a line can begin behind has only blanks behind it.
-/

namespace Ghostwriter.Lexeme

open Ghostwriter.Directive Ghostwriter.Splice Ghostwriter.Text

-- A name or an operator.
def IsSolid (l : Lexeme) : Prop := l.kind = .name ∨ l.kind = .operator

-- Blanks, and ends of rows that a backslash joins to the next ones.
inductive Filler : Text → Prop
  | nil : Filler []
  | gap {c : Char} {t : Text} (blank : isGap c = true) (behind : Filler t) : Filler (c :: t)
  | joined {ended t : Text} (whole : IsBreak ended) (behind : Filler t) :
      Filler ('\\' :: (ended ++ t))

-- Nothing but blanks is on the last row of a text so far.
def AtMargin (t : Text) : Prop :=
  ∃ rows margin, t = rows ++ margin ∧ (∀ c ∈ rows.getLast?, c = '\n') ∧
    ∀ c ∈ margin, isGap c = true

-- The text behind `before` is made of these lexemes. Those at its end may be layout that is not
-- written.
inductive Tiled : Text → Text → List Lexeme → Prop
  | finish {before rest : Text} {lexemes : List Lexeme} (filler : Filler rest)
      (layout : ∀ l ∈ lexemes, l.isLayout = true) : Tiled before rest lexemes
  | lexeme {before filler rest : Text} {l : Lexeme} {lexemes : List Lexeme}
      (fills : Filler filler) (start : positionOf (before ++ filler) = l.start)
      (stop : IsSolid l → positionOf (before ++ filler ++ l.text) = l.stop)
      (margin : precedesLine l.kind = true → AtMargin (before ++ filler ++ l.text) ∨ rest = [])
      (behind : Tiled (before ++ filler ++ l.text) rest lexemes) :
      Tiled before (filler ++ (l.text ++ rest)) (l :: lexemes)

section

variable {before blanks part t u rest : Text} {l : Lexeme} {lexemes : List Lexeme}

theorem Filler.of_gaps (h : ∀ c ∈ blanks, isGap c = true) : Filler blanks := by
  induction blanks with
  | nil => exact .nil
  | cons c blanks ih =>
    rw [List.forall_mem_cons] at h
    exact .gap h.1 (ih h.2)

theorem Filler.append (ht : Filler t) (hu : Filler u) : Filler (t ++ u) := by
  induction ht with
  | nil => exact hu
  | gap hblank _ ih => exact .gap hblank ih
  | joined hwhole _ ih =>
    rw [List.cons_append, List.append_assoc]
    exact .joined hwhole ih

theorem IsBreak.getLast (h : IsBreak t) : t.getLast? = some '\n' := by
  rcases h with rfl | rfl <;> rfl

theorem atMargin_of_getLast (h : ∀ c ∈ t.getLast?, c = '\n') : AtMargin t :=
  ⟨t, [], (List.append_nil t).symm, h, by simp⟩

theorem AtMargin.gaps (h : AtMargin t) (hblanks : ∀ c ∈ blanks, isGap c = true) :
    AtMargin (t ++ blanks) := by
  obtain ⟨rows, margin, rfl, hrows, hmargin⟩ := h
  refine ⟨rows, margin ++ blanks, List.append_assoc _ _ _, hrows, ?_⟩
  exact List.forall_mem_append.mpr ⟨hmargin, hblanks⟩

theorem AtMargin.filler (h : AtMargin t) (hfills : Filler part) : AtMargin (t ++ part) := by
  induction hfills generalizing t with
  | nil => simpa using h
  | @gap c part hblank _ ih =>
    have hgap : AtMargin (t ++ [c]) := h.gaps (by simpa using hblank)
    simpa using ih hgap
  | @joined ended part hwhole _ ih =>
    have hended : AtMargin (t ++ '\\' :: ended) := by
      refine atMargin_of_getLast fun c hc => ?_
      rw [List.getLast?_append_of_ne_nil _ (List.cons_ne_nil _ _), List.getLast?_cons,
        hwhole.getLast] at hc
      exact (Option.some.inj hc).symm
    simpa using ih hended

-- What begins a row has only blanks before it on that row.
theorem AtMargin.newline_mem {c : Char} (hc : isGap c = false) (hfeed : c ≠ '\n')
    (h : AtMargin (t ++ c :: u)) : '\n' ∈ u := by
  obtain ⟨rows, margin, heq, hrows, hmargin⟩ := h
  rcases List.append_eq_append_iff.mp heq with ⟨more, rfl, hmore⟩ | ⟨more, rfl, hmore⟩
  · cases more with
    | nil =>
      rw [hmargin c (by rw [← List.nil_append margin, ← hmore]; exact List.mem_cons_self)] at hc
      cases hc
    | cons d more =>
      obtain ⟨rfl, rfl⟩ := List.cons.inj hmore
      rw [List.getLast?_append_of_ne_nil _ (List.cons_ne_nil _ _)] at hrows
      cases more with
      | nil => exact absurd (hrows c rfl) hfeed
      | cons d more =>
        have hlast := hrows _ (List.getLast?_eq_getLast_of_ne_nil (List.cons_ne_nil c (d :: more)))
        refine List.mem_append_left _ ?_
        rw [← hlast, List.getLast_cons (List.cons_ne_nil d more)]
        exact List.getLast_mem _
  · rw [hmargin c (by rw [hmore]; simp)] at hc
    cases hc

-- Where a row begins.
theorem getLast_of_column (h : (positionOf t).column = 0) : ∀ c ∈ t.getLast?, c = '\n' := by
  rcases List.eq_nil_or_concat t with rfl | ⟨u, c, rfl⟩
  · simp
  · rw [List.concat_eq_append] at h ⊢
    rw [positionOf_append] at h
    by_contra hne
    have hc : c ≠ '\n' := by simpa using hne
    have hone : positionOf [c] = ⟨1, 1⟩ := by simp [positionOf, hc]
    rw [hone] at h
    simp at h

theorem not_isSolid_of_isLayout (h : l.isLayout = true) : ¬ IsSolid l := by
  rintro (hkind | hkind)
  · simp [Lexeme.isLayout, hkind] at h
  · simp [Lexeme.isLayout, hkind] at h

theorem Tiled.skip (hfills : Filler part) (h : Tiled (before ++ part) rest lexemes) :
    Tiled before (part ++ rest) lexemes := by
  cases h with
  | finish hrest hlayout => exact .finish (hfills.append hrest) hlayout
  | @lexeme _ more rest l lexemes hmore hstart hstop hmargin hbehind =>
    rw [List.append_assoc before] at hstart hstop hmargin hbehind
    rw [← List.append_assoc]
    exact .lexeme (hfills.append hmore) hstart hstop hmargin hbehind

-- The text behind the first lexeme.
theorem Tiled.tail (h : Tiled before t (l :: lexemes)) :
    ∃ u v, t = u ++ v ∧ Tiled (before ++ u) v lexemes ∧
      (precedesLine l.kind = true → AtMargin (before ++ u) ∨ v = []) := by
  cases h with
  | finish _ hlayout =>
    rw [List.forall_mem_cons] at hlayout
    exact ⟨t, [], (List.append_nil t).symm, .finish .nil hlayout.2, fun _ => .inr rfl⟩
  | @lexeme _ part rest _ _ _ _ _ hmargin hbehind =>
    rw [List.append_assoc] at hmargin hbehind
    exact ⟨part ++ l.text, rest, (List.append_assoc _ _ _).symm, hbehind, hmargin⟩

-- The text of the first lexeme, if that is a name or an operator.
theorem Tiled.head (h : Tiled before t (l :: lexemes)) (hsolid : IsSolid l) :
    ∃ u v, t = u ++ (l.text ++ v) ∧ Filler u ∧ positionOf (before ++ u) = l.start ∧
      positionOf (before ++ u ++ l.text) = l.stop ∧ Tiled (before ++ u ++ l.text) v lexemes := by
  cases h with
  | finish _ hlayout =>
    exact absurd hsolid (not_isSolid_of_isLayout (hlayout l List.mem_cons_self))
  | @lexeme _ part rest _ _ hfills hstart hstop _ hbehind =>
    exact ⟨part, rest, rfl, hfills, hstart, hstop hsolid, hbehind⟩

-- The text up to a name or an operator, and the text behind it.
theorem Tiled.split {behind : List Lexeme} (h : Tiled before t (lexemes ++ l :: behind))
    (hsolid : IsSolid l) :
    ∃ u v, t = u ++ (l.text ++ v) ∧ positionOf (before ++ u) = l.start ∧
      positionOf (before ++ u ++ l.text) = l.stop ∧ Tiled (before ++ u ++ l.text) v behind := by
  induction lexemes generalizing before t with
  | nil =>
    obtain ⟨u, v, ht, -, hstart, hstop, hbehind⟩ := Tiled.head h hsolid
    exact ⟨u, v, ht, hstart, hstop, hbehind⟩
  | cons first lexemes ih =>
    obtain ⟨u, v, rfl, hrest, -⟩ := Tiled.tail h
    obtain ⟨u', v', rfl, hstart, hstop, hbehind⟩ := ih hrest
    rw [List.append_assoc before u u'] at hstart hstop hbehind
    exact ⟨u ++ u', v', by simp, hstart, hstop, hbehind⟩

end

-- The string that is open behind `before`, with its text so far.
def Held (state : ScanState) (before text : Text) : Prop :=
  match state.openString with
  | none => text = []
  | some s => text = s.text ∧ positionOf before = s.start ∧ s.quote ≠ '\n'

-- A part of a text is made of its lexemes if all that is behind it is, together with a string that
-- is open at its end. Nothing is behind a row without a line feed.
def Continues (before part : Text) (lexemes : List Lexeme) (final : ScanState) : Prop :=
  ∃ start held, before ++ part = start ++ held ∧ Held final start held ∧
    ∀ behind others, (part.getLast? ≠ some '\n' → behind = []) →
      Tiled start (held ++ behind) others → Tiled before (part ++ behind) (lexemes ++ others)

section

variable {row column : Nat} {before part gaps t line rest : Text}
  {state final : ScanState} {l : Lexeme} {lexemes : List Lexeme}

theorem continues_filler (hclosed : final.openString = none) (hfills : Filler part) :
    Continues before part [] final := by
  refine ⟨before ++ part, [], (List.append_nil _).symm, by rw [Held, hclosed], ?_⟩
  intro behind others _ hbehind
  exact hbehind.skip hfills

theorem Continues.skip (hgaps : ∀ c ∈ gaps, isGap c = true)
    (h : Continues (before ++ gaps) rest lexemes final) :
    Continues before (gaps ++ rest) lexemes final := by
  obtain ⟨start, held, hstart, hheld, htiled⟩ := h
  refine ⟨start, held, by rw [← hstart, List.append_assoc], hheld, ?_⟩
  intro behind others hlast hbehind
  rw [List.append_assoc]
  refine .skip (.of_gaps hgaps) (htiled behind others (fun hrest => hlast ?_) hbehind)
  exact getLast_append (getLast_of_not_mem fun hmem => absurd (hgaps _ hmem) (by decide)) hrest

theorem Continues.lexeme (hfeed : l.text.getLast? ≠ some '\n') (hstart : positionOf before = l.start)
    (hstop : IsSolid l → positionOf (before ++ l.text) = l.stop)
    (hmargin : precedesLine l.kind = true → AtMargin (before ++ l.text))
    (h : Continues (before ++ l.text) rest lexemes final) :
    Continues before (l.text ++ rest) (l :: lexemes) final := by
  obtain ⟨start, held, hpart, hheld, htiled⟩ := h
  refine ⟨start, held, by rw [← hpart, List.append_assoc], hheld, ?_⟩
  intro behind others hlast hbehind
  have hrest := htiled behind others (fun hrest => hlast (getLast_append hfeed hrest)) hbehind
  rw [List.append_assoc]
  have hlexeme := @Tiled.lexeme before [] (rest ++ behind) l (lexemes ++ others) .nil
    (by simpa using hstart) (by simpa using hstop) (fun hkind => .inl (by simpa using hmargin hkind))
    (by simpa using hrest)
  simpa using hlexeme

-- The last lexeme of a row.
theorem continues_last (hclosed : final.openString = none) (hsolid : ¬ IsSolid l)
    (hstart : positionOf before = l.start) : Continues before l.text [l] final := by
  refine ⟨before ++ l.text, [], (List.append_nil _).symm, by rw [Held, hclosed], ?_⟩
  intro behind others hlast hbehind
  have hmargin : AtMargin (before ++ l.text) ∨ behind = [] := by
    by_cases hfeed : l.text.getLast? = some '\n'
    · refine .inl (atMargin_of_getLast fun c hc => ?_)
      rw [List.getLast?_append, hfeed] at hc
      exact (Option.some.inj hc).symm
    · exact .inr (hlast hfeed)
  have hlexeme := @Tiled.lexeme before [] behind l others .nil (by simpa using hstart)
    (fun h => absurd h hsolid) (fun _ => by simpa using hmargin) (by simpa using hbehind)
  simpa using hlexeme

theorem precedesLine_of_known {kind : LexemeKind}
    (h : IsContent kind ∨ kind = .comment ∧ BreaksFirst rest) : precedesLine kind = false := by
  rcases h with (rfl | rfl | rfl | rfl | rfl) | ⟨rfl, -⟩ <;> rfl

theorem ScansRest.continues (h : ScansRest row column rest state lexemes final)
    (hplace : positionOf before = ⟨row, column⟩) (hclosed : state.openString = none) :
    Continues before rest lexemes final := by
  induction h generalizing before with
  | nothing hpiece => exact continues_filler hclosed (.of_gaps (isGap_of_nothing hpiece))
  | joined _ hblank hwhole =>
    refine .skip hblank (continues_filler hclosed ?_)
    simpa using Filler.joined hwhole .nil
  | @opens _ gaps body _ _ _ hpiece hblank =>
    have hinside : '\n' ∉ gaps := fun hmem => by cases hblank _ hmem
    refine ⟨before ++ gaps, body, by simp, ⟨rfl, positionOf_within hplace hinside,
      isQuote_ne_break (piece_openString hpiece)⟩, ?_⟩
    intro behind others _ hbehind
    rw [List.append_assoc]
    exact .skip (.of_gaps hblank) hbehind
  | @newline _ gaps text _ l _ hblank _ hmade =>
    have hinside : '\n' ∉ gaps := fun hmem => by cases hblank _ hmem
    have hlayout := (isLayout_of_newline (congrArg Lexeme.kind hmade)).1
    have hlast := @continues_last _ _ l hclosed (not_isSolid_of_isLayout hlayout)
      (by rw [hmade, positionOf_within hplace hinside])
    rw [hmade] at hlast ⊢
    exact .skip hblank hlast
  | @lexeme _ gaps text behind kind _ _ l _ _ _ hblank hknown hinside hmade _ ih =>
    rw [List.mem_append, not_or] at hinside
    have hstart := positionOf_within hplace hinside.1
    have hstop := positionOf_within hstart hinside.2
    have hbehind := ih hstop hclosed
    obtain ⟨rfl, rfl, hfirst, hlast⟩ : l.kind = kind ∧ l.text = text ∧
        positionOf (before ++ gaps) = l.start ∧ positionOf (before ++ gaps ++ l.text) = l.stop := by
      subst hmade
      exact ⟨rfl, rfl, hstart, hstop⟩
    refine .skip hblank (.lexeme (getLast_of_not_mem hinside.2) hfirst (fun _ => hlast)
      (fun hmargin => ?_) hbehind)
    cases (precedesLine_of_known hknown).symm.trans hmargin

theorem ScansString.continues {s : OpenString} (h : ScansString row s state line lexemes final)
    (hposition : positionOf (before ++ s.text) = ⟨row, 0⟩) (hstart : positionOf before = s.start)
    (hquote : s.quote ≠ '\n') (hrow : IsRow line) :
    Continues before (s.text ++ line) lexemes final := by
  cases h with
  | @closed body rest _ _ hclose hothers =>
    obtain ⟨hends, hinside⟩ := ends_of_closeLength hquote hrow hclose
    have hstop : positionOf (before ++ s.text ++ body) = ⟨row, body.length⟩ := by
      simpa using positionOf_within hposition hinside
    have hrest := hothers.continues hstop rfl
    rw [← List.append_assoc]
    refine .lexeme (l := ⟨.string, s.text ++ body, s.start, ⟨row, body.length⟩⟩) ?_ hstart
      (fun hsolid => ?_) (fun hkind => ?_) ?_
    · rw [List.getLast?_append_of_ne_nil _ hends.ne_nil]
      exact getLast_of_not_mem hinside
    · simp [IsSolid] at hsolid
    · cases hkind
    · rw [← List.append_assoc]
      exact hrest
  | broken =>
    exact continues_last (l := ⟨.stray, s.text ++ line, s.start, _⟩) rfl (by simp [IsSolid]) hstart
  | goesOn =>
    exact ⟨before, s.text ++ line, rfl, ⟨rfl, hstart, hquote⟩, fun _ _ _ hbehind => hbehind⟩

theorem continues_dedents (n : Nat) (hstart : positionOf before = l.start) (htext : l.text = [])
    (hkind : l.kind = .dedent) (hmargin : AtMargin before)
    (h : Continues before rest lexemes final) :
    Continues before rest (List.replicate n l ++ lexemes) final := by
  induction n with
  | zero => exact h
  | succ n ih =>
    have hsolid : ¬ IsSolid l := not_isSolid_of_isLayout (by simp [Lexeme.isLayout, hkind])
    have hlexeme := @Continues.lexeme before rest final l _ (by simp [htext]) hstart
      (fun h => absurd h hsolid) (fun _ => by simpa [htext] using hmargin)
      (by simpa [htext] using ih)
    simpa [htext, List.replicate_succ] using hlexeme

-- The blanks before a statement, with the lexemes for its indentation.
theorem continues_indentation {column : Nat} {margin : List Lexeme} {margins margins' : List Nat}
    (hposition : positionOf before = ⟨row, 0⟩) (hgaps : ∀ c ∈ gaps, isGap c = true)
    (h : indentation row column gaps.length (gaps ++ rest) margins = .ok (margin, margins'))
    (hrest : Continues (before ++ gaps) rest lexemes final) :
    Continues before (gaps ++ rest) (margin ++ lexemes) final := by
  have hmargin : AtMargin (before ++ gaps) :=
    (atMargin_of_getLast (getLast_of_column (by rw [hposition]))).gaps hgaps
  have hfeed : '\n' ∉ gaps := fun hmem => absurd (hgaps _ hmem) (by decide)
  unfold indentation at h
  split_ifs at h
  · cases h
    rw [List.take_left]
    exact .lexeme (l := ⟨.indent, gaps, _, _⟩) (getLast_of_not_mem hfeed) hposition
      (by simp [IsSolid]) (fun _ => hmargin) hrest
  · cases h
    have hstart : positionOf (before ++ gaps) = ⟨row, gaps.length⟩ := by
      simpa using positionOf_within hposition hfeed
    exact .skip hgaps (continues_dedents _ hstart rfl rfl hmargin hrest)

theorem dropRightWhile_split (p : Char → Bool) (t : Text) :
    ∃ rest, t = dropRightWhile p t ++ rest ∧ ∀ c ∈ (dropRightWhile p t).getLast?, p c = false := by
  induction t with
  | nil => exact ⟨[], rfl, by simp [dropRightWhile]⟩
  | cons c t ih =>
    obtain ⟨rest, ht, hlast⟩ := ih
    rw [dropRightWhile]
    split
    · rename_i hnil
      rw [hnil] at ht
      split
      · exact ⟨c :: t, rfl, by simp⟩
      · rename_i hc
        exact ⟨t, rfl, by simpa using hc⟩
    · rename_i hne
      refine ⟨rest, by rw [List.cons_append, ← ht], ?_⟩
      rw [List.getLast?_cons_of_ne_nil hne]
      exact hlast

-- A row without statements has a comment or none, and what ends it.
theorem idleLine_split (row blanks : Nat) {body : Text} (hrow : IsRow body) :
    ∃ comment rest, body = comment ++ rest ∧ '\n' ∉ comment ∧
      idleLine row blanks body =
        (if comment.isEmpty then []
          else [⟨.comment, comment, ⟨row, blanks⟩, ⟨row, blanks + comment.length⟩⟩]) ++
          [⟨.lineBreak, rest, ⟨row, blanks + comment.length⟩,
            ⟨row, blanks + comment.length + rest.length⟩⟩] := by
  unfold idleLine
  simp only
  obtain ⟨rest, hsplit, hlast⟩ := dropRightWhile_split (fun c => c = '\r' || c = '\n') body
  by_cases hhead : body.head? = some '#'
  · simp only [hhead, if_true]
    generalize dropRightWhile _ body = comment at hsplit hlast
    subst hsplit
    refine ⟨comment, rest, rfl, fun hmem => ?_, ?_⟩
    · -- The line feed of a row is behind all of its comment.
      obtain ⟨a, b, rfl⟩ := List.append_of_mem hmem
      have hbehind : IsRow ('\n' :: (b ++ rest)) := by simpa using hrow.drop a.length
      have hnil : b ++ rest = [] := by
        by_contra hne
        exact hbehind.head_ne hne rfl
      obtain ⟨rfl, -⟩ := List.append_eq_nil_iff.mp hnil
      cases hlast '\n' (by simp)
    · rw [List.drop_left]
      split <;> rfl
  · simp only [hhead, if_false]
    exact ⟨[], body, rfl, by simp, rfl⟩

theorem continues_idleLine {body : Text} (hplace : positionOf before = ⟨row, column⟩)
    (hrow : IsRow body) (hclosed : final.openString = none) :
    Continues before body (idleLine row column body) final := by
  obtain ⟨comment, rest, rfl, hinside, hidle⟩ := idleLine_split row column hrow
  have hlast := @continues_last _ _ ⟨.lineBreak, rest, _, ⟨row, column + comment.length + rest.length⟩⟩
    hclosed (by simp [IsSolid]) (positionOf_within hplace hinside)
  rw [hidle]
  cases comment with
  | nil => simpa using hlast
  | cons c comment =>
    exact .lexeme (l := ⟨.comment, c :: comment, _, _⟩) (getLast_of_not_mem hinside) hplace
      (by simp [IsSolid]) (by simp [precedesLine]) hlast

theorem ScansFirst.continues (h : ScansFirst row state line lexemes final)
    (hposition : positionOf before = ⟨row, 0⟩) (hrow : IsRow line)
    (hclosed : state.openString = none) : Continues before line lexemes final := by
  have hbehind {gaps : Text} (hblank : ∀ c ∈ gaps, isGap c = true) :
      positionOf (before ++ gaps) = ⟨row, gaps.length⟩ := by
    have hinside : '\n' ∉ gaps := fun hmem => by cases hblank _ hmem
    simpa using positionOf_within hposition hinside
  cases h with
  | blank hblank => exact continues_filler hclosed (.of_gaps hblank)
  | idle _ hblank => exact .skip hblank (continues_idleLine (hbehind hblank) hrow.of_append hclosed)
  | code _ hblank _ hindents hothers =>
    exact continues_indentation hposition hblank hindents (hothers.continues (hbehind hblank) hclosed)

theorem ScansLine.continues {text : Text} (h : ScansLine row line state lexemes final)
    (hposition : positionOf (before ++ text) = ⟨row, 0⟩) (hheld : Held state before text)
    (hrow : IsRow line) : Continues before (text ++ line) lexemes final := by
  unfold Held at hheld
  cases h with
  | string hopen hstring =>
    rw [hopen] at hheld
    obtain ⟨rfl, hstart, hquote⟩ := hheld
    exact hstring.continues hposition hstart hquote hrow
  | first hclosed _ _ hfirst =>
    rw [hclosed] at hheld
    subst hheld
    rw [List.append_nil] at hposition
    exact hfirst.continues hposition hrow hclosed
  | rest hclosed _ hrest =>
    rw [hclosed] at hheld
    subst hheld
    rw [List.append_nil] at hposition
    exact hrest.continues hposition hclosed

theorem ScansLines.tiled {rows : List Text} {text : Text} {others : List Lexeme}
    (h : ScansLines row rows state lexemes final) (hrows : Rows rows)
    (hposition : positionOf (before ++ text) = ⟨row, 0⟩) (hheld : Held state before text)
    (hclosed : final.openString = none) (hothers : ∀ l ∈ others, l.isLayout = true) :
    Tiled before (text ++ rows.flatten) (lexemes ++ others) := by
  induction h generalizing before text with
  | nil =>
    rw [Held, hclosed] at hheld
    subst hheld
    exact .finish .nil hothers
  | @cons row line rest state next final here lexemes hrow hfirst hlines ih =>
    obtain ⟨-, hbreak, hrows⟩ := hrows
    obtain ⟨start, held, hstart, hheld', htiled⟩ := hfirst.continues hposition hheld hrow
    rw [List.append_assoc, List.flatten_cons, ← List.append_assoc]
    refine htiled _ _ (fun hlast => ?_) ?_
    · by_contra hne
      have hrest : rest ≠ [] := by
        rintro rfl
        exact hne rfl
      rw [List.getLast?_append, getLast_of_isRow hrow (hbreak hrest)] at hlast
      exact hlast rfl
    · cases hlines with
      | nil =>
        rw [Held, hclosed] at hheld'
        subst hheld'
        exact .finish .nil hothers
      | cons =>
        refine ih hrows ?_ hheld' hclosed
        rw [← hstart, ← List.append_assoc]
        exact positionOf_append_row hposition hrow (hbreak (by simp))

-- Every text is made of its lexemes.
theorem tiled_scan (h : scan t = .ok lexemes) : Tiled [] t lexemes := by
  obtain ⟨found, final, n, last, hscans, hclosed, -, -, rfl⟩ := scansLines_of_scan h
  have hheld : Held ScanState.start [] [] := @rfl Text []
  have hlayout : ∀ l ∈ closing n last final.margins, l.isLayout = true :=
    fun _ => isLayout_of_mem_closing
  have htiled := hscans.tiled (rows_lines t) rfl hheld hclosed hlayout
  rwa [List.nil_append, lines_flatten] at htiled

-- The blanks between the lexemes are left out, and so is the backslash that joins two rows.
example : (scan "a = \\\n  (b)".toList).toOption.map (List.map text) =
    some ["a".toList, "=".toList, "(".toList, "b".toList, ")".toList, [], []] := by decide +kernel

end

end Ghostwriter.Lexeme

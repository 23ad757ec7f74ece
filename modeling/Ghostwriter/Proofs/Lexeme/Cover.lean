import Ghostwriter.Proofs.Directive.Statement
import Ghostwriter.Proofs.Splice.Strings

/-!
How a text is made of its lexemes: each stands where it says, and between them are only blanks, line
ends and comments.
-/

namespace Ghostwriter.Lexeme

open Ghostwriter.Splice Ghostwriter.Text

-- What comes first on a row without statements.
def IdleFirst (t : Text) : Prop :=
  ∀ c ∈ t.head?, isGap c = true ∨ c = '#' ∨ c = '\r' ∨ c = '\n'

-- What may stand between two lexemes, in front of `rest`. Where no bracket is open, a row without
-- statements may have anything on it.
inductive Skips (depth : Int) (rest : Text) : Text → Prop
  | gap {c : Char} (blank : isGap c = true) : Skips depth rest [c]
  | lineBreak {t : Text} (whole : IsBreak t) : Skips depth rest t
  | joined {t : Text} (whole : IsBreak t) : Skips depth rest ('\\' :: t)
  | comment {t : Text} (inside : ∀ c ∈ t, c ≠ '\r' ∧ c ≠ '\n' ∧ c ≠ '\x00')
      (ended : BreaksFirst rest) : Skips depth rest ('#' :: t)
  | idle {t : Text} (outside : depth = 0) (first : IdleFirst t) : Skips depth rest t

-- The text behind `before` is made of these lexemes, with `depth` brackets open in front of it.
inductive Covers : Int → Text → Text → List Lexeme → Prop
  | nil {depth : Int} {before : Text} : Covers depth before [] []
  | skip {depth : Int} {before part rest : Text} {lexemes : List Lexeme}
      (skips : Skips depth rest part) (behind : Covers depth (before ++ part) rest lexemes) :
      Covers depth before (part ++ rest) lexemes
  | lexeme {depth : Int} {before rest : Text} {l : Lexeme} {lexemes : List Lexeme}
      (stands : Stands rest l.kind l.text) (start : positionOf before = l.start)
      (stop : positionOf (before ++ l.text) = l.stop)
      (behind : Covers (depth + l.depthChange) (before ++ l.text) rest lexemes) :
      Covers depth before (l.text ++ rest) (l :: lexemes)

-- Lexemes that are no layout.
def solid (lexemes : List Lexeme) : List Lexeme := lexemes.filter fun l => !l.isLayout

-- No lexeme is stray, and no comment has a character that no source may have.
def Clean (lexemes : List Lexeme) : Prop :=
  ∀ l ∈ lexemes, l.kind ≠ .stray ∧ (l.kind = .comment → '\x00' ∉ l.text)

-- The string that is open behind `before`, with its text so far.
def Pending (state : ScanState) (before text : Text) : Prop :=
  match state.openString with
  | none => text = []
  | some s => text = s.text ∧ positionOf before = s.start ∧ Opens s.quote s.tripled s.text

section

variable {depth : Int} {before blanks text rest behind : Text} {kind : LexemeKind}
  {lexemes others : List Lexeme}

theorem Covers.gaps (hgaps : ∀ c ∈ blanks, isGap c = true)
    (h : Covers depth (before ++ blanks) rest lexemes) :
    Covers depth before (blanks ++ rest) lexemes := by
  induction blanks generalizing before with
  | nil => simpa using h
  | cons c blanks ih =>
    rw [List.forall_mem_cons] at hgaps
    have hbehind : Covers depth (before ++ [c]) (blanks ++ rest) lexemes :=
      ih hgaps.2 (by simpa using h)
    exact @Covers.skip depth before [c] (blanks ++ rest) lexemes (.gap hgaps.1) hbehind

theorem isLayout_of_newline {l : Lexeme} (h : l.kind = settleKind depth .newline) :
    l.isLayout = true ∧ l.depthChange = 0 := by
  refine ⟨?_, depthChange_of_kind (h ▸ settleKind_newline)⟩
  simp only [settleKind] at h
  split at h <;> simp [Lexeme.isLayout, h]

theorem solid_append (before behind : List Lexeme) :
    solid (before ++ behind) = solid before ++ solid behind := List.filter_append before behind

theorem solid_cons_layout {l : Lexeme} (h : l.isLayout = true) (lexemes : List Lexeme) :
    solid (l :: lexemes) = solid lexemes := by simp [solid, h]

theorem solid_cons {l : Lexeme} (h : l.isLayout = false) (lexemes : List Lexeme) :
    solid (l :: lexemes) = l :: solid lexemes := by simp [solid, h]

end

section

variable {row column : Nat} {before t line rest : Text} {state final : ScanState}
  {lexemes : List Lexeme} {depth : Int}

-- A part of a text is made of its lexemes if all that is behind it is, together with a string that
-- is open at its end. Nothing is behind a row without a line feed.
def Extends (before part : Text) (depth : Int) (lexemes : List Lexeme) (final : ScanState) : Prop :=
  ∃ start pending, before ++ part = start ++ pending ∧ Pending final start pending ∧
    ∀ behind others, (part.getLast? ≠ some '\n' → behind = []) →
      Covers final.depth start (pending ++ behind) others →
      Covers depth before (part ++ behind) (solid lexemes ++ others)

theorem getLast_append (ht : t.getLast? ≠ some '\n') (hrest : rest.getLast? ≠ some '\n') :
    (t ++ rest).getLast? ≠ some '\n' := by
  rw [List.getLast?_append]
  cases hlast : rest.getLast? with
  | none => simpa using ht
  | some c => simpa [hlast] using hrest

theorem getLast_of_not_mem (h : '\n' ∉ t) : t.getLast? ≠ some '\n' :=
  fun hlast => h (List.mem_of_getLast? hlast)

theorem Extends.gaps {blanks : Text} {depth : Int} (hgaps : ∀ c ∈ blanks, isGap c = true)
    (h : Extends (before ++ blanks) rest depth lexemes final) :
    Extends before (blanks ++ rest) depth lexemes final := by
  obtain ⟨start, pending, hstart, hpending, hcovers⟩ := h
  refine ⟨start, pending, by rw [← hstart, List.append_assoc], hpending, ?_⟩
  intro behind others hlast hbehind
  rw [List.append_assoc]
  refine .gaps hgaps (hcovers behind others (fun hbreak => hlast ?_) hbehind)
  refine getLast_append (getLast_of_not_mem fun hmem => ?_) hbreak
  exact absurd (hgaps _ hmem) (by decide)

-- Nothing but a line end, or nothing at all.
theorem extends_skip {part : Text} {depth : Int} (hclosed : final.openString = none)
    (hdepth : final.depth = depth) (hskips : part = [] ∨ ∀ rest, Skips depth rest part) :
    Extends before part depth [] final := by
  refine ⟨before ++ part, [], (List.append_nil _).symm, by rw [Pending, hclosed], ?_⟩
  intro behind others _ hbehind
  rw [hdepth] at hbehind
  rcases hskips with rfl | hskips
  · simpa [solid] using hbehind
  · exact .skip (hskips _) hbehind

theorem Extends.layout {part : Text} {depth : Int} {l : Lexeme} (hl : l.isLayout = true)
    (h : Extends before part depth lexemes final) :
    Extends before part depth (l :: lexemes) final := by
  unfold Extends
  rw [solid_cons_layout hl]
  exact h

theorem Extends.comment {t : Text} {depth : Int} (hinside : ∀ c ∈ t, c ≠ '\r' ∧ c ≠ '\n')
    (hnul : '\x00' ∉ t) (hended : BreaksFirst rest)
    (h : Extends (before ++ '#' :: t) rest depth lexemes final) :
    Extends before ('#' :: t ++ rest) depth lexemes final := by
  obtain ⟨start, pending, hstart, hpending, hcovers⟩ := h
  refine ⟨start, pending, by rw [← hstart, List.append_assoc], hpending, ?_⟩
  intro behind others hlast hbehind
  have hlast' : rest.getLast? ≠ some '\n' → behind = [] := by
    intro hrest
    refine hlast (getLast_append (getLast_of_not_mem fun hmem => ?_) hrest)
    rcases List.mem_cons.mp hmem with heq | hmem
    · exact absurd heq (by decide)
    · exact (hinside _ hmem).2 rfl
  rw [List.append_assoc]
  refine .skip (.comment (fun c hc => ⟨(hinside c hc).1, (hinside c hc).2, ?_⟩) ?_)
    (hcovers behind others hlast' hbehind)
  · rintro rfl
    exact hnul hc
  · cases rest with
    | nil =>
      rw [hlast' (by simp)]
      simp [BreaksFirst]
    | cons c rest => exact hended

theorem Extends.lexeme {depth : Int} {l : Lexeme} (hstands : Stands rest l.kind l.text)
    (hbreak : l.text.getLast? ≠ some '\n') (hstart : positionOf before = l.start)
    (hstop : positionOf (before ++ l.text) = l.stop)
    (h : Extends (before ++ l.text) rest (depth + l.depthChange) lexemes final) :
    Extends before (l.text ++ rest) depth (l :: lexemes) final := by
  obtain ⟨start, pending, hpart, hpending, hcovers⟩ := h
  refine ⟨start, pending, by rw [← hpart, List.append_assoc], hpending, ?_⟩
  intro behind others hlast hbehind
  have hlast' : rest.getLast? ≠ some '\n' → behind = [] :=
    fun hrest => hlast (getLast_append hbreak hrest)
  have hsolid := solid_cons hstands.isLayout lexemes
  rw [List.append_assoc, hsolid, List.cons_append]
  refine .lexeme (hstands.append fun hrest => hlast' (by simp [hrest])) hstart hstop ?_
  exact hcovers behind others hlast' hbehind

theorem ScansRest.extends (h : ScansRest row column rest state lexemes final)
    (hplace : positionOf before = ⟨row, column⟩) (hclosed : state.openString = none)
    (hend : '\n' ∈ rest ∨ final.openString = none) (hclean : Clean lexemes) :
    Extends before rest state.depth lexemes final := by
  induction h generalizing before with
  | nothing hpiece =>
    have hnil := Extends.gaps (isGap_of_nothing hpiece)
      (extends_skip hclosed rfl (.inl rfl) : Extends (before ++ _) [] _ [] _)
    simpa using hnil
  | joined _ hblank hwhole =>
    refine .gaps hblank (extends_skip ?_ ?_ (.inr fun _ => .joined hwhole))
    · exact hclosed
    · rfl
  | @opens _ gaps body _ _ hrow hpiece hblank =>
    have hopens := opens_of_piece hrow (hend.resolve_right (by simp)) hpiece
    have hinside : '\n' ∉ gaps := fun hmem => by cases hblank _ hmem
    refine ⟨before ++ gaps, body, by simp, ⟨rfl, positionOf_within hplace hinside, hopens⟩, ?_⟩
    intro behind others _ hbehind
    rw [List.append_assoc]
    exact .gaps hblank hbehind
  | newline _ hblank hwhole hmade =>
    have hlayout := isLayout_of_newline (congrArg Lexeme.kind hmade)
    exact .gaps hblank
      (.layout hlayout.1 (extends_skip hclosed rfl (.inr fun _ => .lineBreak hwhole)))
  | @lexeme _ gaps text behind kind _ _ l _ hrow hpiece hblank hknown hinside hmade _ ih =>
    rw [Clean, List.forall_mem_cons] at hclean
    rw [List.mem_append, not_or] at hinside
    have hstart := positionOf_within hplace hinside.1
    have hstop := positionOf_within hstart hinside.2
    have hbehind := ih hstop hclosed (hend.imp_left fun hmem => by simpa [hinside] using hmem)
      hclean.2
    obtain ⟨hkind, rfl, hfirst, hlast⟩ : l.kind = kind ∧ l.text = text ∧
        positionOf (before ++ gaps) = l.start ∧ positionOf (before ++ gaps ++ l.text) = l.stop := by
      subst hmade
      exact ⟨rfl, rfl, hstart, hstop⟩
    refine .gaps hblank ?_
    cases taken_of_piece hrow hpiece (hkind ▸ hclean.1.1) with
    | lineBreak => exact absurd rfl (ne_newline_of_known hknown)
    | comment hmarked hplain hended =>
      have hlayout : l.isLayout = true ∧ l.depthChange = 0 :=
        ⟨by simp [Lexeme.isLayout, hkind], depthChange_of_kind (by simp [hkind])⟩
      have hnul := hclean.1.2 hkind
      rw [hmarked] at hbehind hnul ⊢
      rw [hlayout.2, Int.add_zero] at hbehind
      exact .layout hlayout.1 (.comment hplain (fun hmem => hnul (List.mem_cons_of_mem _ hmem))
        hended hbehind)
    | content hstands =>
      exact .lexeme (hkind ▸ hstands) (getLast_of_not_mem hinside.2) hfirst hlast hbehind

theorem Extends.layouts {part : Text} {depth : Int} {margin : List Lexeme}
    (hmargin : ∀ l ∈ margin, l.isLayout = true) (h : Extends before part depth lexemes final) :
    Extends before part depth (margin ++ lexemes) final := by
  induction margin with
  | nil => exact h
  | cons l margin ih =>
    rw [List.forall_mem_cons] at hmargin
    exact .layout hmargin.1 (ih hmargin.2)

-- A row that does not close an open string is a part of it.
theorem unclosed_of_closeLength {s : OpenString} (hrow : IsRow line) (hbreak : '\n' ∈ line)
    (hquote : s.quote ≠ '\n') (h : s.closeLength? line = none) :
    Unclosed s.quote s.tripled line := by
  unfold OpenString.closeLength? at h
  split_ifs at h with htripled
  · rw [htripled]
    exact unclosed_of_closeTriple hrow hbreak hquote h
  · rw [Bool.eq_false_iff.mpr htripled]
    exact unclosed_of_close hrow hbreak hquote h

theorem ScansString.extends {s : OpenString} (h : ScansString row s state line lexemes final)
    (hposition : positionOf (before ++ s.text) = ⟨row, 0⟩) (hstart : positionOf before = s.start)
    (hopens : Opens s.quote s.tripled s.text) (hrow : IsRow line)
    (hend : '\n' ∈ line ∨ final.openString = none) (hclean : Clean lexemes) :
    Extends before (s.text ++ line) state.depth lexemes final := by
  have hquote := isQuote_ne_break hopens.quoted
  cases h with
  | @closed body rest _ _ hclose hothers =>
    obtain ⟨hends, hinside⟩ := ends_of_closeLength hquote hrow hclose
    rw [Clean, List.forall_mem_cons] at hclean
    have hstop : positionOf (before ++ s.text ++ body) = ⟨row, body.length⟩ := by
      simpa using positionOf_within hposition hinside
    have hrest := hothers.extends hstop rfl
      (hend.imp_left fun hmem => (List.mem_append.mp hmem).resolve_left hinside) hclean.2
    rw [← List.append_assoc]
    refine .lexeme (l := ⟨.string, s.text ++ body, s.start, ⟨row, body.length⟩⟩)
      (hopens.stands hends rest) ?_ hstart ?_ ?_
    · rw [List.getLast?_append_of_ne_nil _ hends.ne_nil]
      exact getLast_of_not_mem hinside
    · rw [← List.append_assoc, hstop]
    · rw [depthChange_of_kind (by simp), Int.add_zero, ← List.append_assoc]
      exact hrest
  | broken => exact absurd rfl (hclean _ List.mem_cons_self).1
  | goesOn hclose =>
    have hunclosed := unclosed_of_closeLength hrow (hend.resolve_right (by simp)) hquote hclose
    exact ⟨before, s.text ++ line, rfl, ⟨rfl, hstart, hopens.append hunclosed⟩,
      fun _ _ _ hbehind => hbehind⟩

theorem isLayout_of_mem_idleLine {blanks : Nat} {body : List Char} :
    ∀ l ∈ idleLine row blanks body, l.isLayout = true := by
  unfold idleLine
  simp only
  split_ifs <;> simp [Lexeme.isLayout]

theorem isLayout_of_mem_indentation {column blanks : Nat} {margins margins' : List Nat}
    (h : indentation row column blanks line margins = .ok (lexemes, margins')) :
    ∀ l ∈ lexemes, l.isLayout = true := by
  intro l hl
  unfold indentation at h
  split_ifs at h
  · cases h
    rw [List.mem_singleton.mp hl]
    rfl
  · cases h
    rw [(List.mem_replicate.mp hl).2]
    rfl

theorem ScansFirst.extends (h : ScansFirst row state line lexemes final)
    (hposition : positionOf before = ⟨row, 0⟩) (hclosed : state.openString = none)
    (hdepth : state.depth = 0) (hend : '\n' ∈ line ∨ final.openString = none)
    (hclean : Clean lexemes) : Extends before line state.depth lexemes final := by
  cases h with
  | blank hblank =>
    have hfirst : IdleFirst line := fun c hc => .inl (hblank c (List.mem_of_mem_head? hc))
    exact extends_skip hclosed rfl (.inr fun _ => .idle hdepth hfirst)
  | @idle gaps body c _ hblank hidle =>
    have hfirst : IdleFirst (gaps ++ c :: body) := by
      cases gaps with
      | nil =>
        rintro _ ⟨⟩
        exact .inr hidle
      | cons d gaps =>
        rintro _ ⟨⟩
        exact .inl (hblank d List.mem_cons_self)
    rw [← List.append_nil (idleLine _ _ _)]
    exact .layouts isLayout_of_mem_idleLine
      (extends_skip hclosed rfl (.inr fun _ => .idle hdepth hfirst))
  | @code gaps _ _ _ _ _ _ _ _ hblank _ hindents hothers =>
    have hinside : '\n' ∉ gaps := fun hmem => by cases hblank _ hmem
    have hplace : positionOf (before ++ gaps) = ⟨row, gaps.length⟩ := by
      simpa using positionOf_within hposition hinside
    rw [Clean, List.forall_mem_append] at hclean
    refine .layouts (isLayout_of_mem_indentation hindents) (.gaps hblank ?_)
    exact hothers.extends hplace hclosed
      (hend.imp_left fun hmem => (List.mem_append.mp hmem).resolve_left hinside) hclean.2

theorem ScansLine.extends {text : Text} (h : ScansLine row line state lexemes final)
    (hposition : positionOf (before ++ text) = ⟨row, 0⟩) (hpending : Pending state before text)
    (hrow : IsRow line) (hend : '\n' ∈ line ∨ final.openString = none) (hclean : Clean lexemes) :
    Extends before (text ++ line) state.depth lexemes final := by
  unfold Pending at hpending
  cases h with
  | string hopen hstring =>
    rw [hopen] at hpending
    obtain ⟨rfl, hstart, hopens⟩ := hpending
    exact hstring.extends hposition hstart hopens hrow hend hclean
  | first hclosed hdepth _ hfirst =>
    rw [hclosed] at hpending
    subst hpending
    rw [List.append_nil] at hposition
    exact hfirst.extends hposition hclosed hdepth hend hclean
  | rest hclosed _ hrest =>
    rw [hclosed] at hpending
    subst hpending
    rw [List.append_nil] at hposition
    exact hrest.extends hposition hclosed hend hclean

theorem getLast_of_isRow (hrow : IsRow line) (hbreak : '\n' ∈ line) :
    line.getLast? = some '\n' := by
  rcases List.eq_nil_or_concat line with rfl | ⟨others, c, rfl⟩
  · cases hbreak
  · rw [IsRow, List.concat_eq_append, List.dropLast_concat] at hrow
    rw [List.concat_eq_append, List.mem_append, List.mem_singleton] at hbreak
    rw [List.concat_eq_append, List.getLast?_concat, hbreak.resolve_left hrow]

theorem ScansLines.covers {rows : List Text} {text : Text}
    (h : ScansLines row rows state lexemes final) (hrows : Rows rows)
    (hposition : positionOf (before ++ text) = ⟨row, 0⟩) (hpending : Pending state before text)
    (hclosed : final.openString = none) (hclean : Clean lexemes) :
    Covers state.depth before (text ++ rows.flatten) (solid lexemes) := by
  induction h generalizing before text with
  | nil =>
    rw [Pending, hclosed] at hpending
    rw [hpending]
    exact .nil
  | @cons row line rest state next final here lexemes hrow hfirst hothers ih =>
    obtain ⟨-, hbreak, hrows⟩ := hrows
    rw [Clean, List.forall_mem_append] at hclean
    have hend : '\n' ∈ line ∨ next.openString = none := by
      cases hothers with
      | nil => exact .inr hclosed
      | cons => exact .inl (hbreak (by simp))
    obtain ⟨start, pending, hstart, hpending', hcovers⟩ :=
      hfirst.extends hposition hpending hrow hend hclean.1
    rw [solid_append, List.flatten_cons, ← List.append_assoc]
    refine hcovers _ _ (fun hlast => ?_) ?_
    · by_contra hne
      have hrest : rest ≠ [] := by
        rintro rfl
        exact hne rfl
      have hgot := getLast_of_isRow hrow (hbreak hrest)
      rw [List.getLast?_append, hgot] at hlast
      exact hlast rfl
    · cases hothers with
      | nil =>
        rw [Pending, hclosed] at hpending'
        rw [hpending']
        exact .nil
      | cons =>
        refine ih hrows ?_ hpending' hclosed hclean.2
        rw [← hstart, ← List.append_assoc]
        exact positionOf_append_row hposition hrow (hbreak (by simp))

-- A text without stray lexemes is made of its lexemes.
theorem covers_scan (h : scan t = .ok lexemes) (hclean : Clean lexemes) :
    Covers 0 [] t (solid lexemes) := by
  obtain ⟨found, final, n, last, hscans, hclosed, -, -, rfl⟩ := scansLines_of_scan h
  have hsolid : solid (closing n last final.margins) = [] := by
    rw [solid, List.filter_eq_nil_iff]
    intro l hl
    simp [isLayout_of_mem_closing hl]
  have hpending : Pending ScanState.start [] [] := @rfl Text []
  have hcovers := hscans.covers (rows_lines t) rfl hpending hclosed
    (List.forall_mem_append.mp hclean).1
  rwa [solid_append, hsolid, List.append_nil, ← lines_flatten t]

end

section

variable {depth : Int} {before t : Text} {l : Lexeme} {lexemes behind : List Lexeme}

theorem Covers.stands (h : Covers depth before t lexemes) :
    ∀ l ∈ lexemes, ∃ rest, Stands rest l.kind l.text := by
  induction h with
  | nil => simp
  | skip _ _ ih => exact ih
  | lexeme hstands _ _ _ ih => exact List.forall_mem_cons.mpr ⟨⟨_, hstands⟩, ih⟩

theorem head_append (a b : Text) : a.head? = none ∨ a.head? = (a ++ b).head? := by
  cases a with
  | nil => exact .inl rfl
  | cons c a => exact .inr rfl

theorem Skips.of_append {part u v : Text} (h : Skips depth (u ++ v) part) :
    Skips depth u part := by
  cases h with
  | gap hblank => exact .gap hblank
  | lineBreak hwhole => exact .lineBreak hwhole
  | joined hwhole => exact .joined hwhole
  | comment hinside hended =>
    refine .comment hinside fun c hc => hended c ?_
    rcases head_append u v with hnone | hsame
    · rw [hnone] at hc
      cases hc
    · rwa [hsame] at hc
  | idle houtside hfirst => exact .idle houtside hfirst

-- The text up to a lexeme, and the text behind it.
theorem Covers.split (h : Covers depth before t (lexemes ++ l :: behind)) :
    ∃ u v, t = u ++ (l.text ++ v) ∧ Covers depth before u lexemes ∧
      positionOf (before ++ u) = l.start ∧ positionOf (before ++ u ++ l.text) = l.stop ∧
      Covers (depth + Directive.depth lexemes + l.depthChange) (before ++ u ++ l.text) v
        behind := by
  generalize hall : lexemes ++ l :: behind = all at h
  induction h generalizing lexemes with
  | nil => simp at hall
  | @skip depth before part rest others hskips _ ih =>
    obtain ⟨u, v, rfl, hu, hstart, hstop, hv⟩ := ih hall
    rw [List.append_assoc before] at hstart hstop hv
    exact ⟨part ++ u, v, by simp, .skip hskips.of_append hu, hstart, hstop, hv⟩
  | @lexeme depth before rest first others hstands hstart hstop hbehind ih =>
    cases lexemes with
    | nil =>
      obtain ⟨rfl, rfl⟩ := List.cons.inj hall
      exact ⟨[], rest, rfl, .nil, by simpa using hstart, by simpa using hstop,
        by simpa using hbehind⟩
    | cons first' lexemes =>
      obtain ⟨rfl, hothers⟩ := List.cons.inj hall
      obtain ⟨u, v, rfl, hu, hstart', hstop', hv⟩ := ih hothers
      rw [List.append_assoc before] at hstart' hstop' hv
      have hdepth : depth + Directive.depth (first' :: lexemes) + l.depthChange =
          depth + first'.depthChange + Directive.depth lexemes + l.depthChange := by
        rw [Directive.depth_cons]
        omega
      refine ⟨first'.text ++ u, v, by simp, ?_, hstart', hstop', by rwa [hdepth]⟩
      exact .lexeme (hstands.of_head (head_append u _)) hstart hstop hu

theorem paren_of_stands {rest u : Text} {kind : LexemeKind} (h : Stands rest kind ('(' :: u)) :
    kind = .operator ∧ u = [] := by
  generalize htext : '(' :: u = text at h
  cases h with
  | @string letters body quote _ hletters hquote =>
    cases letters with
    | nil =>
      cases htext
      cases hquote
    | cons c letters =>
      cases htext
      cases isAsciiLetter_of_isStringPrefix hletters '(' List.mem_cons_self
  | number hhead =>
    cases htext
    exact absurd hhead (by decide)
  | operator hknown =>
    have halone : ∀ operator ∈ operators, operator.head? = some '(' → operator = ['('] := by
      decide
    subst htext
    exact ⟨rfl, (List.cons.inj (halone _ hknown rfl)).2⟩
  | word _ _ hmade =>
    cases htext
    cases hmade '(' List.mem_cons_self

-- A parenthesis at the start is the first lexeme.
theorem Covers.opened (h : Covers 0 before ('(' :: t) lexemes) :
    ∃ others, lexemes =
        ⟨.operator, ['('], positionOf before, positionOf (before ++ ['('])⟩ :: others ∧
      Covers 1 (before ++ ['(']) t others := by
  generalize hdepth : (0 : Int) = depth, htext : '(' :: t = text at h
  induction h with
  | nil => cases htext
  | @skip depth before part rest lexemes hskips _ ih =>
    cases part with
    | nil =>
      rw [List.append_nil] at ih
      exact ih hdepth htext
    | cons c part =>
      exfalso
      obtain ⟨rfl, -⟩ := List.cons.inj htext
      generalize hpart : '(' :: part = whole at hskips
      cases hskips with
      | gap hblank =>
        cases hpart
        cases hblank
      | lineBreak hwhole => rcases hwhole with rfl | rfl <;> cases hpart
      | joined => cases hpart
      | comment => cases hpart
      | idle _ hfirst =>
        subst hpart
        exact absurd (hfirst '(' rfl) (by decide)
  | @lexeme depth before rest l lexemes hstands hstart hstop hbehind _ =>
    subst hdepth
    obtain ⟨kind, text, start, stop⟩ := l
    obtain ⟨c, u, rfl⟩ := List.exists_cons_of_ne_nil hstands.ne_nil
    obtain ⟨rfl, rfl⟩ := List.cons.inj htext
    obtain ⟨rfl, rfl⟩ := paren_of_stands hstands
    exact ⟨lexemes, by rw [hstart, hstop], hbehind⟩

end

end Ghostwriter.Lexeme

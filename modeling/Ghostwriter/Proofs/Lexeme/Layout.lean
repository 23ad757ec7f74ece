import Ghostwriter.Proofs.Lexeme.Run

/-!
Where the lexemes of layout stand among the others: line ends only outside of brackets, the rest of
the layout only at the start of a line or within brackets.
-/

namespace Ghostwriter

namespace Lexeme

-- A lexeme that can stand before the first word of a line.
def isLeading (l : Lexeme) : Bool :=
  match l.kind with
  | .lineBreak | .comment | .indent | .dedent => true
  | _ => false

-- A string that is broken off at the end of a line, where a backslash should stand.
def isBroken (l : Lexeme) : Bool := l.kind = .stray && l.start.line ≠ l.stop.line

theorem depthChange_of_isBroken {l : Lexeme} (h : l.isBroken = true) : l.depthChange = 0 := by
  simp only [isBroken, Bool.and_eq_true, decide_eq_true_eq] at h
  exact depthChange_of_kind (by simp [h.1])

def startsLeading (lexemes : List Lexeme) : Bool := lexemes.head?.any isLeading

-- Lexemes that can stand at a bracket depth. The flag says whether a line may begin with them: it
-- can after a line end, after the layout at its start, and after a broken string if layout follows.
inductive Laid : Int → Bool → List Lexeme → Prop
  | newline {depth : Int} {fresh : Bool} {l : Lexeme} {rest : List Lexeme} :
      l.kind = .newline → depth ≤ 0 → Laid depth true rest → Laid depth fresh (l :: rest)
  | lineBreak {depth : Int} {fresh : Bool} {l : Lexeme} {rest : List Lexeme} :
      l.kind = .lineBreak → (0 < depth ∨ fresh = true) → Laid depth fresh rest →
      Laid depth fresh (l :: rest)
  | comment {depth : Int} {fresh : Bool} {l : Lexeme} {rest : List Lexeme} :
      l.kind = .comment → (∀ next ∈ rest.head?, next.kind ≠ .name ∧ next.kind ≠ .comment) →
      Laid depth fresh rest → Laid depth fresh (l :: rest)
  | indent {depth : Int} {l : Lexeme} {rest : List Lexeme} :
      l.kind = .indent → Laid depth true rest → Laid depth true (l :: rest)
  | dedent {depth : Int} {l : Lexeme} {rest : List Lexeme} :
      l.kind = .dedent → Laid depth true rest → Laid depth true (l :: rest)
  -- the blocks that are open at the end
  | close {depth : Int} {fresh : Bool} {l : Lexeme} {rest : List Lexeme} :
      l.kind = .dedent → (∀ next ∈ rest.head?, next.kind = .dedent ∨ next.kind = .endMarker) →
      Laid depth fresh rest → Laid depth fresh (l :: rest)
  | content {depth : Int} {fresh : Bool} {l : Lexeme} {rest : List Lexeme} :
      Lexeme.IsContent l.kind →
      Laid (depth + l.depthChange) (l.isBroken && startsLeading rest) rest →
      Laid depth fresh (l :: rest)
  | endMarker {fresh : Bool} {l : Lexeme} : l.kind = .endMarker → Laid 0 fresh [l]

namespace Laid

variable {depth : Int} {fresh : Bool} {lexemes : List Lexeme}

theorem ne_nil (h : Laid depth fresh lexemes) : lexemes ≠ [] := by
  cases h <;> simp

-- The flag matters only to layout.
theorem of_startsLeading (h : Laid depth true lexemes) :
    Laid depth (startsLeading lexemes) lexemes := by
  cases h with
  | newline hkind hdepth hrest => exact .newline hkind hdepth hrest
  | lineBreak hkind hfresh hrest =>
    rw [show startsLeading _ = true by simp [startsLeading, isLeading, hkind]]
    exact .lineBreak hkind hfresh hrest
  | comment hkind hnext hrest =>
    rw [show startsLeading _ = true by simp [startsLeading, isLeading, hkind]]
    exact .comment hkind hnext hrest
  | indent hkind hrest =>
    rw [show startsLeading _ = true by simp [startsLeading, isLeading, hkind]]
    exact .indent hkind hrest
  | dedent hkind hrest =>
    rw [show startsLeading _ = true by simp [startsLeading, isLeading, hkind]]
    exact .dedent hkind hrest
  | close hkind hnext hrest =>
    rw [show startsLeading _ = true by simp [startsLeading, isLeading, hkind]]
    exact .close hkind hnext hrest
  | content hkind hrest => exact .content hkind hrest
  | endMarker hkind => exact .endMarker hkind

end Laid

end Lexeme

namespace Lexeme

open Ghostwriter.Text

-- A row begins a statement only where nothing of a line is left.
def Ready (state : ScanState) (fresh : Bool) : Prop :=
  state.openString = none → state.continued = false → state.depth = 0 → fresh = true

-- What can stand behind the lexemes of a row.
structure Behind (row : List Char) (state : ScanState) (behind : List Lexeme) : Prop where
  laid : ∀ fresh, ('\n' ∈ row → Ready state fresh) → Laid state.depth fresh behind
  -- a row without a line end is the last one
  last : '\n' ∉ row → ∀ next ∈ behind.head?, next.kind ≠ .name ∧ next.kind ≠ .comment

theorem Behind.of_append {u rest : List Char} {state : ScanState} {behind : List Lexeme}
    (h : Behind (u ++ rest) state behind) (hu : '\n' ∉ u) : Behind rest state behind := by
  have hsame : '\n' ∈ u ++ rest ↔ '\n' ∈ rest := by rw [List.mem_append, or_iff_right hu]
  constructor
  · simpa only [hsame] using h.laid
  · simpa only [hsame] using h.last

section

variable {row column : Nat} {rest line : List Char} {state final : ScanState}
  {lexemes behind : List Lexeme} {fresh : Bool}

-- Behind a comment comes no word and no other comment.
theorem ScansRest.head (h : ScansRest row column rest state lexemes final)
    (hbreaks : BreaksFirst rest)
    (hlast : '\n' ∉ rest → ∀ next ∈ behind.head?, next.kind ≠ .name ∧ next.kind ≠ .comment) :
    ∀ next ∈ (lexemes ++ behind).head?, next.kind ≠ .name ∧ next.kind ≠ .comment := by
  rcases piece_of_breaksFirst hbreaks with rfl | ⟨length, kind, hbreak, hkind⟩
  · obtain ⟨rfl, -⟩ := Prod.mk.inj (scanRest_nil.symm.trans (h.eq le_rfl))
    exact hlast (by simp)
  · cases h with
    | nothing hpiece => cases hbreak.symm.trans hpiece
    | joined hpiece => cases hbreak.symm.trans hpiece
    | opens _ hpiece => cases hbreak.symm.trans hpiece
    | newline _ _ _ hmade =>
      rintro next ⟨⟩
      rw [hmade]
      simp only [settleKind]
      split_ifs <;> simp
    | lexeme _ hpiece _ hknown _ hmade =>
      obtain ⟨-, -, rfl⟩ := Piece.lexeme.inj (hbreak.symm.trans hpiece)
      rintro next ⟨⟩
      obtain rfl := hkind.resolve_left (ne_newline_of_known hknown)
      simp [hmade]

-- The rest of a row, wherever in a line it stands.
theorem ScansRest.laid (h : ScansRest row column rest state lexemes final) (fresh : Bool)
    (hbehind : Behind rest final behind) : Laid state.depth fresh (lexemes ++ behind) := by
  induction h generalizing fresh with
  | nothing hpiece => exact hbehind.laid fresh fun hmem => absurd hmem (piece_nothing hpiece)
  | joined => exact hbehind.laid fresh fun _ _ hcontinued => by cases hcontinued
  | opens => exact hbehind.laid fresh fun _ hopen => by cases hopen
  | @newline _ _ _ state l _ _ _ hmade =>
    have hkind : l.kind = settleKind state.depth .newline := hmade ▸ rfl
    have hflat : l.depthChange = 0 := depthChange_of_kind (hkind ▸ settleKind_newline)
    by_cases hdepth : 0 < state.depth
    · refine .lineBreak (by simp [hkind, settleKind, hdepth]) (.inl hdepth)
        (hbehind.laid fresh fun _ _ _ hzero => ?_)
      omega
    · exact .newline (by simp [hkind, settleKind, hdepth]) (by omega)
        (hbehind.laid true fun _ _ _ _ => rfl)
  | lexeme _ _ _ hknown hinside hmade hothers ih =>
    rw [← List.append_assoc] at hbehind
    have hrest := hbehind.of_append hinside
    rcases hknown with hcontent | ⟨rfl, hbreaks⟩
    · exact .content (by rwa [hmade]) (ih _ hrest)
    · have hkind : _ = LexemeKind.comment := congrArg Lexeme.kind hmade
      refine .comment hkind (hothers.head hbreaks hrest.last) ?_
      have hcomment := ih fresh hrest
      rwa [depthChange_of_kind (by simp [hkind]), Int.add_zero] at hcomment

theorem laid_idleLine {blanks : Nat} {body : List Char} {depth : Int}
    (h : Laid depth true behind) : Laid depth true (idleLine row blanks body ++ behind) := by
  have hbreak {l : Lexeme} (hl : l.kind = .lineBreak) : Laid depth true (l :: behind) :=
    .lineBreak hl (.inr rfl) h
  unfold idleLine
  simp only
  generalize (if body.head? = some '#' then _ else []) = comment
  split
  · exact hbreak rfl
  · refine .comment rfl ?_ (hbreak rfl)
    rintro next ⟨⟩
    simp

theorem laid_indentation {column blanks : Nat} {margins margins' : List Nat} {depth : Int}
    (h : indentation row column blanks line margins = .ok (lexemes, margins'))
    (hbehind : Laid depth true behind) : Laid depth true (lexemes ++ behind) := by
  unfold indentation at h
  split_ifs at h
  · cases h
    exact .indent rfl hbehind
  · cases h
    generalize (dedents column margins).1 = n
    induction n with
    | zero => exact hbehind
    | succ n ih => exact .dedent rfl ih

theorem ScansFirst.laid (h : ScansFirst row state line lexemes final)
    (hbehind : Behind line final behind) : Laid state.depth true (lexemes ++ behind) := by
  have hready : Laid final.depth true behind := hbehind.laid true fun _ _ _ _ => rfl
  cases h with
  | blank => exact hready
  | idle => exact laid_idleLine hready
  | code _ hblank _ hindents hothers =>
    have hinside : '\n' ∉ _ := fun hmem => by cases hblank _ hmem
    rw [List.append_assoc]
    exact laid_indentation hindents (hothers.laid true (hbehind.of_append hinside))

-- Each open string begins in an earlier row, with a quote.
def Opened (row : Nat) (state : ScanState) : Prop :=
  ∀ s ∈ state.openString, s.start.line < row ∧ isQuote s.quote = true

theorem ScansString.laid {s : OpenString} (h : ScansString row s state line lexemes final)
    (hrow : IsRow line) (hstart : s.start.line < row) (hquote : s.quote ≠ '\n')
    (hbehind : Behind line final behind) : Laid state.depth fresh (lexemes ++ behind) := by
  cases h with
  | closed hclose hothers =>
    have hinside := (ends_of_closeLength hquote hrow hclose).2
    refine .content (by simp [IsContent]) ?_
    rw [depthChange_of_kind (by simp), Int.add_zero]
    exact hothers.laid _ (hbehind.of_append hinside)
  | broken =>
    refine .content (by simp [IsContent]) ?_
    rw [depthChange_of_kind (by simp), Int.add_zero]
    have hbroken : isBroken ⟨.stray, s.text ++ line, s.start, ⟨row, line.length⟩⟩ = true := by
      simp only [isBroken, decide_true, Bool.true_and, decide_eq_true_eq]
      omega
    rw [hbroken, Bool.true_and]
    exact (hbehind.laid true fun _ _ _ _ => rfl).of_startsLeading
  | goesOn => exact hbehind.laid fresh fun _ hopen => by cases hopen

theorem ScansLine.laid (h : ScansLine row line state lexemes final) (hopened : Opened row state)
    (hready : Ready state fresh) (hrow : IsRow line) (hbehind : Behind line final behind) :
    Laid state.depth fresh (lexemes ++ behind) := by
  cases h with
  | string hopen hstring =>
    obtain ⟨hstart, hquote⟩ := hopened _ hopen
    exact hstring.laid hrow hstart (isQuote_ne_break hquote) hbehind
  | first hclosed hdepth hstraight hfirst =>
    rw [hready hclosed hstraight hdepth]
    exact hfirst.laid hbehind
  | rest _ _ hrest => exact hrest.laid fresh hbehind

theorem ScansRest.opened (h : ScansRest row column rest state lexemes final)
    (hopened : Opened (row + 1) state) : Opened (row + 1) final := by
  induction h with
  | nothing => exact hopened
  | joined => exact hopened
  | opens _ hpiece =>
    rintro s ⟨⟩
    exact ⟨Nat.lt_succ_self row, piece_openString hpiece⟩
  | newline => exact hopened
  | lexeme _ _ _ _ _ _ _ ih => exact ih hopened

theorem ScansLine.opened (h : ScansLine row line state lexemes final) (hopened : Opened row state) :
    Opened (row + 1) final := by
  have hlater : Opened (row + 1) state := fun s hs =>
    ⟨Nat.lt_succ_of_lt (hopened s hs).1, (hopened s hs).2⟩
  cases h with
  | @string s _ _ hopen hstring =>
    cases hstring with
    | closed _ hothers => exact hothers.opened fun _ hmem => by cases hmem
    | broken => exact fun _ hmem => by cases hmem
    | goesOn =>
      rintro _ ⟨⟩
      exact (hlater s hopen :)
  | first _ _ _ hfirst =>
    cases hfirst with
    | blank => exact hlater
    | idle => exact hlater
    | code _ _ _ _ hothers => exact hothers.opened hlater
  | rest _ _ hrest => exact hrest.opened hlater

end

theorem ScansLines.laid {row : Nat} {rows : List (List Char)} {state final : ScanState}
    {lexemes behind : List Lexeme} {fresh : Bool} (h : ScansLines row rows state lexemes final)
    (hrows : Rows rows) (hopened : Opened row state) (hready : Ready state fresh)
    (hbehind : ∀ fresh, Laid final.depth fresh behind)
    (hlast : ∀ next ∈ behind.head?, next.kind ≠ .name ∧ next.kind ≠ .comment) :
    Laid state.depth fresh (lexemes ++ behind) := by
  induction h generalizing fresh with
  | nil => exact hbehind fresh
  | @cons row line rows _ _ _ _ _ hrow hline hothers ih =>
    rw [List.append_assoc]
    refine hline.laid hopened hready hrow ⟨fun fresh hfresh => ?_, fun hno => ?_⟩
    · cases hothers with
      | nil => exact hbehind fresh
      | cons =>
        exact ih hrows.2.2 (hline.opened hopened) (hfresh (hrows.2.1 (by simp))) hbehind
    · cases hothers with
      | nil => exact hlast
      | cons => exact absurd (hrows.2.1 (by simp)) hno

theorem laid_closing {rows : Nat} {last : List Char} {margins : List Nat} (fresh : Bool) :
    Laid 0 fresh (closing rows last margins) := by
  have hend (fresh : Bool) : Laid 0 fresh
      (List.replicate (margins.length - 1) ⟨.dedent, [], ⟨rows + 1, 0⟩, ⟨rows + 1, 0⟩⟩ ++
        [⟨.endMarker, [], ⟨rows + 1, 0⟩, ⟨rows + 1, 0⟩⟩]) := by
    generalize margins.length - 1 = n
    induction n with
    | zero => exact .endMarker rfl
    | succ n ih =>
      refine .close rfl ?_ ih
      cases n with
      | zero =>
        rintro next ⟨⟩
        exact .inr rfl
      | succ n =>
        rintro next ⟨⟩
        exact .inl rfl
  unfold closing
  simp only [List.append_assoc]
  split_ifs
  · exact .newline rfl (Int.le_refl 0) (hend true)
  · exact hend fresh

theorem head_closing {rows : Nat} {last : List Char} {margins : List Nat} :
    ∀ next ∈ (closing rows last margins).head?, next.kind ≠ .name ∧ next.kind ≠ .comment := by
  unfold closing
  split_ifs
  · rintro next ⟨⟩
    simp
  · generalize margins.length - 1 = n
    cases n with
    | zero =>
      rintro next ⟨⟩
      simp
    | succ n =>
      rintro next ⟨⟩
      simp

theorem isLayout_of_mem_closing {rows : Nat} {last : Text} {margins : List Nat} {l : Lexeme}
    (h : l ∈ closing rows last margins) : l.isLayout = true := by
  unfold closing at h
  rw [List.mem_append, List.mem_append, List.mem_singleton] at h
  rcases h with (h | h) | rfl
  · split_ifs at h
    · rw [List.mem_singleton.mp h]
      rfl
    · cases h
  · rw [(List.mem_replicate.mp h).2]
    rfl
  · rfl

theorem laid_scan {t : Text} {lexemes : List Lexeme} (h : scan t = .ok lexemes) :
    Laid 0 true lexemes := by
  obtain ⟨found, final, n, last, hscans, -, hdepth, -, rfl⟩ := scansLines_of_scan h
  have hopened : Opened 1 ScanState.start := fun _ hmem => by cases hmem
  exact hscans.laid (rows_lines t) hopened (fun _ _ _ => rfl) (fun fresh => hdepth ▸ laid_closing fresh)
    head_closing

end Lexeme
end Ghostwriter

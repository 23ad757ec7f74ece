import Ghostwriter.Proofs.Directive.Payload
import Ghostwriter.Proofs.Lexeme.Spelled
import Ghostwriter.Proofs.Lexeme.Tiled

/-!
Where in a scan a lexeme is taken, and with how many brackets open. The scan of rows is the scan of
the first ones and then that of the others, and within a row likewise.
-/

namespace Ghostwriter.Directive

theorem Nested.front {outer : Int} {lexemes behind : List Lexeme}
    (h : Nested outer (lexemes ++ behind)) : Nested outer lexemes :=
  fun _ hbefore => h _ (hbefore.trans (List.prefix_append _ _))

end Ghostwriter.Directive

namespace Ghostwriter.Lexeme

open Ghostwriter.Directive Ghostwriter.Text

-- A state between two rows as it is where no string has been broken off.
structure Tidy (state : ScanState) : Prop where
  free : state.openString = none → state.mustContinue = false
  straight : state.openString ≠ none → state.continued = false

-- From a state between two rows the next one is scanned behind `n` characters in another state.
-- These are the margin, or what ends an open string.
structure Enters (line : Text) (state : ScanState) (n : Nat) (other : ScanState) : Prop where
  within : Within n line
  depth : other.depth = state.depth
  closed : other.openString = none
  quote : ∀ s ∈ state.openString, s.quote ∈ line.take n
  free : Tidy state → other.mustContinue = false
  straight : Tidy state → other.continued = false

-- An element of two lists together is in the one or in the other.
theorem append_eq_append_cons {α : Type} {a : α} {front back before behind : List α}
    (h : front ++ back = before ++ a :: behind) :
    (∃ more, before = front ++ more ∧ back = more ++ a :: behind) ∨
      ∃ more, front = before ++ a :: more ∧ behind = more ++ back := by
  rcases List.append_eq_append_iff.mp h with ⟨more, rfl, hmore⟩ | ⟨more, rfl, hmore⟩
  · exact .inl ⟨more, rfl, hmore⟩
  · cases more with
    | nil => exact .inl ⟨[], by simp, hmore.symm⟩
    | cons b more =>
      obtain ⟨rfl, rfl⟩ := List.cons.inj hmore
      exact .inr ⟨more, rfl, rfl⟩

theorem append_cons_eq_singleton {α : Type} {a b : α} {before behind : List α}
    (h : before ++ a :: behind = [b]) : before = [] ∧ a = b ∧ behind = [] := by
  cases before <;> simp_all

section

variable {row column : Nat} {rest line : Text} {state final : ScanState} {l : Lexeme}
  {lexemes before behind : List Lexeme}

theorem depth_of_plain (h : ∀ l ∈ lexemes, l.kind ≠ .operator) : depth lexemes = 0 := by
  induction lexemes with
  | nil => rfl
  | cons l lexemes ih =>
    rw [List.forall_mem_cons] at h
    rw [depth_cons, depthChange_of_kind h.1, ih h.2, Int.add_zero]

theorem kind_of_isLayout (h : l.isLayout = true) : l.kind ≠ .operator ∧ l.kind ≠ .name := by
  constructor
  all_goals
    intro hkind
    simp [Lexeme.isLayout, hkind] at h

theorem ScansRest.depth_eq (h : ScansRest row column rest state lexemes final) :
    final.depth = state.depth + depth lexemes := by
  induction h with
  | nothing => simp
  | joined => simp
  | opens => simp
  | newline _ _ _ hmade =>
    rw [depth_cons, depthChange_of_kind (hmade ▸ settleKind_newline)]
    simp
  | lexeme _ _ _ _ _ _ _ ih => rw [ih, depth_cons, Int.add_assoc]

-- A row begins with lexemes that are neither operators nor names: its margin, or the end of an open
-- string. If there are more, they are those of the rest of the row.
theorem ScansLine.split (h : ScansLine row line state lexemes final) (hrow : IsRow line)
    (hopened : Opened row state) :
    ∃ front others, lexemes = front ++ others ∧
      (∀ l ∈ front, l.kind ≠ .operator ∧ l.kind ≠ .name) ∧
      (others = [] ∧ final.depth = state.depth ∧
          (Tidy state → (∀ l ∈ front, l.isBroken = false) → Tidy final) ∨
        ∃ n other, ScansRest row n (line.drop n) other others final ∧
          Enters line state n other) := by
  have hquote (hclosed : state.openString = none) (n : Nat) :
      ∀ s ∈ state.openString, s.quote ∈ line.take n := by
    rw [hclosed]
    simp
  cases h with
  | @string s _ _ hs hstring =>
    obtain ⟨hstart, hisQuote⟩ := hopened s hs
    cases hstring with
    | @closed body rest others _ hclose hothers =>
      obtain ⟨hends, hinside⟩ := ends_of_closeLength (isQuote_ne_break hisQuote) hrow hclose
      rw [← @List.drop_left _ body rest] at hothers
      refine ⟨[_], others, rfl, by simp, .inr ⟨body.length, _, hothers, ⟨?_, rfl, rfl, ?_,
        fun _ => rfl, fun htidy => htidy.straight (by simp [hs])⟩⟩⟩
      · rwa [Within, List.take_left]
      · intro s' hs'
        obtain rfl : s' = s := Option.some.inj (hs'.symm.trans hs)
        rw [List.take_left]
        exact List.mem_of_getLast? hends.getLast
    | broken =>
      refine ⟨[_], [], rfl, by simp, .inl ⟨rfl, rfl, fun _ hwhole => ?_⟩⟩
      have hbroken := hwhole _ List.mem_cons_self
      simp only [isBroken, decide_true, Bool.true_and, decide_eq_false_iff_not, ne_eq,
        not_not] at hbroken
      omega
    | goesOn =>
      refine ⟨[], [], rfl, by simp, .inl ⟨rfl, rfl, fun htidy _ => ?_⟩⟩
      exact ⟨by simp, fun _ => htidy.straight (by simp [hs])⟩
  | first hclosed _ hstraight hfirst =>
    cases hfirst with
    | blank =>
      exact ⟨[], [], rfl, by simp, .inl ⟨rfl, rfl, fun htidy _ => ⟨htidy.free, htidy.straight⟩⟩⟩
    | idle =>
      refine ⟨_, [], (List.append_nil _).symm, ?_, .inl ⟨rfl, rfl, fun htidy _ => htidy⟩⟩
      exact fun l hl => kind_of_isLayout (isLayout_of_mem_idleLine l hl)
    | @code gaps body c _ margin others _ _ _ hgaps _ hindents hothers =>
      have hwithin : Within gaps.length (gaps ++ c :: body) := by
        rw [Within, List.take_left]
        exact fun hmem => by cases hgaps _ hmem
      rw [← @List.drop_left _ gaps (c :: body)] at hothers
      refine ⟨margin, others, rfl, ?_, .inr ⟨gaps.length, _, hothers, hwithin, rfl, hclosed,
        hquote hclosed _, fun htidy => htidy.free hclosed, fun _ => hstraight⟩⟩
      exact fun l hl => kind_of_isLayout (isLayout_of_mem_indentation hindents l hl)
  | rest hclosed _ hrest =>
    exact ⟨[], lexemes, rfl, by simp, .inr ⟨0, _, hrest, .zero, rfl, hclosed, hquote hclosed 0,
      fun htidy => htidy.free hclosed, fun _ => rfl⟩⟩

theorem ScansLine.depth_eq (h : ScansLine row line state lexemes final) (hrow : IsRow line)
    (hopened : Opened row state) : final.depth = state.depth + depth lexemes := by
  obtain ⟨front, others, rfl, hfront, ⟨rfl, hsame, -⟩ | ⟨n, other, hrest, henters⟩⟩ :=
    h.split hrow hopened
  · rw [List.append_nil, depth_of_plain fun l hl => (hfront l hl).1, hsame, Int.add_zero]
  · rw [hrest.depth_eq, henters.depth, depth_append, depth_of_plain fun l hl => (hfront l hl).1,
      Int.zero_add]

theorem ScansLines.depth_eq {rows : List Text} (h : ScansLines row rows state lexemes final)
    (hopened : Opened row state) : final.depth = state.depth + depth lexemes := by
  induction h with
  | nil => simp
  | cons hrow hline _ ih =>
    rw [ih (hline.opened hopened), hline.depth_eq hrow hopened, depth_append, Int.add_assoc]

theorem ScansRest.tidy (h : ScansRest row column rest state lexemes final)
    (hclosed : state.openString = none) (hfree : state.mustContinue = false)
    (hstraight : state.continued = false) : Tidy final := by
  induction h with
  | nothing => exact ⟨fun _ => hfree, fun _ => hstraight⟩
  | joined => exact ⟨fun _ => hfree, fun hopen => absurd hclosed hopen⟩
  | opens => exact ⟨by simp, fun _ => hstraight⟩
  | newline => exact ⟨fun _ => hfree, fun _ => hstraight⟩
  | lexeme _ _ _ _ _ _ _ ih => exact ih hclosed hfree hstraight

theorem ScansLine.tidy (h : ScansLine row line state lexemes final) (hrow : IsRow line)
    (hopened : Opened row state) (htidy : Tidy state) (hwhole : ∀ l ∈ lexemes, l.isBroken = false) :
    Tidy final := by
  obtain ⟨front, others, rfl, -, ⟨rfl, -, hfinal⟩ | ⟨n, other, hrest, henters⟩⟩ :=
    h.split hrow hopened
  · exact hfinal htidy fun l hl => hwhole l (List.mem_append_left _ hl)
  · exact hrest.tidy henters.closed (henters.free htidy) (henters.straight htidy)

-- No string has been broken off as long as none is broken off in a row.
theorem ScansLines.tidy {rows : List Text} (h : ScansLines row rows state lexemes final)
    (hopened : Opened row state) (htidy : Tidy state) (hwhole : ∀ l ∈ lexemes, l.isBroken = false) :
    Tidy final := by
  induction h with
  | nil => exact htidy
  | cons hrow hline _ ih =>
    rw [List.forall_mem_append] at hwhole
    exact ih (hline.opened hopened) (hline.tidy hrow hopened htidy hwhole.1) hwhole.2

-- Within a row nothing stands behind a lexeme that a line may begin behind.
theorem ScansRest.within_row (h : ScansRest row column rest state (before ++ l :: behind) final) :
    l.start.line = row ∧ column ≤ l.start.column ∧
      ∀ p ∈ before.getLast?, precedesLine p.kind = false := by
  generalize hall : before ++ l :: behind = all at h
  induction h generalizing before with
  | nothing => simp at hall
  | joined => simp at hall
  | opens => simp at hall
  | newline _ _ _ hmade =>
    obtain ⟨rfl, rfl, -⟩ := append_cons_eq_singleton hall
    rw [hmade]
    exact ⟨rfl, Nat.le_add_right _ _, by simp⟩
  | lexeme _ _ _ hknown _ hmade _ ih =>
    cases before with
    | nil =>
      obtain ⟨rfl, -⟩ := List.cons.inj hall
      rw [hmade]
      exact ⟨rfl, Nat.le_add_right _ _, by simp⟩
    | cons first before =>
      obtain ⟨rfl, hothers⟩ := List.cons.inj hall
      obtain ⟨hline, hcolumn, hlast⟩ := ih hothers
      refine ⟨hline, by omega, fun p hp => ?_⟩
      cases before with
      | cons second before => exact hlast p (by simpa using hp)
      | nil =>
        obtain rfl : first = p := by simpa using hp
        rw [hmade]
        exact precedesLine_of_known hknown

-- The first word of a line is the first one of a row, where nothing of a string is left.
theorem ScansLine.of_first_name (h : ScansLine row line state (before ++ l :: behind) final)
    (hrow : IsRow line) (hopened : Opened row state) (hl : l.kind = .name)
    (hfirst : ∀ p ∈ before.getLast?, precedesLine p.kind = true) :
    l.start.line = row ∧ depth before = 0 ∧
      ∀ s ∈ state.openString, s.quote ∈ line.take l.start.column := by
  obtain ⟨front, others, heq, hfront, hrest⟩ := h.split hrow hopened
  obtain ⟨before', rfl, rfl⟩ : ∃ before', before = front ++ before' ∧
      others = before' ++ l :: behind := by
    rcases append_eq_append_cons heq.symm with hbehind | ⟨more, rfl, -⟩
    · exact hbehind
    · exact absurd hl (hfront l (by simp)).2
  rcases hrest with ⟨hnil, -⟩ | ⟨n, other, hrest, henters⟩
  · simp at hnil
  · obtain ⟨hline, hcolumn, hlast⟩ := hrest.within_row
    obtain rfl : before' = [] := by
      rcases List.eq_nil_or_concat before' with rfl | ⟨more, p, rfl⟩
      · rfl
      · rw [List.concat_eq_append] at hlast hfirst
        have hkind := hlast p List.getLast?_concat
        rw [hfirst p (by rw [← List.append_assoc, List.getLast?_concat]; rfl)] at hkind
        cases hkind
    refine ⟨hline, ?_, fun s hs => ?_⟩
    · rw [List.append_nil]
      exact depth_of_plain fun l hl => (hfront l hl).1
    · exact List.take_subset_take_left line hcolumn (henters.quote s hs)

-- The scan from behind an operator to the end of its row.
theorem ScansRest.of_operator (h : ScansRest row column rest state (before ++ l :: behind) final)
    (hl : l.kind = .operator) :
    ∃ n, l.start.line = row ∧ l.stop = ⟨row, column + n⟩ ∧ Within n rest ∧
      ScansRest row (column + n) (rest.drop n)
        { state with depth := state.depth + depth (before ++ [l]) } behind final := by
  generalize hall : before ++ l :: behind = all at h
  induction h generalizing before with
  | nothing => simp at hall
  | joined => simp at hall
  | opens => simp at hall
  | newline _ _ _ hmade =>
    obtain ⟨rfl, rfl, -⟩ := append_cons_eq_singleton hall
    rw [hmade] at hl
    exact absurd hl settleKind_newline
  | @lexeme column gaps text after kind state final first lexemes _ _ _ _ hinside hmade hothers ih =>
    have hwithin : Within (gaps ++ text).length (gaps ++ (text ++ after)) := by
      rwa [Within, ← List.append_assoc, List.take_left]
    have hdrop : (gaps ++ (text ++ after)).drop (gaps ++ text).length = after := by
      rw [← List.append_assoc, List.drop_left]
    have hstop : first.stop = ⟨row, column + (gaps ++ text).length⟩ := by
      rw [hmade, List.length_append, Nat.add_assoc]
    have hlength : column + gaps.length + text.length = column + (gaps ++ text).length := by
      rw [List.length_append, Nat.add_assoc]
    rw [hlength] at hothers ih
    cases before with
    | nil =>
      obtain ⟨rfl, rfl⟩ := List.cons.inj hall
      refine ⟨_, by rw [hmade], hstop, hwithin, ?_⟩
      rw [hdrop]
      simpa using hothers
    | cons first' before =>
      obtain ⟨rfl, hbehind⟩ := List.cons.inj hall
      obtain ⟨n, hstart, hstop, hwithin', hrest⟩ := ih hbehind
      refine ⟨(gaps ++ text).length + n, hstart, by rw [hstop, Nat.add_assoc],
        hwithin.add (by rwa [hdrop]), ?_⟩
      rw [← List.drop_drop, hdrop]
      simpa [Nat.add_assoc, Int.add_assoc] using hrest

-- The same for a whole row.
theorem ScansLine.of_operator (h : ScansLine row line state (before ++ l :: behind) final)
    (hrow : IsRow line) (hopened : Opened row state) (hl : l.kind = .operator) :
    ∃ n other, l.start.line = row ∧ l.stop = ⟨row, n⟩ ∧ Within n line ∧ other.openString = none ∧
      other.depth = state.depth + depth (before ++ [l]) ∧
      (Tidy state → other.mustContinue = false ∧ other.continued = false) ∧
      ScansRest row n (line.drop n) other behind final := by
  obtain ⟨front, others, heq, hfront, hrest⟩ := h.split hrow hopened
  obtain ⟨before', rfl, rfl⟩ : ∃ before', before = front ++ before' ∧
      others = before' ++ l :: behind := by
    rcases append_eq_append_cons heq.symm with hbehind | ⟨more, rfl, -⟩
    · exact hbehind
    · exact absurd hl (hfront l (by simp)).1
  rcases hrest with ⟨hnil, -⟩ | ⟨m, other, hrest, henters⟩
  · simp at hnil
  · obtain ⟨n, hstart, hstop, hwithin', hbehind⟩ := hrest.of_operator hl
    rw [List.drop_drop] at hbehind
    refine ⟨m + n, { other with depth := other.depth + depth (before' ++ [l]) }, hstart,
      hstop, henters.within.add hwithin', henters.closed, ?_, ?_, hbehind⟩
    · simp only [henters.depth, depth_append, depth_of_plain fun l hl => (hfront l hl).1,
        Int.zero_add]
    · exact fun htidy => ⟨henters.free htidy, henters.straight htidy⟩

end

section

variable {row : Nat} {rows others : List Text} {state middle final : ScanState} {l : Lexeme}
  {lexemes before behind : List Lexeme}

theorem ScansLines.append (h : ScansLines row rows state before middle)
    (hothers : ScansLines (row + rows.length) others middle behind final) :
    ScansLines row (rows ++ others) state (before ++ behind) final := by
  induction h with
  | nil => exact hothers
  | cons hrow hline _ ih =>
    rw [List.append_assoc]
    refine .cons hrow hline (ih ?_)
    rwa [Nat.add_right_comm, Nat.add_assoc]

theorem ScansLines.of_append (h : ScansLines row (rows ++ others) state lexemes final) :
    ∃ before middle behind, lexemes = before ++ behind ∧ ScansLines row rows state before middle ∧
      ScansLines (row + rows.length) others middle behind final := by
  induction rows generalizing row state lexemes with
  | nil => exact ⟨[], state, lexemes, rfl, .nil, h⟩
  | cons line rows ih =>
    cases h with
    | @cons _ _ _ _ _ _ here _ hrow hline hrest =>
      obtain ⟨before, middle, behind, rfl, hrows, hothers⟩ := ih hrest
      refine ⟨here ++ before, middle, behind, (List.append_assoc _ _ _).symm,
        .cons hrow hline hrows, ?_⟩
      rwa [Nat.add_right_comm, Nat.add_assoc] at hothers

-- What is scanned of the first rows is what is scanned of them alone.
theorem ScansLines.of_rows (h : ScansLines row (rows ++ others) state lexemes final)
    (hrows : ScansLines row rows state before middle) :
    ∃ behind, lexemes = before ++ behind ∧
      ScansLines (row + rows.length) others middle behind final := by
  obtain ⟨before', middle', behind, rfl, hrows', hothers⟩ := h.of_append
  obtain ⟨rfl, rfl⟩ := Prod.mk.inj (Except.ok.inj (hrows'.eq.symm.trans hrows.eq))
  exact ⟨behind, rfl, hothers⟩

theorem ScansLines.opened (h : ScansLines row rows state lexemes final)
    (hopened : Opened row state) : Opened (row + rows.length) final := by
  induction h with
  | nil => exact hopened
  | cons _ hline _ ih =>
    have hfinal := ih (hline.opened hopened)
    rwa [Nat.add_right_comm, Nat.add_assoc] at hfinal

-- The row that a lexeme is taken from, the rows before it and those behind it.
theorem ScansLines.exists_row (h : ScansLines row rows state (before ++ l :: behind) final) :
    ∃ above line below done here more there middle next, rows = above ++ line :: below ∧
      before = done ++ here ∧ behind = more ++ there ∧ ScansLines row above state done middle ∧
      IsRow line ∧ ScansLine (row + above.length) line middle (here ++ l :: more) next ∧
      ScansLines (row + above.length + 1) below next there final := by
  generalize hall : before ++ l :: behind = all at h
  induction h generalizing before with
  | nil => simp at hall
  | @cons row line rows state next final first rest hrow hline hothers ih =>
    rcases append_eq_append_cons hall.symm with ⟨before', rfl, rfl⟩ | ⟨more, rfl, rfl⟩
    · obtain ⟨above, line', below, done, here, more, there, middle, next', rfl, rfl, rfl, habove,
        hrow', hhere, hbelow⟩ := ih rfl
      have hcount : row + (line :: above).length = row + 1 + above.length := by
        rw [List.length_cons]
        omega
      exact ⟨line :: above, line', below, first ++ done, here, more, there, middle, next', rfl,
        (List.append_assoc _ _ _).symm, rfl, .cons hrow hline habove, hrow', hcount ▸ hhere,
        hcount ▸ hbelow⟩
    · exact ⟨[], line, rows, [], before, more, rest, state, next, rfl, rfl, rfl, .nil, hrow, hline,
        hothers⟩

-- Only layout is not scanned in the rows of a text.
theorem exists_scansLines {t : Text} (h : scan t = .ok (before ++ l :: behind))
    (hl : l.isLayout = false) :
    ∃ more layout final, behind = more ++ layout ∧
      ScansLines 1 (lines t) ScanState.start (before ++ l :: more) final ∧
      final.openString = none ∧ final.continued = false := by
  obtain ⟨scanned, final, n, last, hscans, hclosed, -, hcontinued, hsplit⟩ := scansLines_of_scan h
  rcases append_eq_append_cons hsplit.symm with ⟨more, -, hlayout⟩ | ⟨more, rfl, rfl⟩
  · have hmem : l ∈ closing n last final.margins := by simp [hlayout]
    cases hl.symm.trans (isLayout_of_mem_closing hmem)
  · exact ⟨more, _, final, rfl, hscans, hclosed, hcontinued⟩

end

end Ghostwriter.Lexeme

import Ghostwriter.Proofs.Directive.Written
import Ghostwriter.Proofs.Grammar.Lexed
import Ghostwriter.Proofs.Grammar.Scanned
import Ghostwriter.Proofs.Lexeme.Cropped
import Ghostwriter.Proofs.Lexeme.Passage

/-!
Two scans of the same rows within brackets, one of them of a text that goes on before these rows.
They take the same lexemes, but for one thing: behind a string that is continued with a backslash
the scanner asks every later string over several rows for one, until such a string is closed. Only
the scan of the whole text has read what stands before.
-/

namespace Ghostwriter.Lexeme

open Ghostwriter.Directive Ghostwriter.Splice Ghostwriter.Text

-- The same lexemes, wherever they stand.
def Alike (lexemes others : List Lexeme) : Prop := lexemes.map word = others.map word

-- A lexeme that begins in one row and ends in another.
def spansRows (l : Lexeme) : Bool := l.start.line ≠ l.stop.line

-- Whether a text begins as a string in three quotes does.
def isTripled (t : Text) : Bool := (opening? t).any Opening.tripled

-- The first lexeme over several rows, if there is one, is a string in three quotes that is broken
-- off at the end of a row.
def derails (lexemes : List Lexeme) : Bool :=
  (lexemes.find? spansRows).any fun l => l.kind = .stray && isTripled l.text

-- A string that is open, wherever it begins.
def OpenString.shape (s : OpenString) : Text × Char × Bool := (s.text, s.quote, s.tripled)

-- What is left of the two scans at the same place, with `outer` brackets around what the second one
-- has read. The second one has not read what stands before, and as long as it is `early`, no lexeme
-- over several rows has ended: then it asks for backslashes only in a string with plain quotes.
structure Echoes (outer : Int) (early : Bool) (state other : ScanState) : Prop where
  depth : state.depth = outer + other.depth
  held : state.openString.map OpenString.shape = other.openString.map OpenString.shape
  must : other.mustContinue = (state.mustContinue && (!early || state.openString.any (!·.tripled)))
  marked : ∀ s ∈ state.openString, ∀ u, isTripled (s.text ++ u) = s.tripled
  continued : other.openString ≠ none → other.continued = false
  fixed : other.margins = [0] ∧ other.ended = false

-- A string in three quotes is open, and no row of it needs a backslash.
def Runaway (state : ScanState) : Prop :=
  state.mustContinue = false ∧ ∃ s ∈ state.openString, s.tripled = true

section

variable {l other : Lexeme} {lexemes others behind behind' : List Lexeme}

theorem depthChange_of_word (h : word l = word other) :
    l.depthChange = other.depthChange := by
  obtain ⟨hkind, htext⟩ := Prod.mk.inj h
  simp [Lexeme.depthChange, Lexeme.opens, Lexeme.closes, Lexeme.isOperator, hkind, htext]

theorem alike_nil : Alike [] [] := rfl

theorem Alike.cons (hl : word l = word other) (h : Alike lexemes others) :
    Alike (l :: lexemes) (other :: others) := by
  rw [Alike, List.map_cons, List.map_cons, hl, h]

theorem Alike.append (h : Alike lexemes others) (hbehind : Alike behind behind') :
    Alike (lexemes ++ behind) (others ++ behind') := by
  rw [Alike, List.map_append, List.map_append, h, hbehind]

theorem Alike.exists_append (h : Alike (lexemes ++ behind) others) :
    ∃ front back, others = front ++ back ∧ Alike lexemes front ∧ Alike behind back := by
  rw [Alike, List.map_append] at h
  obtain ⟨front, back, rfl, hfront, hback⟩ := List.map_eq_append_iff.mp h.symm
  exact ⟨front, back, rfl, hfront.symm, hback.symm⟩

theorem Alike.exists_cons (h : Alike (l :: lexemes) others) :
    ∃ first more, others = first :: more ∧ word l = word first ∧ Alike lexemes more := by
  rw [Alike, List.map_cons] at h
  obtain ⟨first, more, rfl, hfirst, hmore⟩ := List.map_eq_cons_iff.mp h.symm
  exact ⟨first, more, rfl, hfirst.symm, hmore.symm⟩

theorem Alike.solid (h : Alike lexemes others) : Alike (solid lexemes) (solid others) := by
  induction lexemes generalizing others with
  | nil =>
    obtain rfl : others = [] := List.map_eq_nil_iff.mp h.symm
    exact alike_nil
  | cons l lexemes ih =>
    obtain ⟨first, more, rfl, hl, hmore⟩ := h.exists_cons
    have hsame : l.isLayout = first.isLayout := by
      rw [Lexeme.isLayout, Lexeme.isLayout, (Prod.mk.inj hl).1]
    cases hlayout : l.isLayout with
    | true =>
      rw [solid_cons_layout hlayout, solid_cons_layout (hsame ▸ hlayout)]
      exact ih hmore
    | false =>
      rw [solid_cons hlayout, solid_cons (hsame ▸ hlayout)]
      exact (ih hmore).cons hl

theorem derails_append : derails (lexemes ++ behind) =
    if lexemes.any spansRows then derails lexemes else derails behind := by
  unfold derails
  rw [List.find?_append]
  cases hfind : lexemes.find? spansRows with
  | none =>
    have hnone : ¬ lexemes.any spansRows = true := by simpa using hfind
    rw [if_neg hnone, Option.none_or]
  | some l =>
    have hsome : lexemes.any spansRows = true :=
      List.any_eq_true.mpr ⟨l, List.mem_of_find?_eq_some hfind, List.find?_some hfind⟩
    rw [if_pos hsome, Option.some_or]

theorem derails_of_flat (h : lexemes.any spansRows = false) : derails lexemes = false := by
  have hnone : lexemes.find? spansRows = none := by simpa using h
  rw [derails, hnone]
  rfl

end

section

variable {row row' column column' : Nat} {rest line : Text} {outer : Int} {early : Bool}
  {state other final : ScanState} {lexemes : List Lexeme} {quote : Char} {tripled : Bool} {t : Text}

theorem Opens.isTripled (h : Opens quote tripled t) (u : Text) :
    isTripled (t ++ u) = tripled := by
  obtain ⟨hquote, letters, body, rfl, hletters, -, hplain⟩ := h
  rw [Lexeme.isTripled, List.append_assoc,
    Grammar.opening?_openingText hletters hquote fun htripled => hplain htripled u]
  rfl

-- The lexemes that begin on the rest of a row end in it.
theorem ScansRest.flat (h : ScansRest row column rest state lexemes final) :
    lexemes.any spansRows = false := by
  have hfrom := (Grammar.fromRow_scansRest h).1 ScanState.start
  rw [List.any_eq_false]
  intro l hl
  have hstart : l.start.line = row := (hfrom.start l hl).resolve_right fun ⟨o, ho, _⟩ => by cases ho
  simp [spansRows, hstart, hfrom.stop l hl]

theorem Echoes.closed (h : Echoes outer early state other) (hclosed : state.openString = none) :
    other.openString = none := by
  have hheld := h.held
  rw [hclosed] at hheld
  exact Option.map_eq_none_iff.mp hheld.symm

theorem settleKind_inside {depth depth' : Int} (h : 0 < depth) (h' : 0 < depth')
    (kind : LexemeKind) : settleKind depth kind = settleKind depth' kind := by
  cases kind <;> simp [settleKind, h, h']

-- The rest of a row within brackets, wherever it stands.
theorem ScansRest.echo (h : ScansRest row column rest state lexemes final) (houter : 0 ≤ outer)
    (hbreak : rest = [] ∨ '\n' ∈ rest) (hechoes : Echoes outer early state other)
    (hclosed : state.openString = none) (hcontinued : other.continued = false)
    (hnested : Nested (other.depth - 1) lexemes) :
    ∃ others final', ScansRest row' column' rest other others final' ∧ Alike lexemes others ∧
      Echoes outer early final final' := by
  induction h generalizing column' other with
  | nothing hpiece => exact ⟨[], other, .nothing hpiece, alike_nil, hechoes⟩
  | joined hpiece hgaps hwhole =>
    exact ⟨[], _, .joined hpiece hgaps hwhole, alike_nil, hechoes.depth, hechoes.held, hechoes.must,
      hechoes.marked, fun hopen => absurd (hechoes.closed hclosed) hopen, hechoes.fixed⟩
  | @opens _ gaps body state o hrow hpiece hgaps =>
    have hopens : Opens o.quote o.tripled body := by
      refine opens_of_piece hrow (hbreak.resolve_left fun hnil => ?_) hpiece
      rw [hnil] at hpiece
      cases hpiece
    refine ⟨[], _, .opens hrow hpiece hgaps, alike_nil, hechoes.depth, rfl, ?_, ?_,
      fun _ => hcontinued, hechoes.fixed⟩
    · have hmust := hechoes.must
      rw [hclosed] at hmust
      simp only [hmust, Option.any_some, Option.any_none]
      cases o.tripled <;> simp
    · rintro s ⟨⟩ u
      exact hopens.isTripled u
  | @newline _ gaps text state l hpiece hgaps hwhole hmade =>
    have hinside : 0 < other.depth := by
      have := hnested.nonneg
      omega
    have hdepth := hechoes.depth
    refine ⟨[_], other, .newline hpiece hgaps hwhole rfl, alike_nil.cons ?_, hechoes⟩
    rw [hmade, word, word, settleKind_inside (by omega) hinside]
  | @lexeme column gaps text behind kind state final l lexemes hrow hpiece hgaps hknown hinside hmade
      _ ih =>
    obtain ⟨l', hmade'⟩ : ∃ l : Lexeme, l = ⟨kind, text, ⟨row', column' + gaps.length⟩,
      ⟨row', column' + gaps.length + text.length⟩⟩ := ⟨_, rfl⟩
    have hsame : word l = word l' := by rw [hmade, hmade', word, word]
    have hnext : Echoes outer early { state with depth := state.depth + l.depthChange }
        { other with depth := other.depth + l'.depthChange } := by
      refine ⟨?_, hechoes.held, hechoes.must, hechoes.marked, hechoes.continued, hechoes.fixed⟩
      simp only [hechoes.depth, depthChange_of_word hsame, Int.add_assoc]
    have hbreak' : behind = [] ∨ '\n' ∈ behind := by
      refine hbreak.imp (fun hnil => ?_) fun hmem => ?_
      · simp only [List.append_eq_nil_iff] at hnil
        exact hnil.2.2
      · rw [← List.append_assoc, List.mem_append] at hmem
        exact hmem.resolve_left hinside
    have hnested' := nested_behind hnested
    rw [depthChange_of_word hsame] at hnested'
    obtain ⟨others, final', hothers, halike, hechoes'⟩ := @ih
      (column' + gaps.length + text.length) _ hbreak' hnext hclosed hcontinued hnested'
    exact ⟨l' :: others, final', .lexeme hrow hpiece hgaps hknown hinside hmade' hothers,
      halike.cons hsame, hechoes'⟩

-- The scans take the same lexemes off a row, or the second one keeps open what the first one breaks
-- off.
def Row (outer : Int) (early : Bool) (lexemes : List Lexeme) (final : ScanState)
    (scanned : List Lexeme × ScanState) : Prop :=
  (early && derails lexemes) = false ∧ Alike lexemes scanned.1 ∧
      Echoes outer (early && !lexemes.any spansRows) final scanned.2 ∨
    (early && derails lexemes) = true ∧ (∃ l, lexemes = [l] ∧ l.kind = .stray) ∧ scanned.1 = [] ∧
      Runaway scanned.2

theorem row_of_flat {scanned : List Lexeme × ScanState} (hflat : lexemes.any spansRows = false)
    (halike : Alike lexemes scanned.1) (hechoes : Echoes outer early final scanned.2) :
    Row outer early lexemes final scanned := by
  refine .inl ⟨by rw [derails_of_flat hflat, Bool.and_false], halike, ?_⟩
  rwa [hflat, Bool.not_false, Bool.and_true]

theorem Echoes.exists_open {s : OpenString} (h : Echoes outer early state other)
    (hs : state.openString = some s) :
    ∃ start, other.openString = some { s with start := start } := by
  have hheld := h.held
  rw [hs, Option.map_some, eq_comm, Option.map_eq_some_iff] at hheld
  obtain ⟨s', hs', hshape⟩ := hheld
  obtain ⟨htext, hrest⟩ := Prod.mk.inj hshape
  obtain ⟨hquote, htripled⟩ := Prod.mk.inj hrest
  exact ⟨s'.start, by rw [hs', ← htext, ← hquote, ← htripled]⟩

-- A further row of a string that is open.
theorem ScansString.echo {s : OpenString} {start : Position}
    (h : ScansString row s state line lexemes final) (houter : 0 ≤ outer) (hrow : IsRow line)
    (hbreak : '\n' ∈ line) (hechoes : Echoes outer early state other)
    (hs : state.openString = some s) (hstart : s.start.line < row)
    (hquote : isQuote s.quote = true) (hcontinued : other.continued = false)
    (hnested : Nested (other.depth - 1) lexemes) :
    ∃ others final', ScansString row' { s with start := start } other line others final' ∧
      Row outer early lexemes final (others, final') := by
  have hspans {kind : LexemeKind} {text : Text} {n : Nat} :
      spansRows ⟨kind, text, s.start, ⟨row, n⟩⟩ = true := by
    simp only [spansRows, decide_eq_true_eq]
    omega
  have hmarked := hechoes.marked s hs
  have hmust := hechoes.must
  rw [hs, Option.any_some] at hmust
  cases h with
  | @closed body rest others _ hclose hothers =>
    -- what is asked of a string over several rows is taken back in both scans
    have hinside := (ends_of_closeLength (isQuote_ne_break hquote) hrow hclose).2
    have hfree : Echoes outer false { state with openString := none, mustContinue := false }
        { other with openString := none, mustContinue := false } :=
      ⟨hechoes.depth, rfl, rfl, by simp, fun _ => hcontinued, hechoes.fixed⟩
    have htail := hnested.tail
    rw [depthChange_of_kind (by simp), Int.add_zero] at htail
    obtain ⟨others', final', hothers', halike, hechoes'⟩ := hothers.echo houter
      (.inr ((List.mem_append.mp hbreak).resolve_left hinside)) hfree rfl hcontinued htail
    refine ⟨_, final', .closed hclose hothers', .inl ⟨?_, halike.cons rfl, ?_⟩⟩
    · simp [derails, hspans]
    · simpa [hspans] using hechoes'
  | broken hclose hmustContinue hends =>
    have hlexeme : derails [⟨.stray, s.text ++ line, s.start, ⟨row, line.length⟩⟩] = s.tripled := by
      simp [derails, hspans, hmarked line]
    rw [hmustContinue, Bool.true_and] at hmust
    cases hderails : (early && s.tripled) with
    | false =>
      have hother : other.mustContinue = true := by
        rw [hmust]
        cases early <;> simp_all
      refine ⟨_, _, .broken hclose hother hends, .inl ⟨by rw [hlexeme, hderails], rfl, ?_⟩⟩
      simp only [List.any_cons, hspans, Bool.true_or, Bool.not_true, Bool.and_false]
      refine ⟨hechoes.depth, rfl, ?_, by simp, fun _ => hcontinued, hechoes.fixed⟩
      simp only [hother, hmustContinue, Bool.not_false, Bool.true_or, Bool.and_true]
    | true =>
      obtain ⟨hearly, htripled⟩ := Bool.and_eq_true_iff.mp hderails
      have hother : other.mustContinue = false := by rw [hmust, hearly, htripled]; rfl
      exact ⟨[], _, .goesOn hclose (by simp [hother]), .inr ⟨by rw [hlexeme, hderails],
        ⟨_, rfl, rfl⟩, rfl, hother, _, rfl, htripled⟩⟩
  | goesOn hclose hgoes =>
    have hother : other.mustContinue = true → endsContinued line = true := by
      rw [hmust, Bool.and_eq_true]
      exact fun h => hgoes h.1
    refine ⟨[], _, .goesOn hclose hother, row_of_flat rfl alike_nil
      ⟨hechoes.depth, rfl, hmust, ?_, fun _ => hcontinued, hechoes.fixed⟩⟩
    rintro s' ⟨⟩ u
    rw [List.append_assoc]
    exact hmarked _

theorem ScansLine.echo (h : ScansLine row line state lexemes final) (houter : 0 ≤ outer)
    (hrow : IsRow line) (hbreak : '\n' ∈ line) (hechoes : Echoes outer early state other)
    (hopened : Opened row state) (hnested : Nested (other.depth - 1) lexemes) :
    ∃ others final', ScansLine row' line other others final' ∧
      Row outer early lexemes final (others, final') := by
  have hinside : other.depth ≠ 0 ∧ state.depth ≠ 0 := by
    have := hnested.nonneg
    have := hechoes.depth
    omega
  cases h with
  | @string s _ _ hs hstring =>
    obtain ⟨start, hs'⟩ := hechoes.exists_open hs
    obtain ⟨hstart, hquote⟩ := hopened s hs
    obtain ⟨others, final', hstring', hrow'⟩ := hstring.echo houter hrow hbreak hechoes hs hstart
      hquote (hechoes.continued (by simp [hs'])) hnested
    exact ⟨others, final', .string hs' hstring', hrow'⟩
  | first _ hdepth => exact absurd hdepth hinside.2
  | rest hclosed _ hrest =>
    have hnext : Echoes outer early { state with continued := false }
        { other with continued := false } :=
      ⟨hechoes.depth, hechoes.held, hechoes.must, hechoes.marked, fun _ => rfl, hechoes.fixed⟩
    obtain ⟨others, final', hrest', halike, hechoes'⟩ :=
      hrest.echo houter (.inr hbreak) hnext hclosed rfl hnested
    exact ⟨others, final', .rest (hechoes.closed hclosed) (fun hzero => absurd hzero hinside.1)
      hrest', row_of_flat hrest.flat halike hechoes'⟩

-- Some way into the rows the first scan breaks off a string that the second one keeps open.
def Parts (row : Nat) (rows : List Text) (state : ScanState) (lexemes : List Lexeme) : Prop :=
  ∃ above below common broken more others final, rows = above ++ below ∧
    lexemes = common ++ broken :: more ∧ broken.kind = .stray ∧
    scanLines row above state = .ok (others, final) ∧ Alike common others ∧ Runaway final

-- The two scans agree on whole rows within brackets unless the first lexeme over several rows is a
-- broken string in three quotes.
theorem ScansLines.echo {rows : List Text} (h : ScansLines row rows state lexemes final)
    (houter : 0 ≤ outer) (hbreaks : ∀ line ∈ rows, '\n' ∈ line)
    (hechoes : Echoes outer early state other) (hopened : Opened row state)
    (hnested : Nested (other.depth - 1) lexemes) :
    (early && derails lexemes) = false ∧
        (∃ others final', ScansLines row' rows other others final' ∧ Alike lexemes others ∧
          Echoes outer (early && !lexemes.any spansRows) final final') ∨
      (early && derails lexemes) = true ∧ Parts row' rows other lexemes := by
  induction h generalizing row' other early with
  | nil =>
    refine .inl ⟨by simp [derails], [], other, .nil, alike_nil, ?_⟩
    simpa using hechoes
  | @cons row line rows state next final here rest hrow hline hrest ih =>
    rw [List.forall_mem_cons] at hbreaks
    obtain ⟨others, next', hline', hbehaves⟩ :=
      hline.echo houter hrow hbreaks.1 hechoes hopened hnested.front
    rcases hbehaves with ⟨hflat, halike, hechoes'⟩ | ⟨hderails, ⟨l, rfl, hstray⟩, hnone, hrunaway⟩
    · have hdepth : other.depth - 1 + depth here = next'.depth - 1 := by
        have hline := hline.depth_eq hrow hopened
        have hbefore := hechoes.depth
        have hafter : next.depth = outer + next'.depth := hechoes'.depth
        omega
      have hrest' := hnested.behind
      rw [hdepth] at hrest'
      have hsame : (early && derails (here ++ rest)) =
          (early && !here.any spansRows && derails rest) := by
        rw [derails_append]
        cases here.any spansRows <;> simp [hflat]
      rw [hsame]
      rcases ih hbreaks.2 hechoes' (hline.opened hopened) hrest' with
        ⟨hfar, others', final, hscan, halike', hfinal⟩ | ⟨hfar, hparts⟩
      · refine .inl ⟨hfar, others ++ others', final, .cons hrow hline' hscan, halike.append halike',
          ?_⟩
        rw [List.any_append, Bool.not_or, ← Bool.and_assoc]
        exact hfinal
      · obtain ⟨above, below, common, broken, more, others', final, rfl, rfl, hstray, hscan,
          halike', hrunaway⟩ := hparts
        refine .inr ⟨hfar, line :: above, below, here ++ common, broken, more, others ++ others',
          final, rfl, (List.append_assoc _ _ _).symm, hstray, ?_, halike.append halike', hrunaway⟩
        rw [scanLines, hline'.eq]
        simp only [hscan]
    · have hspans : [l].any spansRows = true := by
        by_contra hspans
        rw [derails_of_flat (by simpa using hspans), Bool.and_false] at hderails
        cases hderails
      rw [derails_append, if_pos hspans]
      refine .inr ⟨hderails, [line], rows, [], l, rest, [], next', rfl, rfl, hstray, ?_, alike_nil,
        hrunaway⟩
      obtain rfl : others = [] := hnone
      simp only [scanLines, hline'.eq, List.append_nil]

end

section

variable {row row' column : Nat} {rest line : Text} {outer : Int} {early : Bool}
  {state other final : ScanState} {within behind : List Lexeme} {closer : Lexeme}

theorem isOperator_iff {l : Lexeme} {t : Text} :
    l.isOperator t = true ↔ l.kind = .operator ∧ l.text = t := by
  simp [Lexeme.isOperator]

-- What is left of the scan behind the last bracket of a text that stands in parentheses.
structure Settles (final : ScanState) (depth : Int) : Prop where
  depth : final.depth = depth
  closed : final.openString = none
  continued : final.continued = false
  fixed : final.margins = [0] ∧ final.ended = false

-- The rest of a row up to a closing parenthesis, in front of which the row is cut off.
theorem ScansRest.crop (h : ScansRest row column rest state (within ++ closer :: behind) final)
    (hdepth : state.depth = outer + other.depth) (hclosed : other.openString = none)
    (hcontinued : other.continued = false)
    (hfixed : other.margins = [0] ∧ other.ended = false) (hparen : closer.isOperator [')'] = true)
    (hnested : Nested (other.depth - 1) within) :
    ∃ u v, rest = u ++ ')' :: v ∧ closer.start = ⟨row, column + u.length⟩ ∧
      ∀ row' column', ∃ others closer' final',
        ScansRest row' column' (u ++ [')']) other (others ++ [closer']) final' ∧
        Alike within others ∧ word closer = word closer' ∧
        Settles final' (other.depth + depth within - 1) := by
  obtain ⟨hkind, htext⟩ := isOperator_iff.mp hparen
  generalize hall : within ++ closer :: behind = all at h
  induction h generalizing other within with
  | nothing => simp at hall
  | joined => simp at hall
  | opens => simp at hall
  | newline _ _ _ hmade =>
    obtain ⟨-, rfl, -⟩ := append_cons_eq_singleton hall
    rw [hmade] at hkind
    exact absurd hkind settleKind_newline
  | @lexeme column gaps text after kind state final l lexemes hrow hpiece hgaps hknown hinside hmade
      _ ih =>
    have hfeed : '\n' ∉ gaps := fun hmem => by cases hgaps _ hmem
    cases within with
    | nil =>
      obtain ⟨rfl, rfl⟩ := List.cons.inj hall
      obtain rfl : text = [')'] := by rwa [hmade] at htext
      refine ⟨gaps, after, rfl, by rw [hmade], fun row' column' => ?_⟩
      obtain ⟨l', hmade'⟩ : ∃ l : Lexeme, l = ⟨.operator, [')'], ⟨row', column' + gaps.length⟩,
        ⟨row', column' + gaps.length + 1⟩⟩ := ⟨_, rfl⟩
      have hsame : word closer = word l' := by rw [word, hkind, htext, hmade', word]
      have hchange : l'.depthChange = -1 := by
        rw [← depthChange_of_word hsame]
        exact depthChange_of_closes (by simp [Lexeme.closes, hparen])
      have hplain : '\n' ∉ gaps ++ [')'] := by simpa using hfeed
      have hscan : ScansRest row' column' (gaps ++ ([')'] ++ [])) other [l']
          { other with depth := other.depth + l'.depthChange } :=
        .lexeme (fun hmem => hplain (List.mem_of_mem_dropLast hmem))
          (piece_paren (.inr rfl) hgaps []) hgaps (.inl (by simp [IsContent])) hplain hmade'
          (.nothing rfl)
      refine ⟨[], l', _, hscan, alike_nil, hsame, ?_, hclosed, hcontinued, hfixed⟩
      simp only [hchange, depth_nil]
      omega
    | cons first within =>
      obtain ⟨rfl, hothers⟩ := List.cons.inj hall
      have hnested' := nested_behind hnested
      obtain ⟨u, v, rfl, hstart, hcrop⟩ := @ih
        { other with depth := other.depth + first.depthChange } within
        (by simp only [hdepth, Int.add_assoc]) hclosed hcontinued hfixed hnested' hothers
      refine ⟨gaps ++ (text ++ u), v, by simp, by rw [hstart]; simp [Nat.add_assoc], ?_⟩
      intro row' column'
      obtain ⟨l', hmade'⟩ : ∃ l : Lexeme, l = ⟨kind, text, ⟨row', column' + gaps.length⟩,
        ⟨row', column' + gaps.length + text.length⟩⟩ := ⟨_, rfl⟩
      have hsame : word first = word l' := by rw [hmade, hmade', word, word]
      obtain ⟨others, closer', final', hscan, halike, hcloser, hsettles⟩ :=
        hcrop row' (column' + gaps.length + text.length)
      have hwhole : gaps ++ (text ++ (u ++ ')' :: v)) = gaps ++ (text ++ u) ++ ')' :: v := by simp
      have hcut : gaps ++ (text ++ u) ++ [')'] = gaps ++ (text ++ (u ++ [')'])) := by simp
      rw [hwhole] at hrow hpiece
      have hpiece' := piece_cropped hrow hpiece (by simp only [List.length_append]; omega)
      have hrow' : IsRow (gaps ++ (text ++ u) ++ [')']) := by
        rw [IsRow, List.dropLast_concat]
        exact not_mem_of_isRow hrow
      rw [hcut] at hpiece' hrow' ⊢
      rw [depthChange_of_word hsame] at hscan
      have hknown' : IsContent kind ∨ kind = .comment ∧ BreaksFirst (u ++ [')']) := by
        refine hknown.imp_right (And.imp_right fun hbreaks => ?_)
        cases u with
        | nil => exact absurd (hbreaks ')' rfl) (by decide)
        | cons c u => exact hbreaks
      refine ⟨l' :: others, closer', final', .lexeme hrow' hpiece' hgaps hknown' hinside hmade' hscan,
        halike.cons hsame, hcloser, ?_⟩
      rwa [depth_cons, ← Int.add_assoc]

theorem closeLength_cropped {s : OpenString} {u v : Text} {n : Nat} (hquote : isQuote s.quote = true)
    (hrow : IsRow (u ++ v)) (h : s.closeLength? (u ++ v) = some n) (hle : n ≤ u.length) (w : Text) :
    s.closeLength? (u ++ w) = some n :=
  closed_cropped hquote hrow h hle w

-- The same for the last row of a string that is open.
theorem ScansString.crop {s : OpenString} {start : Position}
    (h : ScansString row s state line (within ++ closer :: behind) final) (hrow : IsRow line)
    (hdepth : state.depth = outer + other.depth) (hstart : s.start.line < row)
    (hquote : isQuote s.quote = true) (hcontinued : other.continued = false)
    (hfixed : other.margins = [0] ∧ other.ended = false) (hparen : closer.isOperator [')'] = true)
    (hnested : Nested (other.depth - 1) within) :
    derails within = false ∧ ∃ u v, line = u ++ ')' :: v ∧ closer.start = ⟨row, u.length⟩ ∧
      ∀ row', ∃ others closer' final',
        ScansString row' { s with start := start } other (u ++ [')']) (others ++ [closer']) final' ∧
        Alike within others ∧ word closer = word closer' ∧
        Settles final' (other.depth + depth within - 1) := by
  have hkind := (isOperator_iff.mp hparen).1
  generalize hall : within ++ closer :: behind = all at h
  cases h with
  | goesOn => simp at hall
  | broken =>
    obtain ⟨-, rfl, -⟩ := append_cons_eq_singleton hall
    cases hkind
  | @closed body rest others _ hclose hothers =>
    cases within with
    | nil =>
      rw [(List.cons.inj hall).1] at hkind
      cases hkind
    | cons string within =>
      obtain ⟨rfl, rfl⟩ := List.cons.inj hall
      have htail := hnested.tail
      rw [depthChange_of_kind (by simp), Int.add_zero] at htail
      obtain ⟨u, v, rfl, hplace, hcrop⟩ := @ScansRest.crop _ _ _ outer _
        { other with openString := none, mustContinue := false } _ _ _ _ hothers hdepth rfl
        hcontinued hfixed hparen htail
      have hspans : spansRows ⟨.string, s.text ++ body, s.start, ⟨row, body.length⟩⟩ = true := by
        simp only [spansRows, decide_eq_true_eq]
        omega
      refine ⟨by simp [derails, hspans], body ++ u, v, by simp, by rw [hplace, List.length_append],
        fun row' => ?_⟩
      obtain ⟨others, closer', final', hscan, halike, hcloser, hsettles⟩ := hcrop row' body.length
      have hclose' := closeLength_cropped hquote (u := body) hrow hclose le_rfl (u ++ [')'])
      rw [List.append_assoc]
      refine ⟨⟨.string, s.text ++ body, start, ⟨row', body.length⟩⟩ :: others, closer', final',
        .closed hclose' hscan, halike.cons rfl, hcloser, ?_⟩
      rwa [depth_cons, depthChange_of_kind (by simp), Int.zero_add]

-- The same for a whole row.
theorem ScansLine.crop (h : ScansLine row line state (within ++ closer :: behind) final)
    (houter : 0 ≤ outer) (hrow : IsRow line) (hechoes : Echoes outer early state other)
    (hopened : Opened row state) (hparen : closer.isOperator [')'] = true)
    (hnested : Nested (other.depth - 1) within) :
    derails within = false ∧ ∃ u v, line = u ++ ')' :: v ∧ closer.start = ⟨row, u.length⟩ ∧
      ∀ row', ∃ others closer' final',
        ScansLine row' (u ++ [')']) other (others ++ [closer']) final' ∧ Alike within others ∧
        word closer = word closer' ∧ Settles final' (other.depth + depth within - 1) := by
  have hinside : other.depth ≠ 0 ∧ state.depth ≠ 0 := by
    have := hnested.nonneg
    have := hechoes.depth
    omega
  cases h with
  | @string s _ _ hs hstring =>
    obtain ⟨start, hs'⟩ := hechoes.exists_open hs
    obtain ⟨hstart, hquote⟩ := hopened s hs
    obtain ⟨hderails, u, v, hline, hplace, hcrop⟩ := hstring.crop hrow hechoes.depth hstart
      hquote (hechoes.continued (by simp [hs'])) hechoes.fixed hparen hnested
    refine ⟨hderails, u, v, hline, hplace, fun row' => ?_⟩
    obtain ⟨others, closer', final', hscan, hsame⟩ := hcrop row'
    exact ⟨others, closer', final', .string hs' hscan, hsame⟩
  | first _ hdepth => exact absurd hdepth hinside.2
  | rest hclosed _ hrest =>
    have hflat := hrest.flat
    rw [List.any_append, Bool.or_eq_false_iff] at hflat
    have hclosed' := hechoes.closed hclosed
    obtain ⟨u, v, hline, hplace, hcrop⟩ := @ScansRest.crop _ _ _ outer _
      { other with continued := false } _ _ _ _ hrest hechoes.depth hclosed' rfl
      hechoes.fixed hparen hnested
    refine ⟨derails_of_flat hflat.1, u, v, hline, by simpa using hplace, fun row' => ?_⟩
    obtain ⟨others, closer', final', hscan, hsame⟩ := hcrop row' 0
    exact ⟨others, closer', final',
      .rest hclosed' (fun hzero => absurd hzero hinside.1) hscan, hsame⟩

end

-- What a string in three quotes that is open swallows, and the lexeme that it ends as.
theorem ScansLines.runaway {row : Nat} {rows : List Text} {state final : ScanState}
    {lexemes : List Lexeme} (h : ScansLines row rows state lexemes final)
    (hrunaway : Runaway state) :
    lexemes = [] ∧ Runaway final ∨ ∃ l more, lexemes = l :: more ∧ l.kind = .string := by
  induction h with
  | nil => exact .inl ⟨rfl, hrunaway⟩
  | cons _ hline _ ih =>
    obtain ⟨hfree, s, hs, htripled⟩ := hrunaway
    cases hline with
    | string hs' hstring =>
      obtain rfl := Option.some.inj (hs'.symm.trans hs)
      cases hstring with
      | closed => exact .inr ⟨_, _, rfl, rfl⟩
      | broken _ hmust => cases hfree.symm.trans hmust
      | goesOn => exact ih ⟨hfree, _, rfl, htripled⟩
    | first hclosed => cases hclosed.symm.trans hs
    | rest hclosed => cases hclosed.symm.trans hs

end Ghostwriter.Lexeme

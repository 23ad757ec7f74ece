import Ghostwriter.Proofs.Directive.Cut
import Ghostwriter.Proofs.Directive.Payload
import Ghostwriter.Proofs.Grammar.Enclosed

/-!
The source of a value. An item is read from its lexemes with a blank between neighbours, and what it
stands for is its text as written. Where the payload is nothing but its lexemes, with what may stand
between these, the two are the same.
-/

namespace Ghostwriter.Directive

open Ghostwriter.Lexeme Ghostwriter.Splice Ghostwriter.Text

-- An item, and where its text begins and ends.
structure Placed where
  item : List Lexeme
  start : Position
  stop : Position
  deriving DecidableEq, Repr

-- Splits lexemes as `splitItems` does. The first item begins at `start`, the last one ends at
-- `stop`, and the others end at their semicolons and begin behind them.
def placeItems (stop start : Position) (depth : Int) : List Lexeme → List Placed
  | [] => [⟨[], start, stop⟩]
  | l :: rest =>
    let depth := depth + l.depthChange
    if depth = 0 && l.isOperator [';'] then
      ⟨[], start, l.start⟩ :: placeItems stop l.stop depth rest
    else
      match placeItems stop start depth rest with
      | [] => [⟨[l], start, stop⟩]
      | first :: others => { first with item := l :: first.item } :: others

-- The text of a literal: in parentheses it may run over several rows, and end in a comment.
def enclosed (t : Text) : Text := '(' :: t ++ ['\n', ')']

-- The value of what is written from one position of a payload to another, if the payload stands in
-- parentheses.
def valueAt (payload : Text) (start stop : Position) : Except LiteralError Value :=
  Value.ofText (enclosed (slice (lines ('(' :: payload ++ [')'])) start stop))

-- The items of a payload with their places, as far as its lexemes go.
def placed (payload : Text) : List Placed :=
  match scan ('(' :: payload ++ [')']) with
  | .error _ => []
  | .ok lexemes =>
    placeItems (positionOf ('(' :: payload)) (positionOf ['(']) 0
      ((lexemes.filter fun l => !l.isLayout).drop 1).dropLast

-- Each option has the value of what stands between its equals sign and the end of its item, and the
-- prompt that of its item.
structure AsWritten (payload : Text) (read : Payload) : Prop where
  option : ∀ key v, read.options.value? key = some v →
    ∃ name equals value start stop, ⟨name :: equals :: value, start, stop⟩ ∈ placed payload ∧
      name.kind = .name ∧ name.text = key.text ∧ equals.isOperator ['='] = true ∧
      valueAt payload equals.stop stop = .ok v
  prompt : ∀ t, read.prompt = some t →
    ∃ item start stop, ⟨item, start, stop⟩ ∈ placed payload ∧ item ≠ [] ∧
      (∀ l ∈ item, l.kind = .string) ∧ valueAt payload start stop = .ok (.text t)

-- The items are those that the payload is read as.
theorem map_placeItems (stop start : Position) (depth : Int) (lexemes : List Lexeme) :
    (placeItems stop start depth lexemes).map Placed.item = splitItems depth lexemes := by
  induction lexemes generalizing start depth with
  | nil => rfl
  | cons l rest ih =>
    obtain ⟨first, others, hsplit⟩ :=
      List.exists_cons_of_ne_nil (splitItems_ne_nil (depth + l.depthChange) rest)
    simp only [placeItems, splitItems, hsplit]
    split_ifs with hcut
    · rw [List.map_cons, ih, hsplit]
    · have hrest := ih start (depth + l.depthChange)
      rw [hsplit, List.map_eq_cons_iff] at hrest
      obtain ⟨place, places, hplaces, rfl, rfl⟩ := hrest
      simp [hplaces]

-- An item with its text, among the lexemes of a text that begins with that many open brackets.
def Sits (depth : Int) (text : Text) (lexemes : List Lexeme) (place : Placed) : Prop :=
  ∃ u v w before behind, text = u ++ (v ++ w) ∧ place.start = positionOf u ∧
    place.stop = positionOf (u ++ v) ∧ Covers 1 u v place.item ∧
    lexemes = before ++ (place.item ++ behind) ∧ depth + Directive.depth before = 0

section

variable {depth : Int} {before t : Text} {start : Position} {l : Lexeme} {lexemes : List Lexeme}
  {place : Placed}

theorem Sits.cons (h : Sits (depth + l.depthChange) t lexemes place) :
    Sits depth t (l :: lexemes) place := by
  obtain ⟨u, v, w, first, behind, ht, hstart, hstop, hcovers, rfl, hdepth⟩ := h
  refine ⟨u, v, w, l :: first, behind, ht, hstart, hstop, hcovers, rfl, ?_⟩
  rw [depth_cons]
  omega

-- The first item goes on from where the text begins.
theorem sits_placeItems (h : Covers (depth + 1) before t lexemes) :
    ∃ first others, placeItems (positionOf (before ++ t)) start depth lexemes = first :: others ∧
      first.start = start ∧
      (∃ v w, t = v ++ w ∧ first.stop = positionOf (before ++ v) ∧
        Covers (depth + 1) before v first.item ∧ first.item <+: lexemes) ∧
      ∀ place ∈ others, Sits depth (before ++ t) lexemes place := by
  generalize houter : depth + 1 = outer at h
  induction h generalizing depth start with
  | nil =>
    exact ⟨_, [], rfl, rfl, ⟨[], [], rfl, rfl, .nil, List.prefix_rfl⟩, by simp⟩
  | @skip outer before part rest lexemes hskips _ ih =>
    obtain ⟨first, others, hplace, hstart, ⟨v, w, rfl, hstop, hcovers, hfirst⟩, hothers⟩ :=
      @ih depth start houter
    rw [List.append_assoc] at hplace hstop hothers
    exact ⟨first, others, hplace, hstart, ⟨part ++ v, w, by simp, hstop,
      .skip hskips.of_append hcovers, hfirst⟩, hothers⟩
  | @lexeme outer before rest l lexemes hstands hstart hstop hbehind ih =>
    have houter' : depth + l.depthChange + 1 = outer + l.depthChange := by omega
    by_cases hcut : (decide (depth + l.depthChange = 0) && l.isOperator [';']) = true
    · obtain ⟨first, others, hplace, hstart', ⟨v, w, rfl, hstop', hcovers, behind, rfl⟩, hothers⟩ :=
        @ih (depth + l.depthChange) l.stop houter'
      rw [List.append_assoc] at hplace hothers
      have hzero : depth + l.depthChange = 0 := by
        rw [Bool.and_eq_true, decide_eq_true_eq] at hcut
        exact hcut.1
      have hone : outer + l.depthChange = 1 := by omega
      rw [hone] at hcovers
      have hfirst : Sits depth (before ++ (l.text ++ (v ++ w))) (l :: (first.item ++ behind))
          first :=
        ⟨before ++ l.text, v, w, [l], behind, by simp, by rw [hstart', hstop], hstop', hcovers,
          rfl, by simpa using hzero⟩
      refine ⟨⟨[], start, l.start⟩, first :: others, ?_, rfl,
        ⟨[], _, rfl, ?_, .nil, List.nil_prefix⟩, ?_⟩
      · rw [placeItems, if_pos hcut, hplace]
      · rw [List.append_nil, hstart]
      · exact List.forall_mem_cons.mpr ⟨hfirst, fun place hmem => (hothers place hmem).cons⟩
    · obtain ⟨first, others, hplace, hstart', ⟨v, w, rfl, hstop', hcovers, hprefix'⟩, hothers⟩ :=
        @ih (depth + l.depthChange) start houter'
      rw [List.append_assoc] at hplace hstop' hothers
      refine ⟨{ first with item := l :: first.item }, others, ?_, hstart',
        ⟨l.text ++ v, w, by simp, hstop', ?_, ?_⟩, fun place hmem => (hothers place hmem).cons⟩
      · rw [placeItems, if_neg hcut, hplace]
      · exact .lexeme (hstands.of_head (head_append v w)) hstart hstop hcovers
      · exact List.cons_prefix_cons.mpr ⟨rfl, hprefix'⟩

theorem sits_of_mem (h : Covers 1 before t lexemes)
    (hplace : place ∈ placeItems (positionOf (before ++ t)) (positionOf before) 0 lexemes) :
    Sits 0 (before ++ t) lexemes place := by
  obtain ⟨first, others, hplaces, hstart, ⟨v, w, rfl, hstop, hcovers, behind, rfl⟩, hothers⟩ :=
    @sits_placeItems 0 _ _ (positionOf before) _ h
  rw [hplaces] at hplace
  rcases List.mem_cons.mp hplace with rfl | hmem
  · exact ⟨before, v, w, [], behind, rfl, hstart, hstop, hcovers, rfl, rfl⟩
  · exact hothers place hmem

end

-- A payload that is nothing but its lexemes, with blanks, line ends and comments: none of them is
-- stray, its brackets are not too deep, and the last parenthesis is not part of a comment.
structure Legible (payload : Text) : Prop where
  scanned : ∃ lexemes, scan ('(' :: payload ++ [')']) = .ok lexemes ∧ Clean lexemes ∧
    (∀ before, before <+: solid lexemes → depth before ≤ Grammar.maxOpen) ∧
    (solid lexemes).getLast?.map Lexeme.start = some (positionOf ('(' :: payload))

section

variable {payload : Text} {read : Payload} {lexemes inner : List Lexeme} {item : List Lexeme}
  {key : Options.Key} {v : Value}

theorem exists_of_lookup {options : List (List Lexeme)} {settings : List (Options.Key × Value)}
    (h : List.Forall₂ (fun item (s : Options.Key × Value) => Sets item s.1 s.2) options settings)
    (hlookup : settings.lookup key = some v) : ∃ item ∈ options, Sets item key v := by
  induction h with
  | nil => cases hlookup
  | @cons item s options settings hsets _ ih =>
    by_cases hkey : key = s.1
    · obtain ⟨other, value⟩ := s
      subst hkey
      rw [List.lookup_cons_self] at hlookup
      cases hlookup
      exact ⟨item, List.mem_cons_self, hsets⟩
    · rw [List.lookup_cons, beq_eq_false_iff_ne.mpr hkey] at hlookup
      obtain ⟨found, hfound, hfoundSets⟩ := ih hlookup
      exact ⟨found, List.mem_cons_of_mem _ hfound, hfoundSets⟩

theorem isSimple_of_admits (h : key.Admits v) : v.isSimple = true := by
  cases h with
  | model => rfl
  | seed => rfl
  | maxCompletionTokens => rfl

-- One place belongs to one part of a text.
theorem eq_of_positionOf {a b behind behind' : Text} (h : a ++ behind = b ++ behind')
    (hposition : positionOf a = positionOf b) : a = b := by
  have ha := offset_positionOf a behind
  have hb := offset_positionOf b behind'
  rw [h, hposition, hb] at ha
  exact (List.append_inj h ha.symm).1

-- Between its parentheses a legible payload is made of its lexemes.
theorem Legible.covers (h : Legible payload) : ∃ lexemes opener inner closer,
    scan ('(' :: payload ++ [')']) = .ok lexemes ∧ solid lexemes = opener :: (inner ++ [closer]) ∧
      Covers 1 ['('] payload inner ∧
      ∀ before, before <+: inner → depth before < Grammar.maxOpen := by
  obtain ⟨lexemes, hscan, hclean, hdeep, hlast⟩ := h.scanned
  obtain ⟨others, hsolid, hbehind⟩ := (covers_scan hscan hclean).opened
  rw [hsolid] at hdeep hlast
  rcases List.eq_nil_or_concat others with rfl | ⟨inner, closer, rfl⟩
  · have hsame : [] = '(' :: payload :=
      @eq_of_positionOf _ _ ('(' :: payload) [] (by simp) (Option.some.inj hlast)
    cases hsame
  rw [List.concat_eq_append] at hsolid hbehind hdeep hlast
  obtain ⟨u, w, htext, hu, hstart, -⟩ := hbehind.split
  have hend : closer.start = positionOf ('(' :: payload) := by
    rw [← List.cons_append, List.getLast?_concat] at hlast
    exact Option.some.inj hlast
  have hsame : '(' :: u = '(' :: payload :=
    @eq_of_positionOf _ _ (closer.text ++ w) [')'] (by simpa using htext.symm)
      (hstart.trans hend)
  obtain rfl := (List.cons.inj hsame).2
  refine ⟨lexemes, _, inner, closer, hscan, hsolid, hu, fun before hbefore => ?_⟩
  have hwhole := hdeep (_ :: before) (List.cons_prefix_cons.mpr
    ⟨rfl, hbefore.trans (List.prefix_append inner [closer])⟩)
  rw [depth_cons] at hwhole
  exact Int.add_one_le_iff.mp (Int.add_comm 1 _ ▸ hwhole)

theorem valueAt_of_covers {a b behind : Text}
    (htext : '(' :: payload ++ [')'] = a ++ (b ++ behind)) (hcovers : Covers 1 a b lexemes)
    (hdeep : ∀ before, before <+: lexemes → depth before < Grammar.maxOpen)
    (h : Value.ofText (literalSource lexemes) = .ok v) (hsimple : v.isSimple = true) :
    valueAt payload (positionOf a) (positionOf (a ++ b)) = .ok v := by
  have hne : lexemes ≠ [] := by
    rintro rfl
    cases h
  rw [valueAt, htext, slice_positionOf]
  exact Value.ofText_enclosed hcovers hne hdeep h hsimple

-- The place of an item, and its text.
theorem exists_placed (hlegible : Legible payload) {read : List (List Lexeme)}
    (hitems : items payload = .ok read) (hitem : item ∈ read) :
    ∃ u v w, '(' :: payload ++ [')'] = u ++ (v ++ w) ∧
      ⟨item, positionOf u, positionOf (u ++ v)⟩ ∈ placed payload ∧ Covers 1 u v item ∧
      ∀ before, before <+: item → depth before < Grammar.maxOpen := by
  obtain ⟨lexemes, opener, inner, closer, hscan, hsolid, hcovers, hdeep⟩ := hlegible.covers
  have hinner : ((lexemes.filter fun l => !l.isLayout).drop 1).dropLast = inner := by
    change ((solid lexemes).drop 1).dropLast = inner
    rw [hsolid, List.drop_one, List.tail_cons, List.dropLast_concat]
  have hsplit : item ∈ splitItems 0 inner := by
    simp only [items, hscan, hinner] at hitems
    cases hitems
    split_ifs at hitem
    · exact List.mem_of_mem_dropLast hitem
    · exact hitem
  have hplaced : placed payload =
      placeItems (positionOf ('(' :: payload)) (positionOf ['(']) 0 inner := by
    simp only [placed, hscan, hinner]
  rw [← map_placeItems (positionOf ('(' :: payload)) (positionOf ['(']), ← hplaced] at hsplit
  obtain ⟨place, hplace, rfl⟩ := List.mem_map.mp hsplit
  obtain ⟨u, v, w, before, behind, htext, hstart, hstop, hitemCovers, rfl, hzero⟩ :
      Sits 0 ('(' :: payload) inner place := by
    rw [hplaced] at hplace
    exact sits_of_mem hcovers hplace
  refine ⟨u, v, w ++ [')'], by simp [htext], ?_, hitemCovers, fun part hpart => ?_⟩
  · rw [← hstart, ← hstop]
    exact hplace
  · have hwhole := hdeep (before ++ part)
      ((List.prefix_append_right_inj before).mpr (hpart.trans (List.prefix_append _ behind)))
    rw [depth_append] at hwhole
    omega

theorem depthChange_of_equals {l : Lexeme} (h : l.isOperator ['='] = true) :
    l.depthChange = 0 := by
  simp only [Lexeme.isOperator, Bool.and_eq_true, beq_iff_eq] at h
  simp [Lexeme.depthChange, Lexeme.opens, Lexeme.closes, Lexeme.isOperator, h]

-- A legible payload is read as it is written.
theorem asWritten_of_legible (h : Payload.ofText payload = .ok read) (hlegible : Legible payload) :
    AsWritten payload read := by
  obtain ⟨found, hfound, hread⟩ := bind_eq_ok.mp h
  split_ifs at hread with hblank
  · cases hread
    refine ⟨fun key v hkey => ?_, fun t ht => ?_⟩
    · cases key <;> cases hkey
    · cases ht
  obtain ⟨options, prompts, settings, rfl, hsets, -, hvalues, hprompts⟩ :=
    (Payload.addItems_eq_ok_iff.mp hread).parts
  refine ⟨fun key v hkey => ?_, fun t ht => ?_⟩
  · obtain ⟨item, hitem, hset⟩ := exists_of_lookup hsets (hvalues key ▸ hkey)
    obtain ⟨u, w, rest, htext, hplaced, hcovers, hdeep⟩ :=
      exists_placed hlegible hfound (List.mem_append_left _ hitem)
    obtain ⟨name, equals, value, rfl, hname, hnamed, hequals, hliteral, hadmits⟩ := hset
    have hflat : name.depthChange = 0 ∧ equals.depthChange = 0 :=
      ⟨depthChange_of_kind (by simp [hname]), depthChange_of_equals hequals⟩
    have hsplit : Covers 1 u w ([name] ++ equals :: value) := hcovers
    obtain ⟨first, last, rfl, -, -, hstop, hvalue⟩ := hsplit.split
    rw [depth_cons, hflat.1, hflat.2] at hvalue
    refine ⟨name, equals, value, _, _, hplaced, hname, hnamed, hequals, ?_⟩
    have hassoc : u ++ (first ++ (equals.text ++ last)) = u ++ first ++ equals.text ++ last := by
      simp
    rw [← hstop, hassoc]
    refine valueAt_of_covers (by simpa using htext) hvalue (fun before hbefore => ?_) hliteral
      (isSimple_of_admits hadmits)
    have hwhole := hdeep (name :: equals :: before)
      (List.cons_prefix_cons.mpr ⟨rfl, List.cons_prefix_cons.mpr ⟨rfl, hbefore⟩⟩)
    rw [depth_cons, depth_cons, hflat.1, hflat.2] at hwhole
    omega
  · rw [ht, Option.toList_some] at hprompts
    obtain ⟨item, hprompt, rfl⟩ : ∃ item, Prompts item t ∧ [item] = prompts := by
      cases hprompts with
      | cons hprompt hnil =>
        cases hnil
        exact ⟨_, hprompt, rfl⟩
    obtain ⟨u, w, rest, htext, hplaced, hcovers, hdeep⟩ :=
      exists_placed hlegible hfound (List.mem_append_right _ List.mem_cons_self)
    obtain ⟨hne, hstrings, hliteral⟩ := hprompt
    exact ⟨item, _, _, hplaced, hne, hstrings, valueAt_of_covers htext hcovers hdeep hliteral rfl⟩

end

-- A payload with blanks between strings, a sign, parentheses, and a comment between its rows.
def commentedPayload : Text := "model = 'a' \"b\"; seed = (+7); 'x' # y\n 'z'\n".toList

def commentedLexemes : List Lexeme :=
  (scan ('(' :: commentedPayload ++ [')'])).toOption.getD []

theorem legible_commented : Legible commentedPayload := by
  have hdeep : ∀ before ∈ (solid commentedLexemes).inits, depth before ≤ Grammar.maxOpen := by
    decide +kernel
  refine ⟨commentedLexemes, ok_of_toOption (by decide +kernel), ?_, fun before hbefore => ?_, ?_⟩
  · unfold Clean
    decide +kernel
  · exact hdeep before ((List.mem_inits before _).mpr hbefore)
  · decide +kernel

theorem asWritten_commented :
    ∃ read, Payload.ofText commentedPayload = .ok read ∧ AsWritten commentedPayload read := by
  have hread : Payload.ofText commentedPayload =
      .ok ⟨⟨some ['a', 'b'], some 7, none⟩, some ['x', 'z']⟩ := ok_of_toOption (by decide +kernel)
  exact ⟨_, hread, asWritten_of_legible hread legible_commented⟩

-- A quote on one row and a quote on the next are read as a text of blanks, because the line feed
-- between them does not count. As written they are no literal.
theorem not_asWritten :
    ∃ read, Payload.ofText "model='\n'".toList = .ok read ∧
      ¬ AsWritten "model='\n'".toList read := by
  refine ⟨⟨⟨some [' '], none, none⟩, none⟩, ok_of_toOption (by decide +kernel), fun h => ?_⟩
  obtain ⟨name, equals, value, start, stop, hplaced, -, -, -, hvalue⟩ := h.option .model _ rfl
  have honly : ∀ p ∈ placed "model='\n'".toList, ∀ equals ∈ p.item[1]?,
      (valueAt "model='\n'".toList equals.stop p.stop).toOption.isNone = true := by
    decide +kernel
  have hnone := honly _ hplaced equals rfl
  rw [hvalue] at hnone
  cases hnone

end Ghostwriter.Directive

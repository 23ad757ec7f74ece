import Ghostwriter.Directive.Options
import Ghostwriter.Proofs.Directive.Statement
import Ghostwriter.Proofs.Failure.Result
import Ghostwriter.Proofs.Grammar.Statement

/-!
The grammar of payloads: which items a payload may have and what they set. A payload is read item by
item, and where that fails, the first item that does not go on from those before it decides how.
-/

namespace Ghostwriter

open Ghostwriter.Lexeme Ghostwriter.Text

namespace Options

-- The values that a directive may set a key to.
inductive Key.Admits : Key → Value → Prop
  | model {t : Text} (nonempty : t ≠ []) : Admits .model (.text t)
  | seed {n : Nat} (small : n ≤ maxSeed) : Admits .seed (.int n)
  | maxCompletionTokens {n : Nat} (positive : 1 ≤ n) : Admits .maxCompletionTokens (.int n)

-- The value that a key is set to.
def value? (options : Options) : Key → Option Value
  | .model => options.model.map .text
  | .seed => options.seed.map fun n : Nat => .int n
  | .maxCompletionTokens => options.maxCompletionTokens.map fun n : Nat => .int n

-- The options without a key.
def unset (options : Options) : Key → Options
  | .model => { options with model := none }
  | .seed => { options with seed := none }
  | .maxCompletionTokens => { options with maxCompletionTokens := none }

variable {options after : Options} {key : Key} {v : Value}

@[simp] theorem value?_empty (key : Key) : empty.value? key = none := by
  cases key <;> rfl

theorem value?_unset (options : Options) (key other : Key) :
    (options.unset key).value? other = if other = key then none else options.value? other := by
  cases key <;> cases other <;> rfl

theorem isSet_eq (options : Options) (key : Key) :
    options.isSet key = (options.value? key).isSome := by
  cases key <;> simp [isSet, value?]

-- Options are what their keys are set to.
theorem ext_value? (h : ∀ key, options.value? key = after.value? key) : options = after := by
  have hint : Function.Injective fun n : Nat => Value.int n := fun a b hab => by
    simpa using hab
  have hmodel := Option.map_injective (fun _ _ => Value.text.inj) (h .model)
  have hseed := Option.map_injective hint (h .seed)
  have hlimit := Option.map_injective hint (h .maxCompletionTokens)
  cases options
  cases after
  simp only at hmodel hseed hlimit
  rw [hmodel, hseed, hlimit]

theorem not_invalid {α : Type} {expected : String} {a : α} :
    (invalid key expected v : Result α) ≠ .ok a := by
  unfold invalid
  split <;> simp

theorem set_of_admits (h : key.Admits v) (options : Options) :
    ∃ after, options.set key v = .ok after ∧
      ∀ other, after.value? other = if other = key then some v else options.value? other := by
  cases h with
  | @model t hne =>
    obtain ⟨c, rest, rfl⟩ := List.exists_cons_of_ne_nil hne
    exact ⟨_, rfl, fun other => by cases other <;> rfl⟩
  | @seed n hsmall =>
    refine ⟨{ options with seed := some n }, ?_, fun other => by cases other <;> rfl⟩
    have hrange : (0 ≤ (n : Int) && (n : Int) ≤ maxSeed) = true := by simp [hsmall]
    simp only [set, hrange, if_true, Int.toNat_natCast]
  | @maxCompletionTokens n hpositive =>
    refine ⟨{ options with maxCompletionTokens := some n }, ?_,
      fun other => by cases other <;> rfl⟩
    have hrange : ¬ (n : Int) < 1 := by omega
    simp only [set, hrange, if_false, Int.toNat_natCast]

theorem admits_of_set (h : options.set key v = .ok after) : key.Admits v := by
  unfold set at h
  split at h
  · split at h
    · exact .model (by simp)
    · exact absurd h not_invalid
  · split at h
    · split_ifs at h with hrange
      · rw [Bool.and_eq_true, decide_eq_true_eq, decide_eq_true_eq] at hrange
        obtain ⟨n, rfl⟩ := Int.eq_ofNat_of_zero_le hrange.1
        exact .seed (by exact_mod_cast hrange.2)
      · exact absurd h not_invalid
    · exact absurd h not_invalid
  · split at h
    · split_ifs at h with hsmall
      · exact absurd h not_invalid
      · rename_i i
        obtain ⟨n, rfl⟩ := Int.eq_ofNat_of_zero_le (show 0 ≤ i by omega)
        exact .maxCompletionTokens (by omega)
    · exact absurd h not_invalid

-- Setting a key is possible with the values that it admits, and sets that key alone.
theorem set_eq_ok_iff : options.set key v = .ok after ↔
    key.Admits v ∧
      ∀ other, after.value? other = if other = key then some v else options.value? other := by
  constructor
  · intro h
    obtain ⟨after', hset, hvalue⟩ := set_of_admits (admits_of_set h) options
    rw [hset] at h
    cases h
    exact ⟨admits_of_set hset, hvalue⟩
  · rintro ⟨hadmits, hvalue⟩
    obtain ⟨after', hset, hvalue'⟩ := set_of_admits hadmits options
    rw [hset, ext_value? fun other => (hvalue' other).trans (hvalue other).symm]

theorem Key.ofText?_eq_some_iff {t : Text} : Key.ofText? t = some key ↔ t = key.text := by
  constructor
  · intro h
    simpa [eq_comm] using List.find?_some h
  · rintro rfl
    cases key <;> decide

end Options

namespace Directive

-- No semicolon of these lexemes stands outside of all their brackets.
def Whole (lexemes : List Lexeme) : Prop :=
  ∀ before l after, lexemes = before ++ l :: after → depth before = 0 → l.isOperator [';'] = false

-- The runs of lexemes between the semicolons that stand outside of all brackets.
inductive Runs : List Lexeme → List (List Lexeme) → Prop
  | last {item : List Lexeme} (whole : Whole item) : Runs item [item]
  | next {item rest : List Lexeme} {semicolon : Lexeme} {items : List (List Lexeme)}
    (whole : Whole item) (balanced : depth item = 0) (mark : semicolon.isOperator [';'])
    (runs : Runs rest items) : Runs (item ++ semicolon :: rest) (item :: items)

-- The items of a payload, which is scanned within parentheses. Layout does not count, and neither
-- does a last item that is empty, unless it is the only one.
def Itemized (payload : Text) (items : List (List Lexeme)) : Prop :=
  ∃ lexemes runs, scan ('(' :: payload ++ [')']) = .ok lexemes ∧
    Runs ((lexemes.filter fun l => !l.isLayout).drop 1).dropLast runs ∧
    items = if 1 < runs.length ∧ runs.getLast? = some [] then runs.dropLast else runs

-- An item that sets a key: its name, an equals sign, and a literal for a value that it admits.
def Sets (item : List Lexeme) (key : Options.Key) (v : Value) : Prop :=
  ∃ name equals value, item = name :: equals :: value ∧ name.kind = .name ∧
    name.text = key.text ∧ equals.isOperator ['='] ∧
    Value.ofText (literalSource value) = .ok v ∧ key.Admits v

-- An item of string literals that are a text together.
def Prompts (item : List Lexeme) (t : Text) : Prop :=
  item ≠ [] ∧ (∀ l ∈ item, l.kind = .string) ∧ Value.ofText (literalSource item) = .ok (.text t)

-- Items that say this: each sets another key, but for a prompt at the end.
structure Says (items : List (List Lexeme)) (payload : Payload) : Prop where
  parts : ∃ options prompts settings, items = options ++ prompts ∧
    List.Forall₂ (fun item (s : Options.Key × Value) => Sets item s.1 s.2) options settings ∧
    (settings.map Prod.fst).Nodup ∧ (∀ key, payload.options.value? key = settings.lookup key) ∧
    List.Forall₂ Prompts prompts payload.prompt.toList

section

variable {l : Lexeme} {lexemes rest item : List Lexeme} {items : List (List Lexeme)}

theorem depth_append (before behind : List Lexeme) :
    depth (before ++ behind) = depth before + depth behind := by
  simp [depth]

theorem depthChange_of_semicolon (h : l.isOperator [';']) : l.depthChange = 0 := by
  simp only [isOperator, Bool.and_eq_true, beq_iff_eq] at h
  simp [depthChange, opens, closes, isOperator, h]

theorem splitItems_ne_nil (outer : Int) (lexemes : List Lexeme) :
    splitItems outer lexemes ≠ [] := by
  cases lexemes with
  | nil => simp [splitItems]
  | cons l rest =>
    rw [splitItems]
    cases splitItems (outer + l.depthChange) rest with
    | nil => simp
    | cons first others =>
      simp only
      split_ifs <;> simp

theorem whole_nil : Whole [] := by
  intro before l after h
  simp at h

theorem whole_concat (h : Whole lexemes) (hl : depth lexemes = 0 → l.isOperator [';'] = false) :
    Whole (lexemes ++ [l]) := by
  intro before l' after heq hdepth
  rcases List.eq_nil_or_concat after with rfl | ⟨after, last, rfl⟩
  · obtain ⟨rfl, rfl⟩ := List.append_singleton_inj.mp heq
    exact hl hdepth
  · rw [List.concat_eq_append, ← List.cons_append, ← List.append_assoc,
      List.append_singleton_inj] at heq
    exact h before l' after heq.1 hdepth

-- Splitting goes on with a run that has begun.
theorem runs_of_splitItems {begun first : List Lexeme} {others : List (List Lexeme)}
    (hwhole : Whole begun) (h : splitItems (depth begun) lexemes = first :: others) :
    Runs (begun ++ lexemes) ((begun ++ first) :: others) := by
  induction lexemes generalizing begun first others with
  | nil =>
    rw [splitItems] at h
    cases h
    simpa using Runs.last hwhole
  | cons l rest ih =>
    rw [splitItems] at h
    by_cases hcut : depth begun = 0 ∧ l.isOperator [';']
    · obtain ⟨hbalanced, hmark⟩ := hcut
      obtain ⟨first', others', hrest⟩ :=
        List.exists_cons_of_ne_nil (splitItems_ne_nil (depth []) rest)
      have hdepth : depth begun + l.depthChange = depth [] := by
        rw [hbalanced, depthChange_of_semicolon hmark]
        rfl
      simp only [hdepth, hrest] at h
      simp only [depth_nil, hmark, decide_true, Bool.and_self, if_true] at h
      cases h
      rw [List.append_nil]
      exact .next hwhole hbalanced hmark (ih whole_nil hrest)
    · have hgoes : (depth begun + l.depthChange = 0 && l.isOperator [';']) = false := by
        by_contra hmark
        rw [Bool.not_eq_false, Bool.and_eq_true, decide_eq_true_eq] at hmark
        rw [depthChange_of_semicolon hmark.2, Int.add_zero] at hmark
        exact hcut hmark
      have hdepth : depth begun + l.depthChange = depth (begun ++ [l]) := by
        simp [depth_append]
      obtain ⟨first', others', hrest⟩ :=
        List.exists_cons_of_ne_nil (splitItems_ne_nil (depth (begun ++ [l])) rest)
      simp only [hgoes] at h
      rw [hdepth, hrest] at h
      cases h
      have hmore : Whole (begun ++ [l]) := whole_concat hwhole fun hbalanced => by
        rw [Bool.eq_false_iff]
        exact fun hmark => hcut ⟨hbalanced, hmark⟩
      simpa using ih hmore hrest

theorem runs_splitItems (lexemes : List Lexeme) : Runs lexemes (splitItems 0 lexemes) := by
  obtain ⟨first, others, hsplit⟩ := List.exists_cons_of_ne_nil (splitItems_ne_nil 0 lexemes)
  rw [hsplit]
  exact runs_of_splitItems whole_nil hsplit

-- A semicolon outside of all brackets ends a run.
theorem whole_semicolon_iff {semicolon : Lexeme} (hwhole : Whole item) (hbalanced : depth item = 0)
    (hmark : semicolon.isOperator [';']) {item' rest' : List Lexeme} (hwhole' : Whole item') :
    item ++ semicolon :: rest = item' ++ rest' → item' <+: item := by
  intro heq
  rcases List.append_eq_append_iff.mp heq with ⟨between, rfl, hrest⟩ | ⟨between, rfl, -⟩
  · cases between with
    | nil => simp
    | cons l between =>
      rw [List.cons_append, List.cons.injEq] at hrest
      rw [← hrest.1] at hwhole'
      rw [hwhole' item semicolon between rfl hbalanced] at hmark
      cases hmark
  · exact List.prefix_append _ _

theorem Runs.unique {items' : List (List Lexeme)} (h : Runs lexemes items)
    (h' : Runs lexemes items') : items = items' := by
  induction h generalizing items' with
  | last hwhole =>
    cases h' with
    | last => rfl
    | next _ hbalanced hmark _ =>
      rw [hwhole _ _ _ rfl hbalanced] at hmark
      cases hmark
  | @next item rest semicolon items hwhole hbalanced hmark _ ih =>
    generalize hall : item ++ semicolon :: rest = all at h'
    cases h' with
    | last hwhole' =>
      rw [hwhole' _ _ _ hall.symm hbalanced] at hmark
      cases hmark
    | @next item' rest' semicolon' items' hwhole' hbalanced' hmark' hruns' =>
      have hprefix := whole_semicolon_iff hwhole hbalanced hmark hwhole' hall
      have hprefix' := whole_semicolon_iff hwhole' hbalanced' hmark' hwhole hall.symm
      obtain rfl := hprefix.eq_of_length_le hprefix'.length_le
      obtain ⟨-, rfl⟩ := List.cons.inj (List.append_cancel_left hall)
      rw [ih hruns']

theorem items_eq_ok_iff {payload : Text} :
    Directive.items payload = .ok items ↔ Itemized payload items := by
  unfold Directive.items Itemized
  cases hscan : scan ('(' :: payload ++ [')']) with
  | error cause => simp
  | ok lexemes =>
    simp only [Except.ok.injEq, Bool.and_eq_true, decide_eq_true_eq]
    constructor
    · intro h
      exact ⟨lexemes, _, rfl, runs_splitItems _, h.symm⟩
    · rintro ⟨_, runs, rfl, hruns, rfl⟩
      rw [(runs_splitItems _).unique hruns]

end

namespace Payload

variable {payload after : Payload} {item : List Lexeme} {items : List (List Lexeme)} {n : Nat}

-- What one item adds to a payload.
inductive Adds (payload : Payload) (item : List Lexeme) : Payload → Prop
  | option {key : Options.Key} {v : Value} {options : Options} (sets : Sets item key v)
    (free : payload.options.value? key = none) (set : payload.options.set key v = .ok options) :
    Adds payload item { payload with options := options }
  | prompt {t : Text} (prompts : Prompts item t) :
    Adds payload item { payload with prompt := some t }

theorem literal_eq_ok_iff {lexemes : List Lexeme} {what : Text} {v : Value} :
    literal lexemes what = .ok v ↔ Value.ofText (literalSource lexemes) = .ok v := by
  unfold literal
  simp only
  cases Value.ofText (literalSource lexemes) with
  | ok v' => simp
  | error e => cases e <;> simp

-- No literal is empty.
theorem ne_nil_of_literal {lexemes : List Lexeme} {v : Value}
    (h : Value.ofText (literalSource lexemes) = .ok v) : lexemes ≠ [] := by
  rintro rfl
  have hempty : (Value.ofText (literalSource [])).toOption.isNone = true := by decide +kernel
  rw [h] at hempty
  cases hempty

theorem addOption_eq_ok_iff {name : Text} {value : List Lexeme} :
    payload.addOption name value = .ok after ↔
      ∃ key v options, name = key.text ∧ payload.options.value? key = none ∧
        Value.ofText (literalSource value) = .ok v ∧ payload.options.set key v = .ok options ∧
        after = { payload with options := options } := by
  unfold addOption
  cases hkey : Options.Key.ofText? name with
  | none =>
    have hnone (key : Options.Key) : name ≠ key.text := fun hname => by
      rw [Options.Key.ofText?_eq_some_iff.mpr hname] at hkey
      cases hkey
    simp [hnone]
  | some key =>
    have hname (key' : Options.Key) : name = key'.text ↔ key' = key := by
      rw [← Options.Key.ofText?_eq_some_iff, hkey, Option.some.injEq, eq_comm]
    simp only [hname, exists_and_left, exists_eq_left, Options.isSet_eq]
    cases hvalue : payload.options.value? key with
    | some v =>
      constructor
      · intro h
        cases h
      · rintro ⟨⟨⟩, -⟩
    | none =>
      cases value with
      | nil =>
        constructor
        · intro h
          cases h
        · rintro ⟨-, v, hv, -⟩
          exact absurd rfl (ne_nil_of_literal hv)
      | cons l rest =>
        refine bind_eq_ok.trans ?_
        simp only [literal_eq_ok_iff, bind_eq_ok, Except.ok.injEq, true_and, @eq_comm _ _ after]

theorem addPrompt_eq_ok_iff : payload.addPrompt item = .ok after ↔
    ∃ t, Value.ofText (literalSource item) = .ok (.text t) ∧
      after = { payload with prompt := some t } := by
  unfold addPrompt
  rw [bind_eq_ok]
  simp only [literal_eq_ok_iff]
  constructor
  · rintro ⟨v, hv, h⟩
    split at h
    · exact ⟨_, hv, (Except.ok.inj h).symm⟩
    · cases h
  · rintro ⟨t, ht, rfl⟩
    exact ⟨_, ht, rfl⟩

theorem other_eq_ok_iff {first : Lexeme} {rest : List Lexeme} :
    addItem.other payload n first rest = .ok after ↔
      ∃ t, Prompts (first :: rest) t ∧ after = { payload with prompt := some t } := by
  unfold addItem.other Prompts
  split_ifs with hall
  · rw [addPrompt_eq_ok_iff]
    simp only [List.all_eq_true, decide_eq_true_eq] at hall
    simp only [ne_eq, reduceCtorEq, not_false_eq_true, true_and, and_assoc]
    exact ⟨fun ⟨t, ht⟩ => ⟨t, hall, ht⟩, fun ⟨t, _, ht⟩ => ⟨t, ht⟩⟩
  · simp only [List.all_eq_true, decide_eq_true_eq] at hall
    constructor
    · intro h
      cases h
    · rintro ⟨t, ⟨-, hkind, -⟩, -⟩
      exact absurd hkind hall

theorem addItem_eq_ok_iff {first : Lexeme} {rest : List Lexeme} :
    payload.addItem n first rest = .ok after ↔ payload.Adds (first :: rest) after := by
  constructor
  · intro h
    have hother (h : addItem.other payload n first rest = .ok after) :
        payload.Adds (first :: rest) after := by
      obtain ⟨t, hprompts, rfl⟩ := other_eq_ok_iff.mp h
      exact .prompt hprompts
    unfold addItem at h
    split at h
    · split_ifs at h with hoption
      · rw [Bool.and_eq_true, decide_eq_true_eq] at hoption
        obtain ⟨key, v, options, hname, hfree, hv, hset, rfl⟩ := addOption_eq_ok_iff.mp h
        exact .option ⟨first, _, _, rfl, hoption.1, hname, hoption.2, hv,
          Options.admits_of_set hset⟩ hfree hset
      · exact hother h
    · exact hother h
  · intro h
    cases h with
    | option hsets hfree hset =>
      obtain ⟨name, equals, value, heq, hname, htext, hequals, hv, -⟩ := hsets
      cases heq
      simp only [addItem, hname, hequals, decide_true, Bool.and_self, if_true]
      exact addOption_eq_ok_iff.mpr ⟨_, _, _, htext, hfree, hv, hset, rfl⟩
    | prompt hprompts =>
      have hkind : (decide (first.kind = .name)) = false := by
        rw [hprompts.2.1 first (by simp)]
        rfl
      unfold addItem
      split
      · simp only [hkind, Bool.false_and, Bool.false_eq_true, if_false]
        exact other_eq_ok_iff.mpr ⟨_, hprompts, rfl⟩
      · exact other_eq_ok_iff.mpr ⟨_, hprompts, rfl⟩

-- One item is added to a payload that has no prompt yet.
theorem addItems_singleton_eq_ok_iff : payload.addItems n [item] = .ok after ↔
    payload.prompt = none ∧ payload.Adds item after := by
  cases item with
  | nil =>
    simp only [addItems, reduceCtorEq, false_iff, not_and]
    rintro - hadds
    cases hadds with
    | option hsets => simp [Sets] at hsets
    | prompt hprompts => exact hprompts.1 rfl
  | cons first rest =>
    simp only [addItems]
    cases hprompt : payload.prompt with
    | some t => simp [throw, throwThe, MonadExceptOf.throw, bind, Except.bind]
    | none =>
      refine bind_eq_ok.trans ?_
      simp [addItem_eq_ok_iff]

theorem addItems_cons (payload : Payload) (n : Nat) (item : List Lexeme)
    (rest : List (List Lexeme)) :
    payload.addItems n (item :: rest) =
      payload.addItems n [item] >>= fun next => next.addItems (n + 1) rest := by
  cases item with
  | nil => rfl
  | cons first tail =>
    simp only [addItems]
    cases payload.prompt with
    | some t => rfl
    | none =>
      simp only [Option.isSome_none, Bool.false_eq_true, if_false, bind_assoc]
      rfl

theorem addItems_append (payload : Payload) (n : Nat) (before behind : List (List Lexeme)) :
    payload.addItems n (before ++ behind) =
      payload.addItems n before >>= fun next => next.addItems (n + before.length) behind := by
  induction before generalizing payload n with
  | nil => rfl
  | cons item before ih =>
    rw [List.cons_append, addItems_cons, addItems_cons payload n item before, bind_assoc]
    refine congrArg (_ >>= ·) (funext fun next => ?_)
    rw [ih, List.length_cons, Nat.add_right_comm, Nat.add_assoc]

-- Where reading fails, some item is the first that cannot be added. What follows is not looked at.
theorem exists_bad_of_error {failure : Failure} (h : payload.addItems n items = .error failure) :
    ∃ before bad behind next, items = before ++ bad :: behind ∧
      payload.addItems n before = .ok next ∧
      ∀ behind', next.addItems (n + before.length) (bad :: behind') = .error failure := by
  induction items generalizing payload n with
  | nil => cases h
  | cons item rest ih =>
    rw [addItems_cons] at h
    cases hitem : payload.addItems n [item] with
    | error e =>
      rw [hitem] at h
      cases h
      refine ⟨[], item, rest, payload, rfl, rfl, fun behind' => ?_⟩
      rw [List.length_nil, Nat.add_zero, addItems_cons, hitem]
      rfl
    | ok middle =>
      rw [hitem] at h
      obtain ⟨before, bad, behind, next, rfl, hbefore, hbad⟩ := ih h
      refine ⟨item :: before, bad, behind, next, rfl, ?_, fun behind' => ?_⟩
      · rw [addItems_cons, hitem]
        exact hbefore
      · rw [List.length_cons, Nat.add_comm before.length, ← Nat.add_assoc]
        exact hbad behind'

theorem says_nil : Says [] payload ↔ payload = empty := by
  constructor
  · rintro ⟨options, prompts, settings, hparts, hsets, -, hvalue, hprompts⟩
    obtain ⟨rfl, rfl⟩ := List.append_eq_nil_iff.mp hparts.symm
    cases hsets
    obtain ⟨options, prompt⟩ := payload
    have hoptions : options = Options.empty := Options.ext_value? fun key => by simp [hvalue key]
    cases prompt with
    | none => rw [hoptions]; rfl
    | some t => cases hprompts
  · rintro rfl
    exact ⟨[], [], [], rfl, .nil, by simp, fun key => by simp [empty], .nil⟩

-- A setting is taken back by leaving out the last item.
theorem says_of_concat (h : Says (items ++ [item]) after) :
    ∃ payload, Says items payload ∧ payload.prompt = none ∧ payload.Adds item after := by
  obtain ⟨options, prompts, settings, hparts, hsets, hdistinct, hvalue, hprompts⟩ := h
  obtain ⟨values, prompt⟩ := after
  cases prompt with
  | none =>
    cases hprompts
    rw [List.append_nil] at hparts
    obtain ⟨before, last, rfl, hbefore, hlast⟩ := Grammar.forall₂_append_left (hparts ▸ hsets)
    obtain ⟨⟨key, v⟩, -, hitem, ⟨⟩, rfl⟩ := List.forall₂_cons_left_iff.mp hlast
    rw [List.map_append, List.nodup_append] at hdistinct
    have hfree : before.lookup key = none := by
      rw [List.lookup_eq_none_iff]
      intro s hs
      have hne := hdistinct.2.2 s.1 (List.mem_map_of_mem hs) key (List.mem_singleton_self _)
      rw [bne_iff_ne]
      exact hne.symm
    have hbound (other : Options.Key) :
        values.value? other = if other = key then some v else before.lookup other := by
      rw [hvalue other, List.lookup_append]
      split_ifs with hsame
      · rw [hsame, hfree, Option.none_or, List.lookup_cons_self]
      · simp [List.lookup_cons, beq_false_of_ne hsame]
    have hunset (other : Options.Key) : (values.unset key).value? other = before.lookup other := by
      rw [Options.value?_unset, hbound]
      split_ifs with hsame
      · rw [hsame, hfree]
      · rfl
    refine ⟨⟨values.unset key, none⟩, ⟨items, [], before, by simp, hbefore, hdistinct.1, hunset,
      .nil⟩, rfl, .option hitem ((hunset key).trans hfree) ?_⟩
    obtain ⟨-, -, -, -, -, -, -, -, hadmits⟩ := id hitem
    refine Options.set_eq_ok_iff.mpr ⟨hadmits, fun other => ?_⟩
    rw [hbound, hunset]
  | some t =>
    obtain ⟨prompt, -, hprompt, ⟨⟩, rfl⟩ := List.forall₂_cons_right_iff.mp hprompts
    obtain ⟨rfl, rfl⟩ := List.append_singleton_inj.mp hparts
    exact ⟨⟨values, none⟩, ⟨items, [], settings, by simp, hsets, hdistinct, hvalue, .nil⟩, rfl,
      .prompt hprompt⟩

theorem says_concat : Says (items ++ [item]) after ↔
    ∃ payload, Says items payload ∧ payload.prompt = none ∧ payload.Adds item after := by
  refine ⟨says_of_concat, ?_⟩
  rintro ⟨payload, hsays, hnone, hadds⟩
  obtain ⟨options, prompts, settings, rfl, hsets, hdistinct, hvalue, hprompts⟩ := hsays
  rw [hnone] at hprompts
  cases hprompts
  rw [List.append_nil]
  cases hadds with
  | @option key v values hitem hfree hset =>
    have hnew : key ∉ settings.map Prod.fst := by
      rw [hvalue key, List.lookup_eq_none_iff] at hfree
      intro hmem
      obtain ⟨s, hs, rfl⟩ := List.mem_map.mp hmem
      simpa using hfree s hs
    refine ⟨options ++ [item], [], settings ++ [(key, v)], by simp,
      List.rel_append hsets (.cons hitem .nil), ?_, fun other => ?_, hnone ▸ .nil⟩
    · rw [List.map_append]
      refine List.nodup_append.mpr ⟨hdistinct, by simp, fun other hother last hlast hsame => ?_⟩
      obtain rfl := List.mem_singleton.mp hlast
      exact hnew (hsame ▸ hother)
    · rw [(Options.set_eq_ok_iff.mp hset).2 other, hvalue other, List.lookup_append]
      split_ifs with hsame
      · rw [hsame, ← hvalue key, hfree, Option.none_or, List.lookup_cons_self]
      · simp [List.lookup_cons, beq_false_of_ne hsame]
  | prompt hprompt =>
    exact ⟨options, [item], settings, rfl, hsets, hdistinct, hvalue, .cons hprompt .nil⟩

-- Reading items comes to a payload that they say, and to no other.
theorem addItems_eq_ok_iff : empty.addItems 1 items = .ok after ↔ Says items after := by
  induction items using List.reverseRecOn generalizing after with
  | nil => rw [says_nil, addItems, Except.ok.injEq, eq_comm]
  | append_singleton items item ih =>
    rw [addItems_append, bind_eq_ok, says_concat]
    simp only [ih, addItems_singleton_eq_ok_iff]

theorem ofText_eq {t : Text} (h : Itemized t items) (hne : items ≠ [[]]) :
    ofText t = empty.addItems 1 items := by
  rw [ofText, items_eq_ok_iff.mpr h]
  exact if_neg hne

-- A payload is accepted if it is empty or its items say something, which is then what is read. If
-- it is not, there is a first item that the items from there on cannot go on with, and no other
-- items behind that one change the failure.
theorem ofText_ok_iff (t : Text) :
    (∀ payload, ofText t = .ok payload ↔
      ∃ items, Itemized t items ∧ (items = [[]] ∧ payload = empty ∨ Says items payload)) ∧
    ∀ items failure, Itemized t items → ofText t = .error failure →
      ∃ before bad behind, items = before ++ bad :: behind ∧ (∃ payload, Says before payload) ∧
        (∀ payload, ¬ Says (before ++ [bad]) payload) ∧
        ∀ t' behind', Itemized t' (before ++ bad :: behind') → before ++ bad :: behind' ≠ [[]] →
          ofText t' = .error failure := by
  have hempty (payload : Payload) : ¬ Says [[]] payload := by
    rw [← addItems_eq_ok_iff]
    intro h
    cases h
  constructor
  · intro payload
    constructor
    · intro h
      obtain ⟨items, hitems, h⟩ := bind_eq_ok.mp h
      refine ⟨items, items_eq_ok_iff.mp hitems, ?_⟩
      split_ifs at h with hblank
      · exact .inl ⟨hblank, (Except.ok.inj h).symm⟩
      · exact .inr (addItems_eq_ok_iff.mp h)
    · rintro ⟨items, hitems, ⟨rfl, rfl⟩ | hsays⟩
      · rw [ofText, items_eq_ok_iff.mpr hitems]
        rfl
      · rw [ofText_eq hitems fun hblank => hempty payload (hblank ▸ hsays)]
        exact addItems_eq_ok_iff.mpr hsays
  · intro items failure hitems h
    have hne : items ≠ [[]] := by
      rintro rfl
      rw [ofText, items_eq_ok_iff.mpr hitems] at h
      cases h
    rw [ofText_eq hitems hne] at h
    obtain ⟨before, bad, behind, next, rfl, hbefore, hbad⟩ := exists_bad_of_error h
    have hfails (behind' : List (List Lexeme)) :
        empty.addItems 1 (before ++ bad :: behind') = .error failure := by
      rw [addItems_append, hbefore]
      exact hbad behind'
    refine ⟨before, bad, behind, rfl, ⟨next, addItems_eq_ok_iff.mp hbefore⟩,
      fun payload hsays => ?_, fun t' behind' hitems' hne' => ?_⟩
    · rw [← addItems_eq_ok_iff, hfails []] at hsays
      cases hsays
    · rw [ofText_eq hitems' hne', hfails behind']

-- A bare name, which is no item of a payload.
def bareName : List Lexeme := [⟨.name, "x".toList, ⟨1, 1⟩, ⟨1, 2⟩⟩]

-- A bare name fails in the same way before a prompt and before a number.
theorem ofText_ok_iff_bareName :
    ∃ failure, ofText "x; 'a'".toList = .error failure ∧ ofText "x;2".toList = .error failure ∧
      failure.message = "Expected 'key = value' or a string prompt in item 1, got 'x'".toList := by
  have hprompt : Itemized "x; 'a'".toList [bareName, [⟨.string, "'a'".toList, ⟨1, 4⟩, ⟨1, 7⟩⟩]] :=
    items_eq_ok_iff.mp (ok_of_toOption (by decide +kernel))
  have hnumber : Itemized "x;2".toList [bareName, [⟨.number, "2".toList, ⟨1, 3⟩, ⟨1, 4⟩⟩]] :=
    items_eq_ok_iff.mp (ok_of_toOption (by decide +kernel))
  have hbare (payload : Payload) : ¬ Says [bareName] payload := by
    rw [← addItems_eq_ok_iff]
    intro h
    cases h
  cases hfails : ofText "x; 'a'".toList with
  | ok payload =>
    have hnone : (ofText "x; 'a'".toList).toOption.isNone = true := by decide +kernel
    rw [hfails] at hnone
    cases hnone
  | error failure =>
    have hmessage : (match ofText "x; 'a'".toList with
        | .ok _ => []
        | .error e => e.message) =
        "Expected 'key = value' or a string prompt in item 1, got 'x'".toList := by
      decide +kernel
    rw [hfails] at hmessage
    obtain ⟨before, bad, behind, hparts, ⟨payload, hsays⟩, -, hsame⟩ :=
      (ofText_ok_iff _).2 _ failure hprompt hfails
    cases before with
    | nil =>
      obtain ⟨rfl, -⟩ := List.cons.inj hparts
      exact ⟨failure, rfl, hsame _ _ hnumber (by simp), hmessage⟩
    | cons first before =>
      obtain ⟨rfl, hrest⟩ := List.cons.inj hparts
      cases before with
      | nil => exact absurd hsays (hbare payload)
      | cons second before => simp at hrest

end Payload

end Directive

end Ghostwriter

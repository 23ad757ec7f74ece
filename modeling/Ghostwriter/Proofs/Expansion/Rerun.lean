import Ghostwriter.Proofs.Directive.Found
import Ghostwriter.Proofs.Expansion.Course
import Mathlib.Data.List.Forall2

/-!
Running again. What a run has come by is on record when it ends, also when a text fails its check.
So a later run on the same bytes finds every text that it needs, sends no request, and ends alike.
-/

namespace Ghostwriter

open Ghostwriter.Text

namespace Work

variable {α β : Type}

theorem run_mapM_nil (f : α → Work β) (desk : Desk) :
    (([] : List α).mapM f).run desk = (.ok [], desk) := rfl

theorem run_mapM_cons (f : α → Work β) (a : α) (rest : List α) (desk : Desk) :
    ((a :: rest).mapM f).run desk =
      match (f a).run desk with
      | (.error e, desk) => (.error e, desk)
      | (.ok b, desk) =>
        match (rest.mapM f).run desk with
        | (.error e, desk) => (.error e, desk)
        | (.ok bs, desk) => (.ok (b :: bs), desk) := by
  rw [List.mapM_cons, run_bind]
  obtain ⟨result, after⟩ := (f a).run desk
  cases result with
  | error e => rfl
  | ok b =>
    simp only
    rw [run_bind]
    obtain ⟨results, last⟩ := (rest.mapM f).run after
    cases results <;> rfl

theorem run_mapM_cons_ok {f : α → Work β} {a : α} {rest : List α} {desk after : Desk}
    {results : List β} (h : ((a :: rest).mapM f).run desk = (.ok results, after)) :
    ∃ b middle others, (f a).run desk = (.ok b, middle) ∧
      (rest.mapM f).run middle = (.ok others, after) ∧ results = b :: others := by
  rw [run_mapM_cons] at h
  cases hfirst : (f a).run desk with
  | mk result middle =>
    rw [hfirst] at h
    cases result with
    | error e => cases h
    | ok b =>
      simp only at h
      cases hrest : (rest.mapM f).run middle with
      | mk others last =>
        rw [hrest] at h
        cases others with
        | error e => cases h
        | ok others =>
          cases h
          exact ⟨b, middle, others, rfl, hrest, rfl⟩

theorem forall_of_run_mapM {f : α → Work β} {as : List α} {bs : List β} {desk after : Desk}
    {good : β → Prop} (hgood : ∀ a b desk after, (f a).run desk = (.ok b, after) → good b)
    (h : (as.mapM f).run desk = (.ok bs, after)) : ∀ b ∈ bs, good b := by
  induction as generalizing desk bs with
  | nil =>
    rw [run_mapM_nil] at h
    cases h
    simp
  | cons a rest ih =>
    obtain ⟨b, middle, others, ha, hrest, rfl⟩ := run_mapM_cons_ok h
    rw [List.forall_mem_cons]
    exact ⟨hgood a b desk middle ha, ih hrest⟩

-- A run that fails fails at one of its steps, and those before it have succeeded.
theorem split_of_run_mapM_error {f : α → Work β} {as : List α} {desk after : Desk}
    {failure : Failure} (h : (as.mapM f).run desk = (.error failure, after)) :
    ∃ before a behind results middle, as = before ++ a :: behind ∧
      (before.mapM f).run desk = (.ok results, middle) ∧
      (f a).run middle = (.error failure, after) := by
  induction as generalizing desk with
  | nil =>
    rw [run_mapM_nil] at h
    cases h
  | cons first rest ih =>
    rw [run_mapM_cons] at h
    cases hfirst : (f first).run desk with
    | mk result next =>
      rw [hfirst] at h
      cases result with
      | error e =>
        cases h
        exact ⟨[], first, rest, [], desk, rfl, rfl, hfirst⟩
      | ok b =>
        simp only at h
        cases hrest : (rest.mapM f).run next with
        | mk others last =>
          rw [hrest] at h
          cases others with
          | ok bs => cases h
          | error e =>
            cases h
            obtain ⟨before, a, behind, results, middle, rfl, hbefore, hrun⟩ := ih hrest
            refine ⟨first :: before, a, behind, b :: results, middle, rfl, ?_, hrun⟩
            rw [run_mapM_cons, hfirst]
            simp only
            rw [hbefore]

end Work

namespace Splice

end Splice

theorem Source.text_encode (path : Path) (t : Text) :
    (Source.mk path (encode t)).text = .ok t := by
  rw [Source.text, decode_encode]

example : (Source.mk (.ofText "a.py".toList) [0xc3, 0xa9]).text.toOption = some "é".toList := by
  decide +kernel

namespace Expansion

-- The same expansion with its text from the cache.
def reused (e : Expansion) : Expansion := { e with cached := true }

-- The same expansion in a file with another name.
def under (e : Expansion) (path : Path) : Expansion := { e with site := e.site.under path }

end Expansion

namespace Cache

-- Every record of one disk is also on another.
def Keeps (folder : Path) (disk later : Disk) : Prop :=
  ∀ key t, isKey key → record folder disk key = some t → record folder later key = some t

theorem Keeps.refl (folder : Path) (disk : Disk) : Keeps folder disk disk := fun _ _ _ h => h

theorem Keeps.trans {folder : Path} {a b c : Disk} (h : Keeps folder a b)
    (h' : Keeps folder b c) : Keeps folder a c :=
  fun key t hkey hrecord => h' key t hkey (h key t hkey hrecord)

end Cache

-- Between these desks nothing is written and nothing is asked.
structure Desk.Rests (desk after : Desk) : Prop where
  folder : after.cache.folder = desk.cache.folder
  disk : after.disk = desk.disk
  sent : after.sent = desk.sent

theorem Desk.Rests.trans {a b c : Desk} (h : a.Rests b) (h' : b.Rests c) : a.Rests c :=
  ⟨h'.folder.trans h.folder, h'.disk.trans h.disk, h'.sent.trans h.sent⟩

namespace Expander

-- A directive has its text on record, and the text makes this expansion.
def Recovers (expander : Expander) (source : Source) (folder : Path) (disk : Disk) (site : Site)
    (e : Expansion) : Prop :=
  ∃ plan text, expander.plan source site = .ok plan ∧
    Cache.record folder disk plan.key = some text ∧
    plan.outcome expander.settings.unwrapFences site text true = .ok e

-- Two expanders make the same of a directive in these sources.
structure Agree (first later : Expander) (source again : Source) : Prop where
  content : again.content = source.content
  model : later.settings.defaultModel = first.settings.defaultModel
  unwraps : later.settings.unwrapFences = first.settings.unwrapFences

theorem Agree.plan_under {first later : Expander} {source again : Source}
    (h : Agree first later source again) (site : Site) (path : Path) :
    later.plan again (site.under path) = first.plan source site := by
  unfold plan modelFor
  rw [h.content, h.model]
  rfl

theorem outcome_under {plan : Plan} {unwraps reused : Bool} {site : Site} {text : Text}
    {e : Expansion} (h : plan.outcome unwraps site text reused = .ok e) (path : Path) :
    plan.outcome unwraps (site.under path) text reused = .ok (e.under path) := by
  obtain ⟨snippet, hsnippet, rfl⟩ := Plan.outcome_eq_ok_iff.mp h
  exact Plan.outcome_eq_ok_iff.mpr ⟨snippet, hsnippet, rfl⟩

theorem Recovers.under {first later : Expander} {source again : Source} {folder : Path}
    {disk : Disk} {site : Site} {e : Expansion} (h : first.Recovers source folder disk site e)
    (hagree : Agree first later source again) (path : Path) :
    later.Recovers again folder disk (site.under path) (e.under path) := by
  obtain ⟨plan, text, hplan, hrecord, houtcome⟩ := h
  refine ⟨plan, text, ?_, hrecord, ?_⟩
  · rw [hagree.plan_under, hplan]
  · rw [hagree.unwraps]
    exact outcome_under houtcome path

-- Where a text is on record, expanding comes down to its check.
theorem run_expand_of_record {expander : Expander} {source : Source} {site : Site} {plan : Plan}
    {desk : Desk} {text : Text} (hplan : expander.plan source site = .ok plan)
    (hrecord : Cache.record desk.cache.folder desk.disk plan.key = some text) :
    ∃ after, (expander.expand source site).run desk =
        ((plan.outcome expander.settings.unwrapFences site text true).mapError
          (Failure.locate site.location), after) ∧ desk.Rests after := by
  obtain ⟨events, hrun⟩ := run_expand expander source site desk
  have hleaves := leaves_course expander source site desk
  rw [course_of_record hplan hrecord] at hrun hleaves
  refine ⟨_, hrun, hleaves.folder, hleaves.leads.disk_of_reused, ?_⟩
  simpa [Course.requests] using hleaves.sent

theorem run_expandSource_of_unread {expander : Expander} {source : Source} {failure : Failure}
    (htext : source.text = .error failure) (desk : Desk) :
    (expander.expandSource source).run desk = (.error failure, desk) := by
  unfold expandSource
  rw [Work.run_bind, Work.run_ofResult, htext]

theorem run_expandSource_of_unfound {expander : Expander} {source : Source} {t : Text}
    {failure : Failure} (htext : source.text = .ok t)
    (hfind : Directive.find source.path t = .error failure) (desk : Desk) :
    (expander.expandSource source).run desk = (.error failure, desk) := by
  unfold expandSource
  rw [Work.run_bind, Work.run_ofResult, htext]
  simp only
  rw [Work.run_bind, Work.run_ofResult, hfind]

theorem mapM_expand_of_plans (expander : Expander) {source : Source} {sites : List Site}
    {plans : List Plan}
    (h : List.Forall₂ (fun site plan => expander.plan source site = .ok plan) sites plans) :
    sites.mapM (expander.expand source) =
      (sites.zip plans).mapM fun part => expander.follow source part.1 part.2 := by
  induction h with
  | nil => rfl
  | cons hplan _ ih =>
    rw [List.zip_cons_cons, List.mapM_cons, List.mapM_cons, expand_of_plan hplan, ih]

-- All of a run on a source once its sites are known.
theorem run_expandSource {expander : Expander} {source : Source} {t : Text} {sites : List Site}
    (htext : source.text = .ok t) (hfind : Directive.find source.path t = .ok sites)
    (desk : Desk) :
    (expander.expandSource source).run desk =
      match (sites.mapM (expander.expand source)).run desk with
      | (.error failure, after) => (.error failure, after)
      | (.ok es, after) =>
        ((Splice.substituteAll t (es.map fun e => (e.site, e.snippet))).map (·, es), after) := by
  unfold expandSource
  rw [Work.run_bind, Work.run_ofResult, htext]
  simp only
  rw [Work.run_bind, Work.run_ofResult, hfind]
  simp only
  rw [Work.run_bind]
  cases (sites.mapM (expander.expand source)).run desk with
  | mk results after =>
    cases results with
    | error failure => rfl
    | ok es =>
      simp only
      rw [Work.run_bind, Work.run_ofResult]
      cases Splice.substituteAll t (es.map fun e => (e.site, e.snippet)) <;> rfl

theorem run_expandSource_ok {expander : Expander} {source : Source} {desk after : Desk}
    {t : Text} {es : List Expansion}
    (h : (expander.expandSource source).run desk = (.ok (t, es), after)) :
    ∃ whole sites, source.text = .ok whole ∧ Directive.find source.path whole = .ok sites ∧
      (sites.mapM (expander.expand source)).run desk = (.ok es, after) ∧
      Splice.substituteAll whole (es.map fun e => (e.site, e.snippet)) = .ok t := by
  cases htext : source.text with
  | error failure =>
    rw [run_expandSource_of_unread htext] at h
    cases h
  | ok whole =>
    cases hfind : Directive.find source.path whole with
    | error failure =>
      rw [run_expandSource_of_unfound htext hfind] at h
      cases h
    | ok sites =>
      rw [run_expandSource htext hfind] at h
      cases hrun : (sites.mapM (expander.expand source)).run desk with
      | mk results last =>
        rw [hrun] at h
        cases results with
        | error failure => cases h
        | ok expansions =>
          simp only at h
          cases hsplice : Splice.substituteAll whole
              (expansions.map fun e => (e.site, e.snippet)) with
          | error failure =>
            simp only [hsplice, Except.map] at h
            cases h
          | ok spliced =>
            simp only [hsplice, Except.map] at h
            cases h
            exact ⟨whole, sites, rfl, hfind, hrun, hsplice⟩

theorem Agree.text {first later : Expander} {source again : Source}
    (h : Agree first later source again) {t : Text} (htext : source.text = .ok t) :
    again.text = .ok t := by
  unfold Source.text at htext ⊢
  rw [h.content]
  cases hdecode : decode source.content with
  | error e => simp [hdecode] at htext
  | ok whole => simpa [hdecode] using htext

def emptyDesk : Desk :=
  ⟨⟨"/work".toList, .folder []⟩, .ofFolder (.ofText "records".toList), [], []⟩

-- An expander whose client always gives the same answer.
def answering (answer : Text) : Expander := ⟨.initial, some (.direct fun _ _ => .ok answer)⟩

-- An expander with neither a client nor a credential.
def bare : Expander := ⟨.initial, none⟩

-- A directive in a block.
def branch (path : String) : Source :=
  ⟨.ofText path.toList, encode "if a:\n    magic()\n".toList⟩

def branchSite : Site :=
  ⟨.ofText "a.py".toList, "magic".toList, [], ⟨2, 4⟩, ⟨2, 11⟩, "    ".toList⟩

def branchKey : Text :=
  ["a3629caf2115e826", "a7793728a5da6cce", "e2d9b7329c7f58de", "b9aab1c130ddd3ab"].flatMap
    String.toList

-- What the directive in the block comes to, by default settings.
def branchPlan : Plan where
  invocation := ⟨.empty, .english⟩
  seed := 624374819294307599
  model := "gpt-4o".toList
  key := branchKey

def branchDigest : Text :=
  ["08aa39970ebc650f", "adcc04af349fee53", "368c18011d8ed209", "69ae4c39e4110128"].flatMap
    String.toList

theorem plan_branch (path : String) (client : Option Client) :
    (Expander.mk .initial client).plan (branch path) branchSite = .ok branchPlan := by
  have hdigest : Key.digest (encode "if a:\n    magic()\n".toList) "magic".toList [] =
      branchDigest := by decide +kernel
  have hseed : seedFor .empty branchDigest = .ok branchPlan.seed :=
    ok_of_toOption (by decide +kernel)
  have hkey : Key.ofDigest branchDigest branchPlan.model = branchKey := by decide +kernel
  exact plan_eq_ok (ok_of_toOption (by decide +kernel)) hdigest hseed rfl hkey

end Expander

end Ghostwriter

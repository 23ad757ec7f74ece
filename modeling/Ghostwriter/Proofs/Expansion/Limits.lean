import Ghostwriter.Proofs.Cache.Seed
import Ghostwriter.Proofs.Directive.Payload
import Ghostwriter.Proofs.Expansion.History

/-!
What reaches a client. Every call adds to the requests that a client has had those of the directives
it comes to, and each of them is within the limits of the service, whatever the directive says.
-/

namespace Ghostwriter

open Ghostwriter.Lexeme Ghostwriter.Text

namespace Directive

-- Items set keys to values that these admit.
theorem admits_of_mem {options : List (List Lexeme)} {settings : List (Options.Key × Value)}
    (h : List.Forall₂ (fun item (s : Options.Key × Value) => Sets item s.1 s.2) options settings) :
    ∀ s ∈ settings, s.1.Admits s.2 := by
  induction h with
  | nil => simp
  | cons hitem _ ih =>
    obtain ⟨name, equals, value, -, -, -, -, -, hadmits⟩ := hitem
    exact List.forall_mem_cons.mpr ⟨hadmits, ih⟩

theorem Payload.admits_of_ofText {t : Text} {payload : Payload} {key : Options.Key} {v : Value}
    (h : ofText t = .ok payload) (hv : payload.options.value? key = some v) : key.Admits v := by
  obtain ⟨items, -, h⟩ := bind_eq_ok.mp h
  split_ifs at h with hblank
  · cases h
    rw [empty, Options.value?_empty] at hv
    cases hv
  · obtain ⟨options, prompts, settings, -, hsets, -, hvalues, -⟩ :=
      (addItems_eq_ok_iff.mp h).parts
    rw [hvalues key, List.lookup_eq_some_iff] at hv
    obtain ⟨before, behind, rfl, -⟩ := hv
    exact admits_of_mem hsets (key, v) (by simp)

-- What a payload sets is within the bounds of its keys.
theorem Payload.bounds_of_ofText {t : Text} {payload : Payload} (h : ofText t = .ok payload) :
    (∀ model ∈ payload.options.model, model ≠ []) ∧
      (∀ n ∈ payload.options.seed, n ≤ Options.maxSeed) ∧
      ∀ n ∈ payload.options.maxCompletionTokens, 1 ≤ n := by
  refine ⟨fun model hmodel => ?_, fun n hn => ?_, fun n hn => ?_⟩
  · have hadmits : Options.Key.model.Admits (.text model) :=
      admits_of_ofText h (congrArg (Option.map Value.text) hmodel)
    cases hadmits with
    | model hne => exact hne
  · have hadmits : Options.Key.seed.Admits (.int n) :=
      admits_of_ofText h (congrArg (Option.map fun n : Nat => Value.int n) hn)
    generalize hv : Value.int n = v at hadmits
    cases hadmits with
    | seed hsmall =>
      obtain rfl := Int.ofNat.inj (Value.int.inj hv)
      exact hsmall
  · have hadmits : Options.Key.maxCompletionTokens.Admits (.int n) :=
      admits_of_ofText h (congrArg (Option.map fun n : Nat => Value.int n) hn)
    generalize hv : Value.int n = v at hadmits
    cases hadmits with
    | maxCompletionTokens hpositive =>
      obtain rfl := Int.ofNat.inj (Value.int.inj hv)
      exact hpositive

-- The seed may be as small as zero, the number of tokens may not.
example : (["seed=0", "max_completion_tokens=0"].map fun t =>
    (Payload.ofText t.toList).toOption.isSome) = [true, false] := by decide +kernel

end Directive

-- A request within the limits of the service, for a directive with this payload.
structure Request.Fits (source : Source) (site : Site) (payload : Directive.Payload)
    (r : Request) : Prop where
  seed : 0 ≤ r.seed ∧ r.seed ≤ 9223372036854775807
  model : r.model ≠ []
  limit : ∀ n ∈ r.maxCompletionTokens, 1 ≤ n
  messages : ∃ instruction file, r.messages = [⟨.system, instruction⟩, ⟨.user, file⟩]
  -- the seed that is given, or the first 64 bits of the digest without the highest one
  seeded : r.seed = (payload.options.seed.getD
    (Key.leadingBits (Key.digest source.content site.entryPoint site.payload) % 2 ^ 63) : Nat)
  -- the token limit that is given, and no other
  limited : ∀ n, .maxCompletionTokens n ∈ r.parameters ↔
    n ∈ payload.options.maxCompletionTokens.map Int.ofNat

namespace Expander

variable {expander : Expander} {source : Source} {site : Site} {options : Options}

theorem seedFor_digest (options : Options) (source : Source) (site : Site) :
    seedFor options (Key.digest source.content site.entryPoint site.payload) =
      .ok (options.seed.getD
        (Key.leadingBits (Key.digest source.content site.entryPoint site.payload) % 2 ^ 63)) := by
  unfold seedFor
  cases options.seed with
  | some seed => rfl
  | none => exact Key.defaultSeed_digest _ _ _

theorem payload_of_ofDirective {entryPoint t : Text} {invocation : Invocation}
    (h : Invocation.ofDirective entryPoint t = .ok invocation) :
    Directive.Payload.ofText t = .ok invocation.payload := by
  unfold Invocation.ofDirective at h
  split at h
  · cases h
  · obtain ⟨payload, hpayload, h⟩ := bind_eq_ok.mp h
    cases h
    exact hpayload

theorem modelFor_ne_nil (haccepted : expander.settings.check = .ok expander.settings)
    (h : ∀ model ∈ options.model, model ≠ []) : expander.modelFor options ≠ [] := by
  unfold modelFor
  cases hmodel : options.model with
  | some model => exact h model hmodel
  | none =>
    intro hnil
    have hnil : expander.settings.defaultModel = [] := hnil
    rw [Settings.check, hnil] at haccepted
    cases haccepted

-- The request for one directive.
theorem fits_of_requestFor {plan : Plan} {request : Request}
    (haccepted : expander.settings.check = .ok expander.settings)
    (hplan : expander.plan source site = .ok plan)
    (hrequest : requestFor source site plan = .ok request) :
    ∃ payload, Directive.Payload.ofText site.payload = .ok payload ∧
      request.Fits source site payload := by
  obtain ⟨invocation, hinvocation, hplan⟩ := bind_eq_ok.mp hplan
  obtain ⟨seed, hseed, hplan⟩ := bind_eq_ok.mp hplan
  rw [seedFor_digest] at hseed
  cases hseed
  cases hplan
  obtain ⟨messages, hmessages, hrequest⟩ := bind_eq_ok.mp hrequest
  cases hrequest
  obtain ⟨instruction, -, hmessages⟩ := bind_eq_ok.mp hmessages
  cases hmessages
  have hpayload := payload_of_ofDirective hinvocation
  obtain ⟨hmodel, hseed, hlimit⟩ := Directive.Payload.bounds_of_ofText hpayload
  refine ⟨invocation.payload, hpayload, ⟨Int.natCast_nonneg _, ?_⟩, ?_, ?_, ⟨_, _, rfl⟩, rfl, ?_⟩
  · have hsmall : invocation.payload.options.seed.getD
        (Key.leadingBits (Key.digest source.content site.entryPoint site.payload) % 2 ^ 63) ≤
          Options.maxSeed := by
      cases hgiven : invocation.payload.options.seed with
      | some n => exact hseed n hgiven
      | none => exact Nat.le_of_lt_succ (Nat.mod_lt _ (by decide))
    exact Int.ofNat_le.mpr hsmall
  · exact modelFor_ne_nil haccepted hmodel
  · intro n hn
    obtain ⟨m, hm, rfl⟩ := Option.map_eq_some_iff.mp hn
    exact Int.ofNat_le.mpr (hlimit m hm)
  · intro n
    simp [Request.parameters]

end Expander

theorem Visit.sent_after (v : Visit) : v.after.sent = v.desk.sent ++ v.course.requests := by
  obtain ⟨events, hrun⟩ := Expander.run_expand v.expander v.source v.site v.desk
  rw [after, hrun]
  exact (Expander.leaves_course v.expander v.source v.site v.desk).sent

namespace Expander

theorem sent_visits (expander : Expander) (source : Source) (sites : List Site) (desk : Desk) :
    ((sites.mapM (expander.expand source)).run desk).2.sent =
      desk.sent ++ (expander.visits source sites desk).flatMap (·.course.requests) := by
  induction sites generalizing desk with
  | nil => simp [visits]
  | cons site rest ih =>
    have hfirst := Visit.sent_after ⟨expander, source, site, desk⟩
    unfold Visit.after at hfirst
    unfold visits
    rw [Work.run_mapM_cons, List.flatMap_cons]
    simp only at hfirst
    cases hrun : (expander.expand source site).run desk with
    | mk result after =>
      rw [hrun] at hfirst
      cases result with
      | error failure => simpa using hfirst
      | ok e =>
        have hrest := ih after
        rw [hfirst, List.append_assoc] at hrest
        simp only
        cases hothers : (rest.mapM (expander.expand source)).run after with
        | mk results last =>
          rw [hothers] at hrest
          cases results <;> exact hrest

theorem sent_visitsOfSource (expander : Expander) (source : Source) (desk : Desk) :
    ((expander.expandSource source).run desk).2.sent =
      desk.sent ++ (expander.visitsOfSource source desk).flatMap (·.course.requests) := by
  unfold visitsOfSource
  cases htext : source.text with
  | error failure =>
    rw [run_expandSource_of_unread htext]
    simp
  | ok t =>
    simp only
    cases hfind : Directive.find source.path t with
    | error failure =>
      rw [run_expandSource_of_unfound htext hfind]
      simp
    | ok sites =>
      have hvisits := sent_visits expander source sites desk
      rw [run_expandSource htext hfind]
      simp only
      cases hrun : (sites.mapM (expander.expand source)).run desk with
      | mk results after =>
        rw [hrun] at hvisits
        cases results <;> exact hvisits

theorem sent_makeFolders (p : Path) (desk : Desk) :
    ((makeFolders p).run desk).2.sent = desk.sent := by
  unfold makeFolders
  rw [Work.run_bind, Work.run_get]
  simp only
  rw [Work.run_bind, Work.run_set]
  cases (desk.disk.makeFolders p).1 <;> rfl

theorem sent_writeFile (p : Path) (t : Text) (desk : Desk) :
    ((writeFile p t).run desk).2.sent = desk.sent := by
  unfold writeFile
  rw [Work.run_bind, Work.run_get]
  simp only
  cases desk.disk.writeFile p (encode t) <;> rfl

-- What a build does behind its expansions asks for nothing.
theorem sent_build {expander : Expander} {p target : Path} {desk : Desk} {source : Source}
    (h : Source.collect desk.disk p = .ok source) :
    ((expander.build p target).run desk).2.sent =
      ((expander.expandSource source).run desk).2.sent := by
  unfold build
  rw [Work.run_bind, run_collect, h]
  simp only
  rw [Work.run_bind]
  cases (expander.expandSource source).run desk with
  | mk result expanded =>
    cases result with
    | error failure => rfl
    | ok found =>
      have hmade := sent_makeFolders target.parent expanded
      simp only
      rw [Work.run_bind]
      cases hfolders : (makeFolders target.parent).run expanded with
      | mk result made =>
        rw [hfolders] at hmade
        cases result with
        | error failure => exact hmade
        | ok _ =>
          have hwritten := sent_writeFile target found.1 made
          simp only
          rw [Work.run_bind]
          cases hfile : (writeFile target found.1).run made with
          | mk result written =>
            rw [hfile] at hwritten
            cases result <;> exact hwritten.trans hmade

end Expander

-- The requests that an entry comes with.
def Entry.requests : Entry → List Request
  | visit v => v.course.requests
  | discarded _ => []
  | written _ _ => []

-- A call adds the requests of the directives that it comes to.
theorem Call.sent_leave (call : Call) (desk : Desk) :
    (call.leave desk).sent = desk.sent ++ (call.entries desk).flatMap Entry.requests := by
  have hvisits (vs : List Visit) :
      (vs.map Entry.visit).flatMap Entry.requests = vs.flatMap (·.course.requests) :=
    List.flatMap_map ..
  unfold entries
  cases hdeed : call.deed with
  | expand source site =>
    simp only [leave, hdeed, List.flatMap_singleton]
    exact Visit.sent_after ⟨call.expander, source, site, desk⟩
  | expandSource source =>
    simp only [leave, hdeed, hvisits]
    exact call.expander.sent_visitsOfSource source desk
  | expandFile p =>
    simp only [leave, hdeed]
    rw [Expander.run_expandFile]
    cases Source.collect desk.disk p with
    | error failure => simp
    | ok source =>
      simp only [hvisits]
      exact call.expander.sent_visitsOfSource source desk
  | build p target =>
    simp only
    cases hcollect : Source.collect desk.disk p with
    | error failure =>
      simp only [leave, hdeed]
      rw [Expander.run_build_of_unread hcollect]
      simp
    | ok source =>
      simp only [leave, hdeed, List.flatMap_append, hvisits]
      rw [Expander.sent_build hcollect, Expander.sent_visitsOfSource]
      simp [Entry.requests]

theorem Call.expander_of_mem_entries {call : Call} {desk : Desk} {v : Visit}
    (h : .visit v ∈ call.entries desk) : v.expander = call.expander := by
  have hsource {source : Source} {vs : List Visit}
      (hvs : vs = call.expander.visitsOfSource source desk) (hv : Entry.visit v ∈ vs.map .visit) :
      v.expander = call.expander := by
    obtain ⟨w, hw, heq⟩ := List.mem_map.mp hv
    obtain rfl := Entry.visit.inj heq
    exact Expander.expander_of_mem_visitsOfSource (hvs ▸ hw)
  unfold entries at h
  split at h
  · rw [List.mem_singleton, Entry.visit.injEq] at h
    rw [h]
  · exact hsource rfl h
  · split at h
    · cases h
    · exact hsource rfl h
  · split at h
    · cases h
    · rw [List.mem_append, List.mem_singleton] at h
      exact hsource rfl (h.resolve_right fun heq => nomatch heq)

-- With settings that are accepted, what any call sends are the requests of the directives it comes
-- to, and each of them is within the limits of the service and asks for what its directive says.
theorem Call.requests_fit (call : Call) (desk : Desk)
    (haccepted : call.expander.settings.check = .ok call.expander.settings) :
    (call.leave desk).sent = desk.sent ++ (call.entries desk).flatMap Entry.requests ∧
      ∀ v, .visit v ∈ call.entries desk → ∀ r ∈ v.course.requests,
        ∃ payload, Directive.Payload.ofText v.site.payload = .ok payload ∧
          r.Fits v.source v.site payload := by
  refine ⟨call.sent_leave desk, fun v hv r hr => ?_⟩
  obtain ⟨plan, client, hplan, hrequest, -, -⟩ :=
    (Expander.leaves_course v.expander v.source v.site v.desk).asked r hr
  rw [← Call.expander_of_mem_entries hv] at haccepted
  exact Expander.fits_of_requestFor haccepted hplan hrequest

-- A directive made by hand, which stands nowhere in its source.
def limitedSite : Site :=
  ⟨.ofText "a.py".toList, "do_it".toList, "max_completion_tokens = 7".toList, ⟨1, 0⟩, ⟨1, 9⟩, []⟩

def limitedCall : Call :=
  ⟨Expander.answering "x = 1\n".toList, 0, 0, [], .expand (Expander.branch "a.py") limitedSite⟩

theorem requests_fit_limited :
    limitedCall.expander.settings.check = .ok limitedCall.expander.settings ∧
      ∃ r, (limitedCall.leave Expander.emptyDesk).sent = [r] ∧
        r.Fits (Expander.branch "a.py") limitedSite ⟨⟨none, none, some 7⟩, none⟩ := by
  have haccepted : limitedCall.expander.settings.check = .ok limitedCall.expander.settings := rfl
  obtain ⟨hsent, hfits⟩ := limitedCall.requests_fit Expander.emptyDesk haccepted
  have hcount : (limitedCall.leave Expander.emptyDesk).sent.length = 1 := by decide +kernel
  obtain ⟨r, hr⟩ := List.length_eq_one_iff.mp hcount
  refine ⟨haccepted, r, hr, ?_⟩
  have hmem : r ∈ (limitedCall.entries Expander.emptyDesk).flatMap Entry.requests := by
    rw [hr] at hsent
    have hempty : Expander.emptyDesk.sent = [] := rfl
    rw [hempty, List.nil_append] at hsent
    rw [← hsent]
    exact List.mem_singleton_self r
  obtain ⟨entry, hentry, hrequest⟩ := List.mem_flatMap.mp hmem
  obtain rfl := List.mem_singleton.mp hentry
  obtain ⟨payload, hpayload, hfit⟩ := hfits _ hentry r hrequest
  have hread : Directive.Payload.ofText limitedSite.payload =
      .ok ⟨⟨none, none, some 7⟩, none⟩ := ok_of_toOption (by decide +kernel)
  obtain rfl := Except.ok.inj (hpayload.symm.trans hread)
  exact hfit

end Ghostwriter

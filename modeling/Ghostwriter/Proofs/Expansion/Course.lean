import Ghostwriter.Expansion.File
import Ghostwriter.Proofs.Cache.Digest
import Ghostwriter.Proofs.Cache.Record
import Ghostwriter.Proofs.Failure.Result

/-!
The course of an expansion: where the text for a directive comes from, or why there is none. It is
told from the directive and the desk alone, and decides the result and all that the desk becomes.
-/

namespace Ghostwriter

open Ghostwriter.Text

namespace Work

variable {α β : Type}

@[simp] theorem run_pure (a : α) (desk : Desk) : (pure a : Work α).run desk = (.ok a, desk) := rfl

theorem run_bind (work : Work α) (next : α → Work β) (desk : Desk) :
    (work >>= next).run desk =
      match work.run desk with
      | (.ok a, desk) => (next a).run desk
      | (.error e, desk) => (.error e, desk) := by
  show ExceptT.bindCont next (work.run desk).1 (work.run desk).2 = _
  obtain ⟨result, after⟩ := work.run desk
  cases result <;> rfl

@[simp] theorem run_get (desk : Desk) : (get : Work Desk).run desk = (.ok desk, desk) := rfl

@[simp] theorem run_set (later desk : Desk) :
    (set later : Work PUnit).run desk = (.ok ⟨⟩, later) := rfl

@[simp] theorem run_ofResult (result : Result α) (desk : Desk) :
    (ofResult result).run desk = (result, desk) := rfl

@[simp] theorem run_report (events : List Event) (desk : Desk) :
    (report events).run desk = (.ok (), { desk with events := desk.events ++ events }) := rfl

@[simp] theorem run_lookup (key : Text) (desk : Desk) :
    (lookup key).run desk =
      ((desk.cache.lookup desk.disk key).1,
        { desk with
          cache := (desk.cache.lookup desk.disk key).2.1
          events := desk.events ++ (desk.cache.lookup desk.disk key).2.2 }) := rfl

@[simp] theorem run_store (key t : Text) (desk : Desk) :
    (store key t).run desk =
      ((desk.cache.store desk.disk key t).1,
        { desk with
          disk := (desk.cache.store desk.disk key t).2.1
          events := desk.events ++ (desk.cache.store desk.disk key t).2.2 }) := rfl

@[simp] theorem run_ask (client : Client) (request : Request) (desk : Desk) :
    (ask client request).run desk =
      ((client.complete desk.sent request).1.mapError Failure.fault,
        { desk with
          sent := desk.sent ++ [request]
          events := desk.events ++ (client.complete desk.sent request).2 }) := rfl

theorem run_locate (location : Text) (work : Work α) (desk : Desk) :
    (locate location work).run desk =
      ((work.run desk).1.mapError (Failure.locate location), (work.run desk).2) := by
  refine (congrFun (ExceptT.run_tryCatch work _) desk).trans ?_
  simp only [bind, StateT.bind]
  obtain ⟨result, after⟩ := work.run desk
  cases result <;> rfl

end Work

inductive Course where
  -- the directive cannot be read
  | refused (failure : Failure)
  -- the record cannot be read
  | unreadable (plan : Plan) (failure : Failure)
  | reused (plan : Plan) (text : Text)
  -- there is no record, and no request or client could be made
  | unasked (plan : Plan) (failure : Failure)
  | unanswered (plan : Plan) (request : Request) (failure : Failure)
  -- the answer could not be stored
  | unkept (plan : Plan) (request : Request) (text : Text) (failure : Failure)
  | answered (plan : Plan) (request : Request) (text : Text)

namespace Course

def plan? : Course → Option Plan
  | refused _ => none
  | unreadable plan _ | reused plan _ | unasked plan _ | unanswered plan _ _ | unkept plan _ _ _
  | answered plan _ _ => some plan

-- The requests that are sent.
def requests : Course → List Request
  | refused _ | unreadable _ _ | reused _ _ | unasked _ _ => []
  | unanswered _ request _ | unkept _ request _ _ | answered _ request _ => [request]

-- What the client has answered.
def answer? : Course → Option Text
  | unkept _ _ text _ | answered _ _ text => some text
  | refused _ | unreadable _ _ | reused _ _ | unasked _ _ | unanswered _ _ _ => none

-- The text for the directive, which is in the cache by then.
def text : Course → Result Text
  | refused failure | unreadable _ failure | unasked _ failure | unanswered _ _ failure
  | unkept _ _ _ failure => .error failure
  | reused _ text | answered _ _ text => .ok text

end Course

-- What becomes of a text for a directive.
def Plan.outcome (plan : Plan) (unwraps : Bool) (site : Site) (text : Text)
    (reused : Bool) : Result Expansion := do
  let snippet ← Snippet.ofResponse unwraps text
  .ok ⟨site, plan.key, plan.seed, plan.model, snippet, reused⟩

theorem Plan.outcome_eq_ok_iff {plan : Plan} {unwraps : Bool} {site : Site} {text : Text}
    {reused : Bool} {e : Expansion} :
    plan.outcome unwraps site text reused = .ok e ↔
      ∃ snippet, Snippet.ofResponse unwraps text = .ok snippet ∧
        e = ⟨site, plan.key, plan.seed, plan.model, snippet, reused⟩ := by
  simp only [Plan.outcome, bind_eq_ok, Except.ok.injEq, @eq_comm _ _ e]

def Course.outcome (unwraps : Bool) (site : Site) : Course → Result Expansion
  | reused plan text => plan.outcome unwraps site text true
  | answered plan _ text => plan.outcome unwraps site text false
  | refused failure | unreadable _ failure | unasked _ failure | unanswered _ _ failure
  | unkept _ _ _ failure => .error failure

namespace Expander

-- The course where an answer has come, and the desk after it.
def keep (plan : Plan) (request : Request) (text : Text) (desk : Desk) : Course × Desk :=
  let (kept, disk, told) := desk.cache.store desk.disk plan.key text
  let desk := { desk with disk := disk, events := desk.events ++ told }
  match kept with
  | .error failure => (.unkept plan request text failure, desk)
  | .ok _ => (.answered plan request text, desk)

-- The course where there is no record, and the desk after it.
def inquire (expander : Expander) (source : Source) (site : Site) (plan : Plan) (desk : Desk) :
    Course × Desk :=
  match requestFor source site plan with
  | .error failure => (.unasked plan failure, desk)
  | .ok request =>
    match expander.clientOf with
    | .error fault => (.unasked plan (.fault fault), desk)
    | .ok client =>
      let (answer, told) := client.complete desk.sent request
      let desk := { desk with sent := desk.sent ++ [request], events := desk.events ++ told }
      match answer with
      | .error fault => (.unanswered plan request (.fault fault), desk)
      | .ok text => keep plan request text desk

-- The course for a directive, and the desk after it.
def course (expander : Expander) (source : Source) (site : Site) (desk : Desk) : Course × Desk :=
  match expander.plan source site with
  | .error failure => (.refused failure, desk)
  | .ok plan =>
    let (record, cache, told) := desk.cache.lookup desk.disk plan.key
    let desk := { desk with cache := cache, events := desk.events ++ told }
    match record with
    | .error failure => (.unreadable plan failure, desk)
    | .ok (some text) => (.reused plan text, desk)
    | .ok none => expander.inquire source site plan desk

theorem run_settle (expander : Expander) (site : Site) (plan : Plan) (reused : Bool) (text : Text)
    (desk : Desk) :
    ∃ events, (expander.settle site plan reused text).run desk =
      (plan.outcome expander.settings.unwrapFences site text reused,
        { desk with events := events }) := by
  unfold settle Plan.outcome
  rw [Work.run_bind, Work.run_ofResult]
  cases Snippet.ofResponse expander.settings.unwrapFences text with
  | error failure => exact ⟨desk.events, rfl⟩
  | ok snippet => exact ⟨_, rfl⟩

theorem run_keep (plan : Plan) (request : Request) (text : Text) (desk : Desk) :
    (do let _ ← Work.store plan.key text; pure text : Work Text).run desk =
      ((keep plan request text desk).1.text, (keep plan request text desk).2) := by
  unfold keep
  rw [Work.run_bind, Work.run_store]
  generalize desk.cache.store desk.disk plan.key text = stored
  obtain ⟨kept, disk, told⟩ := stored
  cases kept <;> rfl

theorem run_generate (expander : Expander) (source : Source) (site : Site) (plan : Plan)
    (desk : Desk) :
    (expander.generate source site plan).run desk =
      ((expander.inquire source site plan desk).1.text,
        (expander.inquire source site plan desk).2) := by
  unfold generate inquire
  rw [Work.run_bind, Work.run_ofResult]
  cases requestFor source site plan with
  | error failure => rfl
  | ok request =>
    simp only
    rw [Work.run_bind, Work.run_ofResult]
    cases expander.clientOf with
    | error fault => rfl
    | ok client =>
      simp only [Except.mapError]
      rw [Work.run_bind, Work.run_ask]
      generalize client.complete desk.sent request = answer
      obtain ⟨answer, told⟩ := answer
      cases answer with
      | error fault => rfl
      | ok text => exact run_keep ..

-- The course of an inquiry is one of the last four, for the plan that it was made for.
theorem outcome_inquire (expander : Expander) (source : Source) (site : Site) (plan : Plan)
    (desk : Desk) (unwraps : Bool) :
    (expander.inquire source site plan desk).1.outcome unwraps site =
      (expander.inquire source site plan desk).1.text >>= fun text =>
        plan.outcome unwraps site text false := by
  unfold inquire
  cases requestFor source site plan with
  | error failure => rfl
  | ok request =>
    cases expander.clientOf with
    | error fault => rfl
    | ok client =>
      simp only
      generalize client.complete desk.sent request = answer
      obtain ⟨answer, told⟩ := answer
      cases answer with
      | error fault => rfl
      | ok text =>
        simp only [keep]
        generalize desk.cache.store desk.disk plan.key text = stored
        obtain ⟨kept, disk, told⟩ := stored
        cases kept <;> rfl

-- Expanding goes by the course, and adds at most an event to it.
theorem run_expandHere (expander : Expander) (source : Source) (site : Site) (desk : Desk) :
    ∃ events, (expander.expandHere source site).run desk =
      ((expander.course source site desk).1.outcome expander.settings.unwrapFences site,
        { (expander.course source site desk).2 with events := events }) := by
  unfold expandHere course
  rw [Work.run_bind, Work.run_ofResult]
  cases expander.plan source site with
  | error failure => exact ⟨desk.events, rfl⟩
  | ok plan =>
    simp only
    rw [Work.run_bind, Work.run_lookup]
    generalize desk.cache.lookup desk.disk plan.key = found
    obtain ⟨record, cache, told⟩ := found
    cases record with
    | error failure => exact ⟨_, rfl⟩
    | ok record =>
      cases record with
      | some text => exact run_settle ..
      | none =>
        simp only
        generalize ({ desk with cache := cache, events := desk.events ++ told } : Desk) = desk
        rw [Work.run_bind, run_generate, outcome_inquire]
        cases (expander.inquire source site plan desk).1.text with
        | error failure => exact ⟨_, rfl⟩
        | ok text => exact run_settle ..

theorem run_expand (expander : Expander) (source : Source) (site : Site) (desk : Desk) :
    ∃ events, (expander.expand source site).run desk =
      (((expander.course source site desk).1.outcome expander.settings.unwrapFences site).mapError
          (Failure.locate site.location),
        { (expander.course source site desk).2 with events := events }) := by
  obtain ⟨events, hrun⟩ := run_expandHere expander source site desk
  refine ⟨events, ?_⟩
  unfold expand
  rw [Work.run_locate, hrun]

-- A plan from its parts.
theorem plan_eq_ok {expander : Expander} {source : Source} {site : Site} {invocation : Invocation}
    {digest : Text} {seed : Nat} {model key : Text}
    (hinvocation : Invocation.ofDirective site.entryPoint site.payload = .ok invocation)
    (hdigest : Key.digest source.content site.entryPoint site.payload = digest)
    (hseed : seedFor invocation.payload.options digest = .ok seed)
    (hmodel : expander.modelFor invocation.payload.options = model)
    (hkey : Key.ofDigest digest model = key) :
    expander.plan source site = .ok ⟨invocation, seed, model, key⟩ := by
  simp only [plan, hinvocation, hdigest, bind, Except.bind, hseed, hmodel, hkey]

-- The course for a directive with this plan, and the desk after it.
def courseOf (expander : Expander) (source : Source) (site : Site) (plan : Plan) (desk : Desk) :
    Course × Desk :=
  let (record, cache, told) := desk.cache.lookup desk.disk plan.key
  let desk := { desk with cache := cache, events := desk.events ++ told }
  match record with
  | .error failure => (.unreadable plan failure, desk)
  | .ok (some text) => (.reused plan text, desk)
  | .ok none => expander.inquire source site plan desk

-- What is done for a directive with this plan.
def follow (expander : Expander) (source : Source) (site : Site) (plan : Plan) : Work Expansion :=
  Work.locate site.location do
    let record ← Work.lookup plan.key
    match record with
    | some text => expander.settle site plan true text
    | none => do
      let text ← expander.generate source site plan
      expander.settle site plan false text

section

variable {expander : Expander} {source : Source} {site : Site} {plan : Plan}

theorem course_of_plan (h : expander.plan source site = .ok plan) (desk : Desk) :
    expander.course source site desk = expander.courseOf source site plan desk := by
  unfold course
  rw [h]
  rfl

theorem expand_of_plan (h : expander.plan source site = .ok plan) :
    expander.expand source site = expander.follow source site plan := by
  unfold expand expandHere
  rw [h]
  rfl

end

theorem isKey_of_plan {expander : Expander} {source : Source} {site : Site} {plan : Plan}
    (h : expander.plan source site = .ok plan) : Cache.isKey plan.key := by
  obtain ⟨invocation, -, h⟩ := bind_eq_ok.mp h
  obtain ⟨seed, -, h⟩ := bind_eq_ok.mp h
  rw [← Except.ok.inj h]
  exact Key.isKey_ofDigest _ _

end Expander

namespace Course

-- What was found under the key of a directive before its course, and the disk after it.
inductive Leads (folder : Path) (disk : Disk) : Course → Disk → Prop
  | refused (failure : Failure) : Leads folder disk (.refused failure) disk
  | unreadable (plan : Plan) (failure : Failure) :
    Leads folder disk (.unreadable plan failure) disk
  | reused (plan : Plan) (text : Text) (found : Cache.record folder disk plan.key = some text) :
    Leads folder disk (.reused plan text) disk
  | unasked (plan : Plan) (failure : Failure) (missing : Cache.Missing folder disk plan.key) :
    Leads folder disk (.unasked plan failure) disk
  | unanswered (plan : Plan) (request : Request) (failure : Failure)
    (missing : Cache.Missing folder disk plan.key) :
    Leads folder disk (.unanswered plan request failure) disk
  | unkept (plan : Plan) (request : Request) (text : Text) (failure : Failure)
    (missing : Cache.Missing folder disk plan.key) :
    Leads folder disk (.unkept plan request text failure)
      ((Cache.ofFolder folder).store disk plan.key text).2.1
  | answered (plan : Plan) (request : Request) (text : Text) (p : Path)
    (missing : Cache.Missing folder disk plan.key)
    (kept : ((Cache.ofFolder folder).store disk plan.key text).1 = .ok p) :
    Leads folder disk (.answered plan request text)
      ((Cache.ofFolder folder).store disk plan.key text).2.1

-- The request for a directive goes to a client, in the light of earlier ones, and gets this answer.
def Asks (expander : Expander) (source : Source) (site : Site) (sent : List Request)
    (request : Request) (answer : Option Text) : Prop :=
  ∃ plan client, expander.plan source site = .ok plan ∧
    Expander.requestFor source site plan = .ok request ∧ expander.clientOf = .ok client ∧
    (client.complete sent request).1.toOption = answer

-- All that can be said of a course and the desk after it.
structure Leaves (expander : Expander) (source : Source) (site : Site) (desk : Desk)
    (course : Course) (after : Desk) : Prop where
  plan : course.plan? = (expander.plan source site).toOption
  folder : after.cache.folder = desk.cache.folder
  sent : after.sent = desk.sent ++ course.requests
  asked : ∀ request ∈ course.requests,
    Asks expander source site desk.sent request course.answer?
  leads : course.Leads desk.cache.folder desk.disk after.disk

end Course

namespace Expander

theorem leaves_keep {expander : Expander} {source : Source} {site : Site} {plan : Plan}
    {desk asked : Desk} {request : Request} {text : Text}
    (hplan : expander.plan source site = .ok plan)
    (hmissing : Cache.Missing desk.cache.folder desk.disk plan.key)
    (hfolder : asked.cache.folder = desk.cache.folder) (hdisk : asked.disk = desk.disk)
    (hsent : asked.sent = desk.sent ++ [request])
    (hasked : Course.Asks expander source site desk.sent request (some text)) :
    (keep plan request text asked).1.Leaves expander source site desk
      (keep plan request text asked).2 := by
  have hstore : asked.cache.store asked.disk plan.key text =
      (Cache.ofFolder desk.cache.folder).store desk.disk plan.key text := by
    rw [hdisk, ← hfolder]
    rfl
  unfold keep
  rw [hstore]
  cases hstored : (Cache.ofFolder desk.cache.folder).store desk.disk plan.key text with
  | mk kept rest =>
    obtain ⟨disk, told⟩ := rest
    cases kept with
    | error failure =>
      refine ⟨by rw [hplan]; rfl, hfolder, hsent, List.forall_mem_singleton.mpr hasked, ?_⟩
      have hleads := Course.Leads.unkept plan request text failure hmissing
      rwa [hstored] at hleads
    | ok p =>
      refine ⟨by rw [hplan]; rfl, hfolder, hsent, List.forall_mem_singleton.mpr hasked, ?_⟩
      have hleads := Course.Leads.answered plan request text p hmissing (by rw [hstored])
      rwa [hstored] at hleads

theorem leaves_inquire {expander : Expander} {source : Source} {site : Site} {plan : Plan}
    {desk looked : Desk} (hplan : expander.plan source site = .ok plan)
    (hmissing : Cache.Missing desk.cache.folder desk.disk plan.key)
    (hfolder : looked.cache.folder = desk.cache.folder) (hdisk : looked.disk = desk.disk)
    (hsent : looked.sent = desk.sent) :
    (expander.inquire source site plan looked).1.Leaves expander source site desk
      (expander.inquire source site plan looked).2 := by
  have hunasked (failure : Failure) :
      (Course.unasked plan failure).Leaves expander source site desk looked := by
    refine ⟨by rw [hplan]; rfl, hfolder, by simp [Course.requests, hsent],
      by simp [Course.requests], ?_⟩
    rw [hdisk]
    exact .unasked plan failure hmissing
  unfold inquire
  cases hrequest : requestFor source site plan with
  | error failure => exact hunasked failure
  | ok request =>
    cases hclient : expander.clientOf with
    | error fault => exact hunasked (.fault fault)
    | ok client =>
      simp only
      rw [hsent]
      cases hanswer : client.complete desk.sent request with
      | mk answer told =>
        cases answer with
        | error fault =>
          have hasked : Course.Asks expander source site desk.sent request none :=
            ⟨plan, client, hplan, hrequest, hclient, by rw [hanswer]; rfl⟩
          refine ⟨by rw [hplan]; rfl, hfolder, rfl, List.forall_mem_singleton.mpr hasked, ?_⟩
          simp only
          rw [hdisk]
          exact .unanswered plan request _ hmissing
        | ok text =>
          have hasked : Course.Asks expander source site desk.sent request (some text) :=
            ⟨plan, client, hplan, hrequest, hclient, by rw [hanswer]; rfl⟩
          refine leaves_keep hplan hmissing ?_ ?_ rfl hasked
          · exact hfolder
          · exact hdisk

theorem leaves_course (expander : Expander) (source : Source) (site : Site) (desk : Desk) :
    (expander.course source site desk).1.Leaves expander source site desk
      (expander.course source site desk).2 := by
  unfold course
  cases hplan : expander.plan source site with
  | error failure =>
    exact ⟨by rw [hplan]; rfl, rfl, by simp [Course.requests], by simp [Course.requests],
      .refused failure⟩
  | ok plan =>
    have hfolder := Cache.lookup_folder desk.cache desk.disk plan.key
    simp only
    cases hfound : desk.cache.lookup desk.disk plan.key with
    | mk record rest =>
      obtain ⟨cache, told⟩ := rest
      rw [hfound] at hfolder
      cases record with
      | error failure =>
        exact ⟨by rw [hplan]; rfl, hfolder, by simp [Course.requests],
          by simp [Course.requests], .unreadable plan failure⟩
      | ok record =>
        cases record with
        | some text =>
          have hrecord := Cache.record_of_lookup (congrArg Prod.fst hfound)
          exact ⟨by rw [hplan]; rfl, hfolder, by simp [Course.requests],
            by simp [Course.requests], .reused plan text hrecord⟩
        | none =>
          have hmissing := Cache.missing_of_lookup (congrArg Prod.fst hfound)
          exact leaves_inquire hplan hmissing hfolder rfl rfl

-- Where there is a record, it is reused.
theorem course_of_record {expander : Expander} {source : Source} {site : Site} {plan : Plan}
    {desk : Desk} {text : Text} (hplan : expander.plan source site = .ok plan)
    (hrecord : Cache.record desk.cache.folder desk.disk plan.key = some text) :
    (expander.course source site desk).1 = .reused plan text := by
  unfold course
  rw [hplan]
  simp only
  rw [Cache.lookup_of_record (isKey_of_plan hplan) hrecord]

end Expander

namespace Course

-- The text of a directive is on record after its course, and its check is the outcome.
theorem Leads.record_of_text {folder : Path} {disk after : Disk} {course : Course} {text : Text}
    (h : course.Leads folder disk after) (hkey : ∀ plan ∈ course.plan?, Cache.isKey plan.key)
    (htext : course.text = .ok text) :
    ∃ plan reused, course.plan? = some plan ∧ Cache.record folder after plan.key = some text ∧
      ∀ unwraps site, course.outcome unwraps site = plan.outcome unwraps site text reused := by
  cases h with
  | reused plan text' found =>
    cases htext
    exact ⟨plan, true, rfl, found, fun _ _ => rfl⟩
  | answered plan request text' p missing kept =>
    cases htext
    have hrecord := Cache.record_of_store (hkey plan rfl) missing kept
    exact ⟨plan, false, rfl, hrecord, fun _ _ => rfl⟩
  | refused | unreadable | unasked | unanswered | unkept => cases htext

theorem Leads.disk_of_reused {folder : Path} {disk after : Disk} {plan : Plan} {text : Text}
    (h : (Course.reused plan text).Leads folder disk after) : after = disk := by
  cases h
  rfl

-- No course changes a record.
theorem Leads.record_of_record {folder : Path} {disk after : Disk} {course : Course}
    {key text : Text} (h : course.Leads folder disk after) (hkey : Cache.isKey key)
    (hrecord : Cache.record folder disk key = some text) :
    Cache.record folder after key = some text := by
  cases h with
  | unkept | answered => exact Cache.record_store_of_record hkey hrecord
  | refused | unreadable | reused | unasked | unanswered => exact hrecord

end Course

namespace Expander

-- The text that a course leads to, and where it is from: on record, or the answer to its request.
structure Comes (expander : Expander) (source : Source) (site : Site) (desk : Desk)
    (course : Course) (after : Desk) (plan : Plan) (text : Text) (e : Expansion) : Prop where
  planned : expander.plan source site = .ok plan
  settled : plan.outcome expander.settings.unwrapFences site text e.cached = .ok e
  folder : after.cache.folder = desk.cache.folder
  origin :
    (e.cached = true ∧ Cache.record desk.cache.folder desk.disk plan.key = some text ∧
      after.disk = desk.disk ∧ after.sent = desk.sent) ∨
    (e.cached = false ∧ Cache.Missing desk.cache.folder desk.disk plan.key ∧
      ∃ request client p, course.requests = [request] ∧
        requestFor source site plan = .ok request ∧ expander.clientOf = .ok client ∧
        (client.complete desk.sent request).1 = .ok text ∧
        ((Cache.ofFolder desk.cache.folder).store desk.disk plan.key text).1 = .ok p ∧
        after.disk = ((Cache.ofFolder desk.cache.folder).store desk.disk plan.key text).2.1 ∧
        after.sent = desk.sent ++ [request])

theorem comes_of_leaves {expander : Expander} {source : Source} {site : Site} {desk left : Desk}
    {course : Course} {e : Expansion} (hleaves : course.Leaves expander source site desk left)
    (houtcome : course.outcome expander.settings.unwrapFences site = .ok e) :
    ∃ plan text, expander.Comes source site desk course left plan text e := by
  obtain ⟨hplan, hfolder, hsent, hasked, hleads⟩ := hleaves
  generalize hdisk : left.disk = disk at hleads
  cases hleads with
  | reused plan text found =>
    have hcached : e.cached = true := by
      obtain ⟨snippet, -, rfl⟩ := Plan.outcome_eq_ok_iff.mp houtcome
      rfl
    refine ⟨plan, text, ok_of_toOption hplan.symm, hcached ▸ houtcome, hfolder,
      .inl ⟨hcached, found, hdisk, ?_⟩⟩
    simpa [Course.requests] using hsent
  | answered plan request text p missing kept =>
    have hcached : e.cached = false := by
      obtain ⟨snippet, -, rfl⟩ := Plan.outcome_eq_ok_iff.mp houtcome
      rfl
    have hplan := ok_of_toOption hplan.symm
    obtain ⟨_, client, hplan', hrequest, hclient, hanswer⟩ :=
      hasked request (by simp [Course.requests])
    obtain rfl := Except.ok.inj (hplan'.symm.trans hplan)
    exact ⟨_, text, hplan, hcached ▸ houtcome, hfolder,
      .inr ⟨hcached, missing, request, client, p, rfl, hrequest, hclient,
        ok_of_toOption hanswer, kept, hdisk, hsent⟩⟩
  | refused | unreadable | unasked | unanswered | unkept => cases houtcome

theorem comes_of_run {expander : Expander} {source : Source} {site : Site} {desk after : Desk}
    {e : Expansion} (h : (expander.expand source site).run desk = (.ok e, after)) :
    ∃ plan text, expander.Comes source site desk (expander.course source site desk).1 after plan
      text e := by
  obtain ⟨events, hrun⟩ := run_expand expander source site desk
  rw [hrun, Prod.mk.injEq] at h
  obtain ⟨houtcome, rfl⟩ := h
  obtain ⟨plan, text, hplanned, hsettled, hfolder, horigin⟩ :=
    comes_of_leaves (leaves_course expander source site desk) (mapError_eq_ok.mp houtcome)
  exact ⟨plan, text, hplanned, hsettled, hfolder, horigin⟩

end Expander

end Ghostwriter

import Ghostwriter.Proofs.Cache.Seed
import Ghostwriter.Proofs.Directive.Refusal
import Ghostwriter.Proofs.Expansion.Rerun
import Ghostwriter.Proofs.Splice.Cut

/-!
How a run on a source can end. All faults over a directive tell where it stands, unless the client
has said something else. What crashes is a literal of a directive, or code that goes into a block.
-/

namespace Ghostwriter

open Ghostwriter.Text

namespace Expander

-- The client answers the request for a directive with a fault, in the light of earlier ones.
def Rejected (expander : Expander) (source : Source) (site : Site) (sent : List Request)
    (fault : Fault) : Prop :=
  ∃ plan request client, expander.plan source site = .ok plan ∧
    requestFor source site plan = .ok request ∧ expander.clientOf = .ok client ∧
    (client.complete sent request).1 = .error fault

-- A failure over a directive before anything is said of its place.
inductive Arises (expander : Expander) (source : Source) (site : Site) (sent : List Request) :
    Failure → Prop
  | fault (cause : FaultCause) : Arises expander source site sent (.ofCause cause)
  | answered (fault : Fault) (rejected : expander.Rejected source site sent fault) :
    Arises expander source site sent (.fault fault)
  | literal (crash : Crash) (read : Directive.Payload.ofText site.payload = .error (.crash crash))
    (crashes : Directive.Crashes site.payload crash) :
    Arises expander source site sent (.crash crash)

-- A failure over a directive. A client may have said already where its fault arose.
inductive Diagnosed (expander : Expander) (site : Site) : Failure → Prop
  | located (cause : FaultCause) (place : site.location ≠ []) :
    Diagnosed expander site (.fault ⟨cause, some site.location⟩)
  | placed (client : Client) (earlier : List Request) (request : Request) (fault : Fault)
    (location : Text) (asked : expander.clientOf = .ok client)
    (answer : (client.complete earlier request).1 = .error fault)
    (told : fault.location = some location) (place : location ≠ []) :
    Diagnosed expander site (.fault fault)
  | unplaced (client : Client) (earlier : List Request) (request : Request) (fault : Fault)
    (asked : expander.clientOf = .ok client)
    (answer : (client.complete earlier request).1 = .error fault)
    (told : fault.location = some []) : Diagnosed expander site (.fault fault)
  | literal (crash : Crash) (read : Directive.Payload.ofText site.payload = .error (.crash crash))
    (crashes : Directive.Crashes site.payload crash) : Diagnosed expander site (.crash crash)

variable {expander : Expander} {source : Source} {site : Site} {plan : Plan} {desk after : Desk}
  {sent : List Request} {failure : Failure}

theorem location_ne_nil (site : Site) : site.location ≠ [] := by
  simp [Site.location]

theorem Arises.locate (h : expander.Arises source site sent failure) :
    expander.Diagnosed site (failure.locate site.location) := by
  cases h with
  | fault cause => exact .located cause (location_ne_nil site)
  | answered fault hrejected =>
    obtain ⟨plan, request, client, -, -, hasked, hanswer⟩ := hrejected
    obtain ⟨cause, told⟩ := fault
    cases told with
    | none => exact .located cause (location_ne_nil site)
    | some location =>
      by_cases hempty : location = []
      · subst hempty
        exact .unplaced client sent request _ hasked hanswer rfl
      · exact .placed client sent request _ location hasked hanswer rfl hempty
  | literal crash hread hcrashes => exact .literal crash hread hcrashes

-- There is a plan for every directive that can be read.
theorem plan_eq_error_iff : expander.plan source site = .error failure ↔
    Invocation.ofDirective site.entryPoint site.payload = .error failure := by
  refine ⟨fun h => ?_, fun h => bind_eq_error.mpr (.inl h)⟩
  rcases bind_eq_error.mp h with hinvocation | ⟨invocation, -, h⟩
  · exact hinvocation
  · obtain ⟨seed, hseed⟩ : ∃ seed, seedFor invocation.payload.options
        (Key.digest source.content site.entryPoint site.payload) = .ok seed := by
      unfold seedFor
      split
      · exact ⟨_, rfl⟩
      · exact ⟨_, Key.defaultSeed_digest _ _ _⟩
    rcases bind_eq_error.mp h with h | ⟨_, -, h⟩
    · rw [hseed] at h
      cases h
    · cases h

theorem arises_of_plan (h : expander.plan source site = .error failure) :
    expander.Arises source site sent failure := by
  have hinvocation := plan_eq_error_iff.mp h
  unfold Invocation.ofDirective at hinvocation
  split at hinvocation
  · cases hinvocation
    exact .fault _
  · rcases bind_eq_error.mp hinvocation with hpayload | ⟨payload, -, hinvocation⟩
    · rcases Directive.failure_of_ofText hpayload with ⟨cause, rfl⟩ | ⟨crash, rfl, hcrashes⟩
      · exact .fault cause
      · exact .literal crash hpayload hcrashes
    · cases hinvocation

-- There is always something to ask for.
theorem exists_request (source : Source) (site : Site) (plan : Plan) :
    ∃ request, requestFor source site plan = .ok request := by
  have hinstruction : ∃ text, Message.instruction site.entryPoint
      (some plan.invocation.language.code) = .ok text := by
    cases plan.invocation.language <;> exact ⟨_, rfl⟩
  obtain ⟨text, htext⟩ := hinstruction
  unfold requestFor Message.pair
  simp only [htext, bind, Except.bind]
  exact ⟨_, rfl⟩

-- Only a credential can be missing.
theorem fault_of_clientOf {fault : Fault} (h : expander.clientOf = .error fault) :
    ∃ name, fault = .ofCause (.missingCredential name) := by
  unfold clientOf at h
  split at h
  · cases h
  · cases hconnection : Connection.ofSettings expander.settings with
    | ok connection => simp [hconnection, Except.map] at h
    | error e =>
      simp only [hconnection, Except.map, Except.error.injEq] at h
      subst h
      unfold Connection.ofSettings at hconnection
      split at hconnection
      · cases hconnection
        exact ⟨_, rfl⟩
      · cases hconnection
        exact ⟨_, rfl⟩
      · cases hconnection

variable {unwraps : Bool}

theorem arises_of_outcome {text : Text} {reused : Bool}
    (h : plan.outcome unwraps site text reused = .error failure) :
    expander.Arises source site sent failure := by
  rcases bind_eq_error.mp h with hsnippet | ⟨snippet, -, h⟩
  · unfold Snippet.ofResponse at hsnippet
    simp only at hsnippet
    split at hsnippet
    · cases hsnippet
    · cases hsnippet
      exact .fault _
  · cases h

theorem arises_of_keep {request : Request} {text : Text} (hkey : Cache.isKey plan.key)
    (hmissing : Cache.Missing desk.cache.folder desk.disk plan.key)
    (h : (keep plan request text desk).1.outcome unwraps site = .error failure) :
    expander.Arises source site sent failure := by
  unfold keep at h
  cases hstore : desk.cache.store desk.disk plan.key text with
  | mk kept rest =>
    obtain ⟨disk, told⟩ := rest
    simp only [hstore] at h
    cases kept with
    | ok p => exact arises_of_outcome h
    | error e =>
      cases h
      obtain ⟨reason, rfl⟩ := Cache.failure_of_store hkey hmissing (by rw [hstore])
      exact .fault _

theorem arises_of_inquire (hplan : expander.plan source site = .ok plan)
    (hmissing : Cache.Missing desk.cache.folder desk.disk plan.key)
    (h : (expander.inquire source site plan desk).1.outcome unwraps site = .error failure) :
    expander.Arises source site desk.sent failure := by
  obtain ⟨request, hrequest⟩ := exists_request source site plan
  unfold inquire at h
  simp only [hrequest] at h
  cases hclient : expander.clientOf with
  | error fault =>
    simp only [hclient] at h
    cases h
    obtain ⟨name, rfl⟩ := fault_of_clientOf hclient
    exact .fault _
  | ok client =>
    simp only [hclient] at h
    cases hanswer : client.complete desk.sent request with
    | mk answer told =>
      simp only [hanswer] at h
      cases answer with
      | error fault =>
        cases h
        exact .answered fault ⟨plan, request, client, hplan, hrequest, hclient, by rw [hanswer]⟩
      | ok text =>
        refine arises_of_keep (isKey_of_plan hplan) ?_ h
        exact hmissing

theorem arises_of_course
    (h : (expander.course source site desk).1.outcome unwraps site = .error failure) :
    expander.Arises source site desk.sent failure := by
  unfold course at h
  cases hplan : expander.plan source site with
  | error e =>
    simp only [hplan] at h
    cases h
    exact arises_of_plan hplan
  | ok plan =>
    simp only [hplan] at h
    have hkey := isKey_of_plan hplan
    have hfolder := Cache.lookup_folder desk.cache desk.disk plan.key
    cases hlookup : desk.cache.lookup desk.disk plan.key with
    | mk record rest =>
      obtain ⟨cache, told⟩ := rest
      simp only [hlookup] at h hfolder
      cases record with
      | error e =>
        cases h
        obtain ⟨reason, rfl⟩ := Cache.failure_of_lookup hkey (by rw [hlookup])
        exact .fault _
      | ok record =>
        cases record with
        | some text => exact arises_of_outcome h
        | none =>
          have hmissing := Cache.missing_of_lookup (congrArg Prod.fst hlookup)
          exact (arises_of_inquire hplan (by rwa [← hfolder] at hmissing) h :)

-- All the ways in which a run on a source can end.
inductive Ends (expander : Expander) (source : Source) (desk : Desk) :
    Result (Text × List Expansion) → Prop
  | returned (t : Text) (es : List Expansion) : Ends expander source desk (.ok (t, es))
  -- before there is a directive
  | unread (cause : FaultCause) (text : source.text = .error (.ofCause cause)) :
    Ends expander source desk (.error (.ofCause cause))
  | unfound (whole : Text) (problem : DirectiveProblem) (place : Text)
    (text : source.text = .ok whole)
    (found : Directive.find source.path whole =
      .error (.fault ⟨.directive problem, some (source.path.toText ++ place)⟩)) :
    Ends expander source desk
      (.error (.fault ⟨.directive problem, some (source.path.toText ++ place)⟩))
  -- over a directive
  | failed (whole : Text) (sites : List Site) (site : Site) (failure : Failure)
    (text : source.text = .ok whole) (found : Directive.find source.path whole = .ok sites)
    (among : site ∈ sites) (diagnosed : expander.Diagnosed site failure) :
    Ends expander source desk (.error failure)
  -- over code that is a module, but cannot be cut into words
  | unspliced (whole : Text) (sites : List Site) (es : List Expansion) (after : Desk)
    (e : Expansion) (cause : Lexeme.ScanError) (text : source.text = .ok whole)
    (found : Directive.find source.path whole = .ok sites)
    (expanded : (sites.mapM (expander.expand source)).run desk = (.ok es, after))
    (among : e ∈ es) (inner : e.site.indent ≠ [])
    (code : Snippet.check e.snippet.text = .ok e.snippet.items)
    (scanned : Lexeme.scan (trimRight e.snippet.text) = .error cause) :
    Ends expander source desk (.error (.crash (.scan cause)))

-- The place that a result has for its fault.
def placeOf? {α : Type} : Result α → Option Text
  | .error (.fault fault) => fault.location
  | .error (.crash _) | .ok _ => none

end Expander

end Ghostwriter

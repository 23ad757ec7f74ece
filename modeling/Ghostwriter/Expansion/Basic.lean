import Ghostwriter.Cache.Basic
import Ghostwriter.Cache.Key
import Ghostwriter.Directive.Find
import Ghostwriter.Files.Source
import Ghostwriter.Service.Client
import Ghostwriter.Snippet.Splice

/-!
Expansion: every directive of a file becomes code. A directive is read, its key is looked up, and
only if there is no record the service is asked; its answer is kept before it is checked.
-/

namespace Ghostwriter

open Ghostwriter.Text

-- A directive with the code that takes its place.
structure Expansion where
  site : Site
  key : Text
  seed : Nat
  model : Text
  snippet : Snippet
  -- whether the code came from the cache
  cached : Bool
  deriving DecidableEq, Repr

-- Settings, and the client for requests. Without one the settings say how to reach a service.
structure Expander where
  settings : Settings
  client : Option Client

-- What expansions change: files, the counts of the cache, the requests that the client has had, and
-- the events so far.
structure Desk where
  disk : Disk
  cache : Cache
  sent : List Request
  events : List Event

-- A step that may fail. What it changed before it failed stays changed.
abbrev Work (α : Type) := ExceptT Failure (StateM Desk) α

namespace Work

-- A step that changes nothing.
def ofResult {α : Type} (result : Result α) : Work α := ExceptT.mk (pure result)

def report (events : List Event) : Work Unit :=
  modify fun desk => { desk with events := desk.events ++ events }

def lookup (key : Text) : Work (Option Text) := do
  let desk ← get
  let (result, cache, events) := desk.cache.lookup desk.disk key
  set { desk with cache := cache }
  report events
  ofResult result

def store (key text : Text) : Work Path := do
  let desk ← get
  let (result, disk, events) := desk.cache.store desk.disk key text
  set { desk with disk := disk }
  report events
  ofResult result

-- Asks a client, which remembers the request.
def ask (client : Client) (request : Request) : Work Text := do
  let desk ← get
  let (result, events) := client.complete desk.sent request
  set { desk with sent := desk.sent ++ [request] }
  report events
  ofResult (result.mapError Failure.fault)

-- Says where a step failed.
def locate {α : Type} (location : Text) (work : Work α) : Work α :=
  tryCatchThe Failure work fun failure => throw (failure.locate location)

end Work

-- What a directive says, and what follows from it without a look at the cache.
structure Plan where
  invocation : Invocation
  seed : Nat
  model : Text
  key : Text

namespace Expander

def clientOf (expander : Expander) : Except Fault Client :=
  match expander.client with
  | some client => .ok client
  | none => (Connection.ofSettings expander.settings).map Connection.client

-- The model for a directive.
def modelFor (expander : Expander) (options : Options) : Text :=
  options.model.getD expander.settings.defaultModel

-- The seed for a directive.
def seedFor (options : Options) (digest : Text) : Result Nat :=
  match options.seed with
  | some seed => .ok seed
  | none => Key.defaultSeed digest

def plan (expander : Expander) (source : Source) (site : Site) : Result Plan := do
  let invocation ← Invocation.ofDirective site.entryPoint site.payload
  let digest := Key.digest source.content site.entryPoint site.payload
  let seed ← seedFor invocation.payload.options digest
  let model := expander.modelFor invocation.payload.options
  .ok ⟨invocation, seed, model, Key.ofDigest digest model⟩

def requestFor (source : Source) (site : Site) (plan : Plan) : Result Request := do
  let messages ←
    Message.pair site.entryPoint (some plan.invocation.language.code) source.content
      plan.invocation.payload.prompt
  let limit := plan.invocation.payload.options.maxCompletionTokens
  .ok ⟨messages, plan.model, plan.seed, limit.map Int.ofNat⟩

-- The text for a key that has no record. It is kept before anything else is done with it.
def generate (expander : Expander) (source : Source) (site : Site) (plan : Plan) : Work Text := do
  let request ← Work.ofResult (requestFor source site plan)
  let client ← Work.ofResult (expander.clientOf.mapError Failure.fault)
  let text ← Work.ask client request
  let _ ← Work.store plan.key text
  pure text

-- Checks a text and puts it into the place of a directive.
def settle (expander : Expander) (site : Site) (plan : Plan) (reused : Bool) (text : Text) :
    Work Expansion := do
  let snippet ← Work.ofResult (Snippet.ofResponse expander.settings.unwrapFences text)
  Work.report [.snippetReady site.location reused snippet.items.length]
  pure ⟨site, plan.key, plan.seed, plan.model, snippet, reused⟩

def expandHere (expander : Expander) (source : Source) (site : Site) : Work Expansion := do
  let plan ← Work.ofResult (expander.plan source site)
  let record ← Work.lookup plan.key
  match record with
  | some text => expander.settle site plan true text
  | none => do
    let text ← expander.generate source site plan
    expander.settle site plan false text

-- Expands one directive. Its faults tell its location.
def expand (expander : Expander) (source : Source) (site : Site) : Work Expansion :=
  Work.locate site.location (expander.expandHere source site)

-- Expands all directives of a file in their order, then puts the code in their places.
def expandSource (expander : Expander) (source : Source) : Work (Text × List Expansion) := do
  let text ← Work.ofResult source.text
  let sites ← Work.ofResult (Directive.find source.path text)
  let expansions ← sites.mapM (expander.expand source)
  let replacements := expansions.map fun e => (e.site, e.snippet)
  let expanded ← Work.ofResult (Splice.substituteAll text replacements)
  pure (expanded, expansions)

end Expander

end Ghostwriter

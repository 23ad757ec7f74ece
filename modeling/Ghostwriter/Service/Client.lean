import Ghostwriter.Cache.Event
import Ghostwriter.Request.Message
import Ghostwriter.Settings.Basic

/-!
Clients: whoever answers requests. Some give a text or a fault themselves. Others pass on what a
completion service sends back, which is put into the program's own terms here.
-/

namespace Ghostwriter

open Ghostwriter.Text

-- The ways in which a call to a completion service fails.
inductive ServiceProblem where
  | authentication
  | permissionDenied
  -- any other answer with a status
  | status (code : Int)
  | connection
  | timeout
  -- any other error
  | other
  deriving DecidableEq, Repr

-- What a completion service sends back: the contents of its choices, or a problem.
inductive Reply where
  | choices (contents : List (Option Text))
  | failed (problem : ServiceProblem) (message : Text)
  deriving DecidableEq, Repr

namespace Reply

-- The content of the first choice, if there is one.
def content? : List (Option Text) → Option Text
  | [] => none
  | first :: _ => first

def noContent (model : Text) : Text :=
  "Response from ".toList ++ model ++ " carried no message content".toList

def faultOf (problem : ServiceProblem) (message : Text) : FaultCause :=
  match problem with
  | .authentication | .permissionDenied => .plain .authentication [.text message]
  | .connection => .plain .serviceUnavailable [.text message]
  | .timeout => .plain .serviceUnavailable [.text "Request timed out.".toList]
  | .status code => .serviceError message (some code)
  | .other => .serviceError message none

def result (request : Request) : Reply → Except Fault Text
  | failed problem message => .error (.ofCause (faultOf problem message))
  | choices contents =>
    match content? contents with
    | some text => .ok text
    | none => .error (.ofCause (.serviceError (noContent request.model) none))

end Reply

-- A client answers a request in the light of those it has had before, the first one first.
inductive Client where
  | direct (complete : List Request → Request → Except Fault Text)
  | service (send : List Request → Request → Reply)

namespace Client

-- How an object can serve as a client.
inductive Suitability where
  | direct
  | service
  deriving DecidableEq, Repr

-- What completes requests is a client as it is; what only chats is a service.
def suitability (kind : Text) (completes chats : Bool) : Result Suitability :=
  if completes then .ok .direct
  else if chats then .ok .service
  else .error (.crash (.noClient kind))

-- The answer to a request. Calls to a service are reported.
def complete (client : Client) (earlier : List Request) (request : Request) :
    Except Fault Text × List Event :=
  match client with
  | direct answer => (answer earlier request, [])
  | service send =>
    ((send earlier request).result request, [.requestSent request.model request.seed])

end Client

-- How the completion service is reached.
structure Connection where
  apiKey : Text
  maxRetries : Nat
  baseUrl : Text
  timeout : Option Timeout
  deriving DecidableEq, Repr

namespace Connection

def defaultUrl : Text := "https://api.openai.com/v1/".toList

-- Whether nothing follows the host in an address.
def lacksPath (url : Text) : Bool :=
  match url.dropWhile (· ≠ ':') with
  | ':' :: '/' :: '/' :: rest => !rest.contains '/'
  | _ => false

-- The path of an address ends in a slash.
def withSlash (url : Text) : Text :=
  if url.getLast? = some '/' || lacksPath url then url else url ++ ['/']

-- A credential is needed before anything else. No call is repeated.
def ofSettings (s : Settings) : Except Fault Connection :=
  match s.apiKey with
  | none | some [] => .error (.ofCause (.missingCredential "OPENAI_API_KEY".toList))
  | some key =>
    let url :=
      match s.baseUrl with
      | none | some [] => defaultUrl
      | some url => withSlash url
    .ok ⟨key, 0, url, s.timeout⟩

-- No service can be reached from here.
def client (_ : Connection) : Client :=
  .service fun _ _ => .failed .connection "Connection error.".toList

end Connection

end Ghostwriter

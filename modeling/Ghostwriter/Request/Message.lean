import Ghostwriter.Directive.Options
import Ghostwriter.Request.Instruction

/-!
Requests to the service: instructions, then the user's file with the prompt of the directive.
-/

namespace Ghostwriter

open Ghostwriter.Text

inductive Role where
  | system
  | user
  deriving DecidableEq, Repr

structure Message where
  role : Role
  content : Text
  deriving DecidableEq, Repr

structure Request where
  messages : List Message
  model : Text
  seed : Int
  maxCompletionTokens : Option Int
  deriving DecidableEq, Repr

-- The parameters of a request, in their order.
inductive Parameter where
  | model (name : Text)
  | messages (messages : List Message)
  | seed (value : Int)
  | maxCompletionTokens (value : Int)
  deriving DecidableEq, Repr

def Request.parameters (r : Request) : List Parameter :=
  [.model r.model, .messages r.messages, .seed r.seed] ++
    (r.maxCompletionTokens.map Parameter.maxCompletionTokens).toList

namespace Message

-- The instructions for an entry point, in a language given by its code or in its own one.
def instruction (entryPoint : Text) (code : Option Text) : Result Text :=
  match code with
  | none | some [] =>
    match EntryPoint.language? entryPoint with
    | some language => .ok (Instruction.render language entryPoint)
    | none => .error (.ofCause (.unknownEntryPoint entryPoint))
  | some code =>
    match Language.ofCode? code with
    | some language => .ok (Instruction.render language entryPoint)
    | none => .error (.crash (.noInstruction code))

-- The user's file, and behind it the prompt, unless that is missing or empty.
def request (source : Bytes) (prompt : Option Text) : Text :=
  let text := decodeLossy source
  match prompt with
  | none | some [] => text
  | some prompt => trimRight text ++ '\n' :: '\n' :: prompt

def pair (entryPoint : Text) (code : Option Text) (source : Bytes) (prompt : Option Text) :
    Result (List Message) := do
  let system ← instruction entryPoint code
  .ok [⟨.system, system⟩, ⟨.user, request source prompt⟩]

end Message

-- A directive that has been read: what it says, and the language of its instructions.
structure Invocation where
  payload : Directive.Payload
  language : Language
  deriving DecidableEq, Repr

def Invocation.ofDirective (entryPoint payload : Text) : Result Invocation := do
  match EntryPoint.language? entryPoint with
  | none => .error (.ofCause (.unknownEntryPoint entryPoint))
  | some language =>
    let payload ← Directive.Payload.ofText payload
    .ok ⟨payload, language⟩

end Ghostwriter

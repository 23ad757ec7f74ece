import Ghostwriter.Failure.Basic
import Ghostwriter.Settings.Timeout

/-!
Settings of a run: the service with its credential, the cache, the model for directives that name
none, and how responses are treated.
-/

namespace Ghostwriter

open Ghostwriter.Text

structure Settings where
  apiKey : Option Text
  cacheFolder : Path
  defaultModel : Text
  baseUrl : Option Text
  timeout : Option Timeout
  unwrapFences : Bool
  verbose : Bool
  deriving DecidableEq, Repr

namespace Settings

def defaultFolder : Path := Path.ofText "gpt_responses".toList

def initial : Settings := ⟨none, defaultFolder, "gpt-4o".toList, none, none, false, false⟩

-- The settings, if the model has a name and the timeout is positive.
def check (s : Settings) : Result Settings :=
  if s.defaultModel.isEmpty then .error (.crash .emptyModel)
  else
    match s.timeout with
    | none => .ok s
    | some timeout =>
      if timeout.isPositive then .ok s else .error (.crash (.timeoutNotPositive timeout.write))

def writeBool (b : Bool) : Text := (if b then "True" else "False").toList

def writeOption {α : Type} (write : α → Text) : Option α → Text
  | none => "None".toList
  | some a => write a

-- The fields of the settings in writing. The credential is left out.
def fields (s : Settings) : List (String × Text) :=
  [("cache_dir", "PosixPath(".toList ++ quoted s.cacheFolder.toText ++ [')']),
    ("default_model", quoted s.defaultModel),
    ("base_url", writeOption quoted s.baseUrl),
    ("timeout", writeOption Timeout.write s.timeout),
    ("unwrap_fences", writeBool s.unwrapFences),
    ("verbose", writeBool s.verbose)]

def write (s : Settings) : Text :=
  "DelegenConfig(".toList ++
    Value.commas (s.fields.map fun (name, value) => name.toList ++ '=' :: value) ++ [')']

end Settings

-- Settings given by hand. What is missing is left to the environment.
structure Overrides where
  apiKey : Option Text
  cacheFolder : Option Path
  defaultModel : Option Text
  baseUrl : Option Text
  timeout : Option Timeout
  unwrapFences : Option Bool
  verbose : Option Bool
  deriving DecidableEq, Repr

namespace Overrides

def none : Overrides :=
  ⟨.none, .none, .none, .none, .none, .none, .none⟩

def apply (o : Overrides) (s : Settings) : Settings where
  apiKey := o.apiKey.or s.apiKey
  cacheFolder := o.cacheFolder.getD s.cacheFolder
  defaultModel := o.defaultModel.getD s.defaultModel
  baseUrl := o.baseUrl.or s.baseUrl
  timeout := o.timeout.or s.timeout
  unwrapFences := o.unwrapFences.getD s.unwrapFences
  verbose := o.verbose.getD s.verbose

end Overrides

end Ghostwriter

import Ghostwriter.Files.Path
import Ghostwriter.Text.Basic

/-!
Events: what a run tells about itself, one line each.
-/

namespace Ghostwriter

open Ghostwriter.Text

inductive Event where
  | cacheMiss (key : Text)
  | cacheHit (key : Text)
  | recordKept (key : Text)
  | recordStored (key : Text) (length : Nat)
  | recordDiscarded (key : Text)
  | requestSent (model : Text) (seed : Int)
  | snippetReady (location : Text) (reused : Bool) (statements : Nat)
  | fileWritten (path : Path) (directives : Nat)
  deriving DecidableEq, Repr

namespace Event

-- Keys are cut short.
def shortKey (key : Text) : Text := key.take 12

-- The part of the program that an event comes from.
def origin : Event → String
  | requestSent .. => "client"
  | snippetReady .. | fileWritten .. => "pipeline"
  | _ => "cache"

def message : Event → Text
  | cacheMiss key => "cache miss ".toList ++ shortKey key
  | cacheHit key => "cache hit ".toList ++ shortKey key
  | recordKept key =>
    "cache record ".toList ++ shortKey key ++ " already present, keeping it".toList
  | recordStored key length =>
    "cached ".toList ++ decimal length ++ " chars under ".toList ++ shortKey key
  | recordDiscarded key => "discarded cache record ".toList ++ shortKey key
  | requestSent model seed =>
    "requesting completion from ".toList ++ model ++ " (seed=".toList ++ (toString seed).toList ++
      [')']
  | snippetReady location reused statements =>
    location ++ ": ".toList ++ (if reused then "reused " else "generated ").toList ++
      decimal statements ++ " statement(s)".toList
  | fileWritten path directives =>
    "wrote ".toList ++ path.toText ++ " (".toList ++ decimal directives ++ " directive(s))".toList

def line (e : Event) : Text :=
  "delegen.".toList ++ e.origin.toList ++ " INFO: ".toList ++ e.message ++ ['\n']

end Event

end Ghostwriter

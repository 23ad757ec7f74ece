import Ghostwriter.Expansion.File
import Ghostwriter.Settings.Environment

/-!
What outlasts a run: the files, the environment, and whether events are written down.
-/

namespace Ghostwriter

open Ghostwriter.EnvFile Ghostwriter.Text

structure World where
  disk : Disk
  environment : Variables
  -- whether events are written down, which a verbose run turns on for good
  reporting : Bool

namespace World

-- What is written down of some events.
def report (world : World) (events : List Event) : Text :=
  if world.reporting then events.flatMap Event.line else []

def warning (world : World) (line : Nat) : Text :=
  (if world.reporting then "dotenv.main WARNING: ".toList else []) ++
    "python-dotenv could not parse statement starting at line ".toList ++ decimal line ++ ['\n']

-- The settings from the environment and a file of variables, which adds to the environment, and the
-- warnings about the file.
def settings (world : World) (file : Option Path) (overrides : Overrides) :
    Result Settings × World × Text :=
  match Settings.loadFile world.disk world.environment file with
  | .error failure => (.error failure, world, [])
  | .ok loaded =>
    let settings :=
      match loaded.problem with
      | some problem => .error (.crash (Settings.crashOf problem))
      | none => Settings.ofEnvironment loaded.environment overrides
    (settings, { world with environment := loaded.environment },
      loaded.unreadable.flatMap world.warning)

-- Verbose settings turn the reports on.
def engage (world : World) (settings : Settings) : World :=
  { world with reporting := world.reporting || settings.verbose }

-- Performs some work with a cache and a client that has had some requests: the result, what is left
-- on the desk, the world, and what is written down.
def perform {α : Type} (world : World) (cache : Cache) (sent : List Request) (work : Work α) :
    Result α × Desk × World × Text :=
  let (result, desk) := work.run ⟨world.disk, cache, sent, []⟩
  (result, desk, { world with disk := desk.disk }, world.report desk.events)

end World

end Ghostwriter

import Ghostwriter.CommandLine.Command
import Ghostwriter.Expansion.World

/-!
What the commands do.
-/

namespace Ghostwriter.CommandLine

open Ghostwriter.Text

-- How a command ended: its exit status, or the crash that ended it, what it wrote, and the world
-- that it left.
structure Outcome where
  status : Except Crash Nat
  stdout : Text
  stderr : Text
  world : World

def errorLine (message : Text) : Text := "error: ".toList ++ message ++ ['\n']

-- Ends a command with a failure. Faults are reported.
def Outcome.ofFailure (failure : Failure) (stderr : Text) (world : World) : Outcome :=
  match failure with
  | .fault f => ⟨.ok 1, [], stderr ++ errorLine f.message, world⟩
  | .crash c => ⟨.error c, [], stderr, world⟩

def summary (output : Path) (expansions : List Expansion) : Text :=
  let reused := expansions.countP (·.cached)
  output.toText ++ ": ".toList ++ decimal expansions.length ++ " directive(s), ".toList ++
    decimal reused ++ " from cache, ".toList ++ decimal (expansions.length - reused) ++
    " generated\n".toList

def runBuild (world : World) (source : Path) (output : Option Path) (overrides : Overrides) :
    Outcome :=
  match world.settings none overrides with
  | (.error failure, world, warnings) => .ofFailure failure warnings world
  | (.ok settings, world, warnings) =>
    let world := world.engage settings
    let expander : Expander := ⟨settings, none⟩
    let cache := Cache.ofFolder settings.cacheFolder
    match output with
    | none =>
      match world.perform cache [] (expander.expandFile source) with
      | (.ok text, _, world, reports) => ⟨.ok 0, text, warnings ++ reports, world⟩
      | (.error failure, _, world, reports) => .ofFailure failure (warnings ++ reports) world
    | some target =>
      match world.perform cache [] (expander.build source target) with
      | (.ok expansions, _, world, reports) =>
        ⟨.ok 0, [], warnings ++ reports ++ summary target expansions, world⟩
      | (.error failure, _, world, reports) => .ofFailure failure (warnings ++ reports) world

-- The cache that the settings name.
def withCache (world : World) (folder : Option Path) (act : Cache → World → Outcome) : Outcome :=
  match world.settings none { Overrides.none with cacheFolder := folder } with
  | (.error failure, world, warnings) => .ofFailure failure warnings world
  | (.ok settings, world, warnings) =>
    let outcome := act (Cache.ofFolder settings.cacheFolder) world
    { outcome with stderr := warnings ++ outcome.stderr }

def listKeys (cache : Cache) (world : World) : Outcome :=
  match cache.entries world.disk with
  | .ok keys => ⟨.ok 0, keys.flatMap (· ++ ['\n']), [], world⟩
  | .error failure => .ofFailure failure [] world

-- What discarding one record changes: the status, what is written, and the world. A key that is
-- none is reported like one without a record.
def discard (cache : Cache) (world : World) (key : Text) : Except Failure (Nat × Text) × World :=
  let (result, disk, events) := cache.discard world.disk key
  let world := { world with disk := disk }
  match result with
  | .ok true => (.ok (0, world.report events), world)
  | .ok false => (.ok (1, errorLine ("no cache record ".toList ++ key)), world)
  | .error (.crash (.malformedKey key)) =>
    (.ok (1, errorLine (Crash.malformedKey key).message), world)
  | .error failure => (.error failure, world)

-- Discards records one after the other. The status so far and what has been written come first.
def removeKeys (cache : Cache) (status : Nat) (stderr : Text) (world : World) : List Text → Outcome
  | [] => ⟨.ok status, [], stderr, world⟩
  | key :: rest =>
    match discard cache world key with
    | (.ok (0, written), world) => removeKeys cache status (stderr ++ written) world rest
    | (.ok (_, written), world) => removeKeys cache 1 (stderr ++ written) world rest
    | (.error failure, world) => .ofFailure failure stderr world

def Command.run (world : World) : Command → Outcome
  | .build source output cacheFolder model unwrapFences verbose =>
    runBuild world source output
      { Overrides.none with
        cacheFolder := cacheFolder
        defaultModel := model
        unwrapFences := if unwrapFences then some true else none
        verbose := if verbose then some true else none }
  | .list cacheFolder => withCache world cacheFolder listKeys
  | .remove cacheFolder keys =>
    withCache world cacheFolder fun cache world => removeKeys cache 0 [] world keys

def Refusal.outcome (refusal : Refusal) (world : World) : Outcome :=
  let m := refusal.manual
  match refusal.stop with
  | .help => ⟨.ok 0, m.help, [], world⟩
  | .misuse misuse =>
    ⟨.ok 2, [], m.usage ++ m.program ++ ": error: ".toList ++ misuse.message ++ ['\n'], world⟩

-- Runs the program with the words of a command line.
def run (world : World) (words : List Text) : Outcome :=
  match Command.ofWords words with
  | .ok command => command.run world
  | .error refusal => refusal.outcome world

end Ghostwriter.CommandLine

import Ghostwriter.Text.Basic

/-!
The commands of the program: their flags, what they take besides, and their help texts.
-/

namespace Ghostwriter.CommandLine

open Ghostwriter.Text

inductive Flag where
  | help
  | output
  | cacheFolder
  | model
  | unwrapFences
  | verbose
  deriving DecidableEq, Repr

-- A flag with its names, the short one first, and whether a value follows it.
structure FlagEntry where
  flag : Flag
  names : List Text
  takesValue : Bool
  deriving DecidableEq, Repr

-- A flag by all its names.
def FlagEntry.label (entry : FlagEntry) : Text := joinWith ['/'] entry.names

-- What a command takes besides flags: nothing, one word, several words, or one of some commands
-- with all that follows it.
inductive Operand where
  | absent
  | one (name : Text)
  | many (name : Text)
  | command (name : Text) (choices : List Text)
  deriving DecidableEq, Repr

structure Manual where
  program : Text
  usage : Text
  help : Text
  flags : List FlagEntry
  operand : Operand
  deriving DecidableEq, Repr

namespace Manual

def helpEntry : FlagEntry := ⟨.help, ["-h", "--help"].map String.toList, false⟩

def folderEntry : FlagEntry := ⟨.cacheFolder, ["--cache-dir".toList], true⟩

def usageTop : Text := "usage: delegen [-h] \x7bbuild,cache\x7d ...\n".toList

def top : Manual where
  program := "delegen".toList
  usage := usageTop
  help := usageTop ++ (
    "\nExpand code-generation directives in Python source files\n" ++
    "\npositional arguments:\n" ++
    "  \x7bbuild,cache\x7d\n" ++
    "    build        expand the directives of a file\n" ++
    "    cache        inspect or prune the response cache\n" ++
    "\noptions:\n" ++
    "  -h, --help     show this help message and exit\n").toList
  flags := [helpEntry]
  operand := .command "command".toList (["build", "cache"].map String.toList)

def usageBuild : Text := (
  "usage: delegen build [-h] [-o OUTPUT] [--cache-dir CACHE_DIR] [--model MODEL]\n" ++
  "                     [--unwrap-fences] [-v]\n" ++
  "                     source\n").toList

def build : Manual where
  program := "delegen build".toList
  usage := usageBuild
  help := usageBuild ++ (
    "\npositional arguments:\n" ++
    "  source\n" ++
    "\noptions:\n" ++
    "  -h, --help            show this help message and exit\n" ++
    "  -o OUTPUT, --output OUTPUT\n" ++
    "                        write here instead of stdout\n" ++
    "  --cache-dir CACHE_DIR\n" ++
    "  --model MODEL         model for directives without one\n" ++
    "  --unwrap-fences       accept Markdown-fenced responses\n" ++
    "  -v, --verbose\n").toList
  flags := [helpEntry, ⟨.output, ["-o", "--output"].map String.toList, true⟩, folderEntry,
    ⟨.model, ["--model".toList], true⟩, ⟨.unwrapFences, ["--unwrap-fences".toList], false⟩,
    ⟨.verbose, ["-v", "--verbose"].map String.toList, false⟩]
  operand := .one "source".toList

def usageCache : Text := "usage: delegen cache [-h] \x7blist,rm\x7d ...\n".toList

def cache : Manual where
  program := "delegen cache".toList
  usage := usageCache
  help := usageCache ++ (
    "\npositional arguments:\n" ++
    "  \x7blist,rm\x7d\n" ++
    "    list      print all cache keys\n" ++
    "    rm        delete cache records\n" ++
    "\noptions:\n" ++
    "  -h, --help  show this help message and exit\n").toList
  flags := [helpEntry]
  operand := .command "cache_command".toList (["list", "rm"].map String.toList)

def usageList : Text := "usage: delegen cache list [-h] [--cache-dir CACHE_DIR]\n".toList

def list : Manual where
  program := "delegen cache list".toList
  usage := usageList
  help := usageList ++ (
    "\noptions:\n" ++
    "  -h, --help            show this help message and exit\n" ++
    "  --cache-dir CACHE_DIR\n").toList
  flags := [helpEntry, folderEntry]
  operand := .absent

def usageRemove : Text :=
  "usage: delegen cache rm [-h] [--cache-dir CACHE_DIR] keys [keys ...]\n".toList

def remove : Manual where
  program := "delegen cache rm".toList
  usage := usageRemove
  help := usageRemove ++ (
    "\npositional arguments:\n" ++
    "  keys\n" ++
    "\noptions:\n" ++
    "  -h, --help            show this help message and exit\n" ++
    "  --cache-dir CACHE_DIR\n").toList
  flags := [helpEntry, folderEntry]
  operand := .many "keys".toList

-- All names of flags in their order, each with its flag.
def names (m : Manual) : List (Text × FlagEntry) :=
  m.flags.flatMap fun entry => entry.names.map (·, entry)

end Manual

end Ghostwriter.CommandLine

import Ghostwriter.Settings.Basic
import Ghostwriter.Settings.EnvFile

/-!
Settings from the environment. A file of variables is read first, which adds to the environment but
changes nothing in it; settings given by hand win over both.
-/

namespace Ghostwriter.Settings

open Ghostwriter.EnvFile Ghostwriter.Text

-- The value of a variable, unless it is empty.
def nonempty? (environment : Variables) (name : String) : Option Text :=
  match environment.lookup name.toList with
  | some (c :: rest) => some (c :: rest)
  | _ => none

def keyVariable : String := "OPENAI_API_KEY"

def urlVariable : String := "OPENAI_BASE_URL"

def folderVariable : String := "DELEGEN_CACHE_DIR"

def modelVariable : String := "DELEGEN_MODEL"

def variableNames : List String := [keyVariable, urlVariable, folderVariable, modelVariable]

def ofVariables (environment : Variables) : Settings :=
  { initial with
    apiKey := nonempty? environment keyVariable
    baseUrl := nonempty? environment urlVariable
    cacheFolder := ((nonempty? environment folderVariable).map Path.ofText).getD defaultFolder
    defaultModel := (nonempty? environment modelVariable).getD initial.defaultModel }

-- The file of variables that is read if no other one is named.
def defaultFile (disk : Disk) : Path := (Path.ofText disk.home).child ".env".toList

-- The content of a file of variables. A missing file is empty, and so is a folder.
def fileContent (disk : Disk) (p : Path) : Result Text :=
  match disk.contents p with
  | .error _ => .ok []
  | .ok content =>
    match decode content with
    | .ok t => .ok t
    | .error cause => .error (.crash (.undecodable cause))

-- The environment with the variables of a file.
def loadFile (disk : Disk) (environment : Variables) (file : Option Path) : Result Loaded :=
  if isSwitchedOff environment then .ok (.unchanged environment)
  else do
    let content ← fileContent disk (file.getD (defaultFile disk))
    .ok (load environment content)

def crashOf : Unfit → Crash
  | .nullCharacter => .nullCharacter
  | .equalsSign => .variableName

def ofEnvironment (environment : Variables) (overrides : Overrides) : Result Settings :=
  (overrides.apply (ofVariables environment)).check

end Ghostwriter.Settings

import Ghostwriter.Files.Disk
import Ghostwriter.Lexeme.Scan
import Ghostwriter.Literal.Value

/-!
What can go wrong. A fault is an error of the program's own, which can tell at which directive it
arose. A crash is an error of the ground the program stands on, which nothing in it catches.
-/

namespace Ghostwriter

open Ghostwriter.Lexeme Ghostwriter.Text

-- What is wrong with a directive, or with a text that may hold directives.
inductive DirectiveProblem where
  | unreadableText (cause : ScanError)
  | unreadablePayload (cause : ScanError)
  | unclosed (name : Text)
  | literalExpected (what source : Text)
  | emptyItem
  | behindPrompt
  | missingValue (key : Text)
  | promptOfBytes
  -- an item that is neither an option nor a prompt, counted from 1, and its first lexeme
  | unexpectedItem (number : Nat) (first : Text)
  deriving DecidableEq, Repr

def DirectiveProblem.message : DirectiveProblem → Text
  | unreadableText cause => "Cannot tokenize source: ".toList ++ cause.message.toList
  | unreadablePayload cause => "Cannot tokenize directive payload: ".toList ++ cause.message.toList
  | unclosed name => "Unclosed parenthesis after ".toList ++ quoted name
  | literalExpected what source =>
    "Expected a literal for ".toList ++ what ++ ", got ".toList ++ quoted source
  | emptyItem => "Empty item between ';' separators".toList
  | behindPrompt => "The prompt must be the last item of a directive".toList
  | missingValue key => "Missing value for option ".toList ++ quoted key
  | promptOfBytes => "The prompt must be a str literal, not bytes".toList
  | unexpectedItem number first =>
    "Expected 'key = value' or a string prompt in item ".toList ++ decimal number ++
      ", got ".toList ++ quoted first

-- Why generated code is no module.
inductive CodeProblem where
  | nullCharacter
  -- The grammar tells neither the line nor the reason; placeholders stand for both.
  | grammar
  | stated (reason : Text) (line : Option Int)
  deriving DecidableEq, Repr

namespace CodeProblem

def reason : CodeProblem → Text
  | nullCharacter => "source code string cannot contain null bytes".toList
  | grammar => "<reason>".toList
  | stated reason _ => reason

def writeLine (line : Int) : Text := (toString line).toList

def place : CodeProblem → Text
  | nullCharacter => []
  | grammar => " at line <n>".toList
  | stated _ none => []
  | stated _ (some line) => " at line ".toList ++ writeLine line

end CodeProblem

-- Kinds of faults that carry nothing but a message.
inductive PlainKind where
  | general
  | invocation
  | directive
  | service
  | serviceUnavailable
  | authentication
  deriving DecidableEq, Repr

inductive FaultCause where
  -- a fault with the values it was raised with
  | plain (kind : PlainKind) (values : List Value)
  | directive (problem : DirectiveProblem)
  | unknownEntryPoint (name : Text)
  | unknownOption (key : Text) (known : List Text)
  | duplicateOption (key : Text)
  -- the value is kept as it is written
  | invalidOption (key expected shown : Text)
  | sourceUnavailable (path reason : Text)
  | missingCredential (name : Text)
  | serviceError (message : Text) (status : Option Int)
  | cacheFailure (path reason : Text)
  | badCode (text : Text) (problem : CodeProblem)
  deriving Repr

namespace FaultCause

-- A single value reads as it is, several as a tuple.
def plainMessage : List Value → Text
  | [] => []
  | [v] => (Value.show? v).getD []
  | values => (Value.write? (.tuple values)).getD []

def quotedList (texts : List Text) : Text := Value.enclose '[' ']' (texts.map quoted)

def message : FaultCause → Text
  | plain _ values => plainMessage values
  | directive problem => problem.message
  | unknownEntryPoint name => "Unknown entry point ".toList ++ quoted name
  | unknownOption key known =>
    "Unknown option ".toList ++ quoted key ++ ". Must be one of ".toList ++ quotedList known
  | duplicateOption key => "Option ".toList ++ quoted key ++ " is given more than once".toList
  | invalidOption key expected shown =>
    "Option ".toList ++ quoted key ++ " expects ".toList ++ expected ++ ", got ".toList ++ shown
  | sourceUnavailable path reason =>
    "Cannot read source file ".toList ++ path ++ [':', ' '] ++ reason
  | missingCredential name =>
    "No API key configured; set ".toList ++ name ++
      " in the environment or a .env file".toList
  | serviceError message none => message
  | serviceError message (some status) =>
    message ++ " (HTTP ".toList ++ CodeProblem.writeLine status ++ [')']
  | cacheFailure path reason => "Cache I/O failed for ".toList ++ path ++ [':', ' '] ++ reason
  | badCode text problem =>
    "Generated code is not valid Python".toList ++ problem.place ++ [':', ' '] ++
      problem.reason ++ "\n--- generated text ---\n".toList ++ text

end FaultCause

structure Fault where
  cause : FaultCause
  location : Option Text
  deriving Repr

namespace Fault

def ofCause (cause : FaultCause) : Fault := ⟨cause, none⟩

-- Says where a fault arose. The first word on it is the last.
def locate (fault : Fault) (location : Text) : Fault :=
  { fault with location := fault.location.or (some location) }

def message (fault : Fault) : Text :=
  match fault.location with
  | none | some [] => fault.cause.message
  | some location => location ++ [':', ' '] ++ fault.cause.message

end Fault

inductive Crash where
  | unhashable (kind : String)
  -- a whole number with too many digits to be written
  | digitLimit
  -- a whole number beyond all floating-point values
  | tooLarge
  | malformedKey (key : Text)
  | malformedDigest (head : Text)
  | noInstruction (language : Text)
  | emptyModel
  | timeoutNotPositive (shown : Text)
  | scan (cause : ScanError)
  | disk (cause : DiskError)
  | noClient (kind : Text)
  | undecodable (cause : Utf8Error)
  -- a null character where the operating system takes none
  | nullCharacter
  -- a name that no variable of the environment can have
  | variableName
  deriving Repr

def Crash.message : Crash → Text
  | unhashable kind => "unhashable type: '".toList ++ kind.toList ++ ['\'']
  | digitLimit =>
    ("Exceeds the limit (4300 digits) for integer string conversion; " ++
      "use sys.set_int_max_str_digits() to increase the limit").toList
  | tooLarge => "int too large to convert to float".toList
  | malformedKey key => "Malformed cache key ".toList ++ quoted key
  | malformedDigest head => "invalid literal for int() with base 16: ".toList ++ quoted head
  | noInstruction language => "No instruction template for language ".toList ++ quoted language
  | emptyModel => "default_model must be a non-empty model identifier".toList
  | timeoutNotPositive shown => "timeout must be positive, got ".toList ++ shown
  | scan cause => cause.message.toList
  | disk cause => cause.message.toList
  | noClient kind => kind ++ " is neither a GenerationClient nor an OpenAI client".toList
  | undecodable cause => cause.message.toList
  | nullCharacter => "embedded null byte".toList
  | variableName => "illegal environment variable name".toList

inductive Failure where
  | fault (fault : Fault)
  | crash (crash : Crash)
  deriving Repr

namespace Failure

def ofCause (cause : FaultCause) : Failure := .fault (Fault.ofCause cause)

-- Only faults can be located.
def locate (location : Text) : Failure → Failure
  | fault f => fault (f.locate location)
  | crash c => crash c

def message : Failure → Text
  | fault f => f.message
  | crash c => c.message

end Failure

abbrev Result := Except Failure

end Ghostwriter

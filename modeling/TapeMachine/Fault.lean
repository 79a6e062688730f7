import TapeMachine.Console.Markup
import TapeMachine.Files.Pattern
import TapeMachine.Json.Reader
import TapeMachine.Settings.Basic
import TapeMachine.Window

namespace TapeMachine

/-- What may end the work of a tool before it is done. -/
inductive Fault where
  | file (error : Files.Error)
  | encoding (error : Text.Utf8Error)
  | unencodable (error : Text.EncodeError)
  | json (error : Json.ReadError)
  | settings (error : Settings.Error)
  | noSettings (path : String)
  | notSettings (error : Settings.MergeError)
  | missingField (name : String)
  | notAnObject (found : String)
  | notAList (found : String)
  | notANumber (found : String)
  | notACollection (found : String)
  | emptyBatches
  | noPath
  | noNumber
  | tooManyDigits
  | pattern (error : Files.PatternError)
  | markup (error : Console.MarkupError)
  | view (error : ViewError)
  | endOfInput
  | interrupted
  deriving DecidableEq, Repr

namespace Fault

def message : Fault → String
  | file error => error.message
  | encoding error => error.message
  | unencodable error => error.message
  | json error => error.message
  | settings error => error.message
  | noSettings path => s!"Configuration file not found at: {path}"
  | notSettings error => error.message
  | missingField name => s!"'{name}'"
  | notAnObject found => s!"an object was expected, not a value of kind {found}"
  | notAList found => s!"a list was expected, not a value of kind {found}"
  | notANumber found => s!"a number was expected, not a value of kind {found}"
  | notACollection found => s!"a collection was expected, not a value of kind {found}"
  | emptyBatches => "a batch must not be empty"
  | noPath => "stat: path should be string, bytes, os.PathLike or integer, not list"
  | noNumber => "a number was expected, and none is there"
  | tooManyDigits =>
    s!"Exceeds the limit ({Text.maxDigits} digits) for integer string conversion; " ++
      "use sys.set_int_max_str_digits() to increase the limit"
  | pattern error => error.message
  | markup error => error.message
  | view error => error.message
  | endOfInput => "EOF when reading a line"
  | interrupted => "interrupted"

def ofRead : Files.ReadError → Fault
  | .refused error => file error
  | .undecodable error => encoding error

/-- Whether the file system refused something. It is not even asked about a path with a null
character. -/
def isRefusal : Fault → Bool
  | file error => error.problem ≠ .nullCharacter
  | _ => false

/-- Whether a file has no content of the wanted form, or cannot be read at all. -/
def isUnreadable : Fault → Bool
  | json .tooDeep => false
  | file _ | encoding _ | json _ => true
  | _ => false

end Fault

end TapeMachine

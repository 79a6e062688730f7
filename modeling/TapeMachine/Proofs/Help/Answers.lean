import TapeMachine.Proofs.Files.Homes
import TapeMachine.Proofs.Help.Counting
import TapeMachine.Proofs.Help.Messages
import TapeMachine.Proofs.Json.Reading

namespace TapeMachine.Help

open Files Text

variable {files after : Tree} {counter : Counter} {counts fields : Json.Fields} {fault : Fault}
variable {path question : String} {value : Json} {place : Place}

namespace Counter

/-- A path without null characters, which lead nowhere, and without brackets, which may stand for
marks in a warning. -/
structure Plain (counter : Counter) (path : String) : Prop where
  path_eq : counter.path = .whole path
  null_notMem : '\x00' ∉ path.toList
  bracket_notMem : '[' ∉ path.toList

/-- What is read at a path. -/
def content (files : Tree) (path : String) : Except Fault Json :=
  ((files.readText path).mapError Fault.ofRead).bind fun text =>
    (Json.read text).mapError Fault.json

/-- What an object says of a question, which is nothing if it has not been counted. -/
def entry (fields : Json.Fields) (question : String) : Json :=
  (fields.get? question).getD (.int 0)

end Counter

open Counter

end TapeMachine.Help

import SampleTypes.Error
import SampleTypes.Files.Fault

set_option autoImplicit false

/-! # Failed runs

Why a run came to nothing, what it says about that, and the status it ends with. -/

namespace SampleTypes.CommandLine

open Files (FileFault)

/-- What was to be done with a file. -/
inductive FileAction where
  | read
  | create
  /-- Put a file into a directory. -/
  | enter
  | write
  deriving Repr, DecidableEq

/-- What was to be done, in words. -/
def FileAction.phrase : FileAction → String
  | .read => "failed to read "
  | .create => "failed to create "
  | .enter => "cannot write to "
  | .write => "failed to write "

/-- Why a run failed. -/
inductive Failure where
  /-- No document was given. -/
  | noInput
  /-- The file of options breaks the grammar, or holds something else. -/
  | badOptions (path : String) (diagnostic : Json.Diagnostic)
  /-- The document could not be rendered. -/
  | document (error : Error)
  /-- A file could not be used. -/
  | file (action : FileAction) (path : String) (fault : FileFault)
  deriving Repr, DecidableEq

namespace Failure

/-- The wording of a failure. A diagnostic stands a second time, as the cause of the
    failure. -/
def message : Failure → String
  | .noInput => "no JSON input: pass it inline, with --input, or on stdin"
  | .badOptions path d => "invalid options file " ++ path ++ ": " ++ d.message ++ ": " ++ d.message
  | .document (.malformed d) => Error.message (.malformed d) ++ ": " ++ d.message
  | .document e => e.message
  | .file action path fault => action.phrase ++ path ++ ": " ++ fault.message

/-- The exit status of a failure. -/
def exitCode : Failure → Nat
  | .noInput => 66
  | .badOptions .. => 65
  | .document e => e.exitCode
  | .file .. => 74

end Failure

end SampleTypes.CommandLine

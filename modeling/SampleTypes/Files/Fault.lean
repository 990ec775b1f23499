set_option autoImplicit false

/-! # Why a file could not be used -/

namespace SampleTypes.Files

/-- Why the system refused to use a file or a directory. -/
inductive FileFault where
  | notFound
  | busy
  | alreadyThere
  | notDirectory
  | isDirectory
  | nameTooLong
  /-- Any other reason, in the system's own words. -/
  | other (reason : String)
  deriving Repr, DecidableEq

/-- The system's words for a fault, and its number. -/
def FileFault.message : FileFault → String
  | .notFound => "No such file or directory (os error 2)"
  | .busy => "Device or resource busy (os error 16)"
  | .alreadyThere => "File exists (os error 17)"
  | .notDirectory => "Not a directory (os error 20)"
  | .isDirectory => "Is a directory (os error 21)"
  | .nameTooLong => "File name too long (os error 36)"
  | .other reason => reason

end SampleTypes.Files

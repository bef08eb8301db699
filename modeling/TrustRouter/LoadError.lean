import TrustRouter.Document.Fault
import TrustRouter.Manager

/-! # Why a load fails

Every way in which reading, assembling or promoting a configuration can fail. None is fatal: what
was active stays active. `LoadError.kind` is the stable word for the class of an error and
`LoadError.message` its text.
-/

namespace TrustRouter

/-- Why the operating system refuses a file or directory. -/
inductive OsError where
  | notFound
  | notDirectory
  | isDirectory
  | nameTooLong
  /-- A path holds a NUL character, which no file name can. -/
  | nulInPath
  /-- Any other refusal, in the system's words. -/
  | other (message : String)
deriving DecidableEq

/-- The refusal in words. -/
def OsError.message : OsError → String
  | .notFound => "No such file or directory (os error 2)"
  | .notDirectory => "Not a directory (os error 20)"
  | .isDirectory => "Is a directory (os error 21)"
  | .nameTooLong => "File name too long (os error 36)"
  | .nulInPath => "file name contained an unexpected NUL byte"
  | .other message => message

/-- Where a malformed value is: the document, if it is known, and the place in its value, if it
is about a value. -/
structure Location where
  document : Option String
  path : Option Json.Path
deriving DecidableEq

/-- The location as shown to people. -/
def Location.text : Location → String
  | ⟨none, none⟩ => ""
  | ⟨none, some path⟩ => path.text
  | ⟨some document, none⟩ => document
  | ⟨some document, some path⟩ => document ++ ":" ++ path.text

/-- What was attempted on a file or directory. -/
inductive Attempt where
  | opening
  | reading
deriving DecidableEq

/-- The attempt as a verb. -/
def Attempt.verb : Attempt → String
  | opening => "open"
  | reading => "read"

/-- Why a configuration cannot be loaded. -/
inductive LoadError where
  /-- There are no documents. -/
  | noDocuments
  /-- There is nothing to promote. -/
  | nothingStaged
  | malformed (location : Location) (reason : Reason)
  /-- Everything is well-formed, but something is missing. -/
  | incomplete (issues : List Issue)
  /-- A community has a member that is no declared realm. -/
  | unknownRealm (community realm : Name)
  | io (attempt : Attempt) (path : String) (e : OsError)
  /-- An entry of a directory cannot be had. Neither it nor the directory is named. -/
  | entry (e : OsError)
  /-- The manager cannot be used any more. -/
  | poisoned
deriving DecidableEq

namespace LoadError

/-- The word for the class of an error. -/
def kind : LoadError → String
  | noDocuments => "bad_params"
  | nothingStaged => "bad_params"
  | malformed .. => "no_parse"
  | incomplete _ => "validation"
  | unknownRealm .. => "not_found"
  | io .. => "io"
  | entry _ => "io"
  | poisoned => "manager"

/-- The error in words. -/
def message : LoadError → String
  | noDocuments => "config bad parameters: no configuration documents supplied"
  | nothingStaged => "config bad parameters: " ++ ManagerError.nothingStaged.message
  | malformed location reason =>
    "config parse error at " ++ location.text ++ ": " ++ reason.message
  | incomplete issues => Issue.report issues
  | unknownRealm community realm =>
    "config reference not found: " ++ (EntityError.unknownRealm community realm).message
  | io attempt path e =>
    "config io error: cannot " ++ attempt.verb ++ " " ++ path ++ ": " ++ e.message
  | entry e => "config io error: " ++ e.message
  | poisoned => ManagerError.poisoned.message

/-- The error for a rule of the model broken at a location. -/
def ofEntityError (location : Location) : EntityError → LoadError
  | .unknownRealm community realm => unknownRealm community realm
  | .incomplete issues => incomplete issues
  | e => malformed location (.entity e)

/-- The error for a fault in a value, the whole of which is called `document` if it has a name. -/
def ofFault (document : Option String) (fault : Fault) : LoadError :=
  malformed ⟨document, some fault.path⟩ fault.reason

/-- The error for a refusal of the manager. -/
def ofManagerError : ManagerError → LoadError
  | .nothingStaged => nothingStaged
  | .poisoned => poisoned

end LoadError

end TrustRouter

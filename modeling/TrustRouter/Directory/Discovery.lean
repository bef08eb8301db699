import TrustRouter.Document.Basic

/-! # Discovering configuration files

Which files of a directory are configuration documents, and in what order they are read. A listing
gives the entries of a directory in whatever order the system enumerates them; there is none when
the system refuses the directory, or an entry while it enumerates. The configuration files of a
listing are the regular files with a configuration file's name, in ascending byte order of the
names; since later documents override earlier ones, this order must not depend on the enumeration.
-/

namespace TrustRouter

/-- Why a file could not be read: at which attempt, and what the system said. -/
abbrev FileError := Attempt × OsError

/-- An entry of a directory. -/
inductive Entry where
  /-- A regular file with its bytes, or the reason why they cannot be had. -/
  | file (contents : Except FileError ByteArray)
  /-- A directory, or anything else that is not known to be a regular file. -/
  | other

/-- The entries of a directory with their names. -/
abbrev Listing := List (Name × Entry)

/-- Why there is no listing of a directory. -/
inductive ListingError where
  /-- The directory is refused. -/
  | directory (e : OsError)
  /-- An entry is refused, which ends the enumeration. -/
  | entry (e : OsError)
deriving DecidableEq

/-- The listing that an enumeration gives, entry by entry: the first refusal ends it, and what came
before counts for nothing. -/
def Listing.ofEntries (entries : List (Except OsError (Name × Entry))) :
    Except ListingError Listing :=
  (entries.mapM id).mapError .entry

/-- The error for a directory of which there is no listing. -/
def LoadError.ofListingError (dir : String) : ListingError → LoadError
  | .directory e => io .reading dir e
  | .entry e => entry e

/-! ### Names and paths -/

/-- The end of a configuration file's name. -/
def Name.configSuffix : List UInt8 := [0x2E, 0x63, 0x66, 0x67]

/-- Whether a file of this name is a configuration file: the name ends in `.cfg` and does not begin
with a dot. -/
def Name.isConfigFile (n : Name) : Bool :=
  n.bytes.head? != some 0x2E && configSuffix.isSuffixOf n.bytes

/-- The path of an entry of a directory. -/
def entryPath (dir : String) (name : Name) : String :=
  if dir.isEmpty || dir.endsWith "/" then dir ++ name.text else dir ++ "/" ++ name.text

/-- The name under which a document is reported: the last part of its path, or the whole path when
that part names no file. -/
def documentName (path : String) : String :=
  match (path.splitOn "/").reverse.find? fun part ↦ part ≠ "" ∧ part ≠ "." with
  | none => path
  | some part => if part = ".." then path else part

/-! ### Configuration files -/

/-- A configuration file of a directory. -/
structure ConfigFile where
  name : Name
  contents : Except FileError ByteArray

/-- The entry as a configuration file, if it is one. -/
def ConfigFile.ofListed? : Name × Entry → Option ConfigFile
  | (name, .file contents) => if name.isConfigFile then some ⟨name, contents⟩ else none
  | (_, .other) => none

/-- The configuration files of a directory, in the order in which they are read. -/
def Listing.configFiles (l : Listing) : List ConfigFile :=
  (l.filterMap ConfigFile.ofListed?).mergeSort fun a b ↦ a.name ≤ b.name

/-- The document in a file, given what reading it gave. One byte more is read than a document may
have, and what is beyond it is never looked at. -/
def Document.ofFile (path : String) (contents : Except FileError ByteArray) :
    Except LoadError Document :=
  match contents with
  | .error (attempt, e) => .error (.io attempt path e)
  | .ok bytes => Document.ofBytes (documentName path) (bytes.extract 0 (maxBytes + 1))

/-- The configuration files of a directory, given what listing it gave. -/
def findConfigFiles (dir : String) (listing : Except ListingError Listing) :
    Except LoadError (List ConfigFile) :=
  match listing with
  | .error e => .error (.ofListingError dir e)
  | .ok l => .ok l.configFiles

/-- The documents of a directory in order, or the first failure. -/
def readDocuments (dir : String) (listing : Except ListingError Listing) :
    Except LoadError (List Document) := do
  (← findConfigFiles dir listing).mapM fun f ↦ Document.ofFile (entryPath dir f.name) f.contents

end TrustRouter

import TypedList.Text.Basic

/-!
# Files

A tree of files below a working directory, and what a path leads to in it.  A path is followed
component by component: a file can only be its last component, `.` stays, and `..` goes up.  Above
the working directory nothing but directories is known.
-/

namespace TypedList

/-- What a source holds. -/
inductive Content
  | bytes (data : ByteArray)
  | directory

/-- Why a text cannot be read. -/
inductive ReadFailure
  | notFound
  | isDirectory
  | notDirectory
  | invalidText
  /-- Any other failure, in the system's own words. -/
  | other (reason : Text)
deriving DecidableEq, Repr

/-- The wording of a failure. -/
def ReadFailure.reason : ReadFailure → Text
  | notFound => "No such file or directory (os error 2)".toList
  | isDirectory => "Is a directory (os error 21)".toList
  | notDirectory => "Not a directory (os error 20)".toList
  | invalidText => "stream did not contain valid UTF-8".toList
  | other reason => reason

/-- The text that the bytes of a source encode in UTF-8. -/
def Content.text : Content → Except ReadFailure Text
  | bytes data =>
    match String.fromUTF8? data with
    | some s => .ok s.toList
    | none => .error .invalidText
  | directory => .error .isDirectory

/-- The components of a path, between the slashes. -/
def pathComponents (path : Text) : List Text :=
  path.splitOn '/'

/-- Files by their paths below the working directory. -/
abbrev Files := List (List Text × Content)

/-- A directory that a path has led to. -/
inductive Place
  /-- Below the working directory, or that directory itself. -/
  | inside (path : List Text)
  /-- Above the working directory. -/
  | outside
deriving DecidableEq, Repr

/-- The directory that holds a directory. -/
def Place.parent : Place → Place
  | inside [] => outside
  | inside path => inside path.dropLast
  | outside => outside

namespace Files

/-- Files by their names. -/
def ofNames (entries : List (Text × Content)) : Files :=
  entries.map fun (name, content) => (pathComponents name, content)

/-- What stands at a path below the working directory.  A path that goes on to some file is a
directory. -/
def entry? (files : Files) (path : List Text) : Option Content :=
  match files.lookup path with
  | some content => some content
  | none => if files.any fun (other, _) => path.isPrefixOf other then some .directory else none

/-- Follows the components of a path from a directory. -/
def follow (files : Files) (place : Place) : List Text → Except ReadFailure Content
  | [] => .ok .directory
  | name :: rest =>
    if name = [] ∨ name = ['.'] then files.follow place rest
    else if name = ['.', '.'] then files.follow place.parent rest
    else
      match place with
      | .outside => .error .notFound
      | .inside path =>
        match files.entry? (path ++ [name]) with
        | none => .error .notFound
        | some .directory => files.follow (.inside (path ++ [name])) rest
        | some (.bytes data) =>
          if rest.isEmpty then .ok (.bytes data) else .error .notDirectory

/-- What a path leads to.  One that starts with a slash leads away from the working directory. -/
def find (files : Files) (path : Text) : Except ReadFailure Content :=
  files.follow (if path.head? = some '/' then .outside else .inside []) (pathComponents path)

end Files

end TypedList

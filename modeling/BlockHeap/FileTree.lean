import BlockHeap.Trace.Load

/-!
# File trees

A run takes its file system as a parameter, the answers to its reads, and what is proved of runs
holds for any.  This is one that can be written down, for runs that are to be computed: regular
files, each at its place in a tree of directories, and a working directory.  A path is followed name
by name, from the root if it starts with a slash and from the working directory if not.  The first
name that leads nowhere decides the error, so a path through a regular file fails even where a later
`..` would leave it again.
-/

namespace BlockHeap

/-- A place in a tree: the names on the way there from the root, the last one first. -/
abbrev Place := List String

/-- Regular files in a tree of directories.  The directories are the ones that lead to a file or
to the working directory. -/
structure FileTree where
  files : List (Place × ByteArray)
  workingDirectory : Place

namespace FileTree

/-- The most bytes that a name has. -/
def nameLimit : Nat := 255

/-- The most bytes that a path has. -/
def pathLimit : Nat := 4095

/-- The bytes of the regular file at a place. -/
def file? (tree : FileTree) (place : Place) : Option ByteArray := tree.files.lookup place

/-- Whether there is a directory at a place. -/
def isDirectory (tree : FileTree) (place : Place) : Bool :=
  place.isSuffixOf tree.workingDirectory ||
    tree.files.any fun (file, _) => place.isSuffixOf file.tail

/-- The place to which a name leads.  An empty name, as a doubled slash or one at the end gives it,
leads nowhere else, and the root is above itself. -/
def enter (tree : FileTree) (place : Place) (name : String) : Except FileError Place :=
  if !tree.isDirectory place then .error .notDirectory
  else if name = "" || name = "." then .ok place
  else if name = ".." then .ok place.tail
  else if nameLimit < name.utf8ByteSize then .error .nameTooLong
  else if tree.isDirectory (name :: place) || (tree.file? (name :: place)).isSome then
    .ok (name :: place)
  else .error .notFound

/-- The place to which a path leads. -/
def follow (tree : FileTree) (path : String) : Except FileError Place :=
  if path = "" then .error .notFound
  else if pathLimit < path.utf8ByteSize then .error .nameTooLong
  else
    let start := if path.startsWith "/" then [] else tree.workingDirectory
    let names := (path.toList.splitOn '/').map String.ofList
    names.foldlM tree.enter start

/-- The bytes of the file to which a path leads. -/
def read (tree : FileTree) (path : String) : Except FileError ByteArray := do
  match tree.file? (← tree.follow path) with
  | some bytes => return bytes
  | none => throw .isDirectory

end FileTree

end BlockHeap

import XmlPreamble.Source

/-!
# Trees of files

Files and directories under their paths, and the walk that finds a file from the root or from the
directory that is current.  The walk goes from name to name.  It looks at a name only from within
a directory, so that what is wrong with an earlier name is reported first.  A directory can be
opened, but nothing can be read from it.
-/

namespace XmlPreamble

/-- What stands under a path. -/
inductive Entry where
  /-- A file with its content. -/
  | file (content : Bytes)
  /-- A directory. -/
  | directory
  deriving DecidableEq, Repr

/-- A tree of files.  A path from the root is the list of the names on it. -/
structure FileTree where
  /-- What stands under which path, the latest first. -/
  entries : List (List Bytes × Entry)
  /-- The path of the current directory. -/
  current : List Bytes
  deriving DecidableEq, Repr

namespace FileTree

section Contents

/-- The paths that lead to a path, the root aside. -/
def leadingTo (path : List Bytes) : List (List Bytes) :=
  (List.range path.length).map path.take

/-- Puts an entry under a path, and makes the directories that lead to it. -/
def put (tree : FileTree) (path : List Bytes) (entry : Entry) : FileTree :=
  { tree with
    entries := (path, entry) :: (leadingTo path).map (·, Entry.directory) ++ tree.entries }

/-- Writes a file under a path. -/
def write (tree : FileTree) (path : List Bytes) (content : Bytes) : FileTree :=
  tree.put path (.file content)

/-- Makes a directory under a path. -/
def makeDirectory (tree : FileTree) (path : List Bytes) : FileTree :=
  tree.put path .directory

/-- The tree that holds nothing but the current directory. -/
def ofCurrent (path : List Bytes) : FileTree :=
  makeDirectory ⟨[], path⟩ path

/-- What stands under a path.  The root is a directory. -/
def lookup? (tree : FileTree) (path : List Bytes) : Option Entry :=
  if path.isEmpty then some .directory
  else (tree.entries.find? fun entry => entry.1 = path).map (·.2)

/-- Whether a directory stands under a path. -/
def isDirectory (tree : FileTree) (path : List Bytes) : Bool :=
  tree.lookup? path = some .directory

end Contents

section Failures

/-- A failure that the system reports by number. -/
def systemError (kind : ErrorKind) (text : String) (number : Nat) : IoError :=
  ⟨kind, text ++ " (os error " ++ toString number ++ ")"⟩

/-- Nothing stands under the path. -/
def notFound : IoError := systemError .notFound "No such file or directory" 2

/-- Something on the path is no directory. -/
def notADirectory : IoError := systemError .notADirectory "Not a directory" 20

/-- A directory was read from. -/
def isADirectory : IoError := systemError .isADirectory "Is a directory" 21

/-- The path or a name on it is too long. -/
def nameTooLong : IoError := systemError .invalidFilename "File name too long" 36

/-- The path holds a byte that ends texts for the system. -/
def unexpectedNul : IoError :=
  ⟨.invalidInput, "file name contained an unexpected NUL byte"⟩

/-- The length from which on a path is too long. -/
def pathLimit : Nat := 4096

/-- The greatest length of a name. -/
def nameLimit : Nat := 255

end Failures

section Opening

/-- Walks on from a place along names.  Two dots lead back towards the root. -/
def follow (tree : FileTree) (place : List Bytes) : List Bytes → Except IoError (List Bytes)
  | [] => .ok place
  | name :: rest =>
      if !tree.isDirectory place then .error notADirectory
      else if name.isEmpty || name = [0x2E] then follow tree place rest
      else if name = [0x2E, 0x2E] then follow tree place.dropLast rest
      else if nameLimit < name.length then .error nameTooLong
      else if (tree.lookup? (place ++ [name])).isNone then .error notFound
      else follow tree (place ++ [name]) rest

/-- The names between the slashes of a path. -/
def names (path : Bytes) : List Bytes :=
  path.splitOnP (· = 0x2F)

/-- The place that a path leads to. -/
def locate (tree : FileTree) (path : Bytes) : Except IoError (List Bytes) :=
  if path.contains 0 then .error unexpectedNul
  else if path.isEmpty then .error notFound
  else if pathLimit ≤ path.length then .error nameTooLong
  else tree.follow (if path.head? = some 0x2F then [] else tree.current) (names path)

/-- What can be read from an entry. -/
def sourceOf : Entry → Source
  | .file content => .ofBytes content
  | .directory => ⟨[.failure isADirectory], []⟩

/-- Opens what a path leads to. -/
def openFile (tree : FileTree) (path : Bytes) : Except IoError Source :=
  match tree.locate path with
  | .error error => .error error
  | .ok place =>
      match tree.lookup? place with
      | none => .error notFound
      | some entry => .ok (sourceOf entry)

end Opening

end FileTree

end XmlPreamble

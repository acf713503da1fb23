/-!
# Failures of input

What can go wrong when a byte source is read or a file is opened: a kind, by which programs tell
failures apart, and a text for people.
-/

namespace XmlPreamble

/-- The kinds of failure that a byte source or a tree of files can report. -/
inductive ErrorKind where
  | notFound
  | permissionDenied
  | connectionReset
  | brokenPipe
  | notADirectory
  | isADirectory
  | invalidFilename
  | invalidInput
  | invalidData
  | timedOut
  | wouldBlock
  | interrupted
  | unexpectedEof
  | outOfMemory
  | other
  deriving DecidableEq, Repr, Inhabited

namespace ErrorKind

/-- All kinds of failure. -/
def all : List ErrorKind :=
  [notFound, permissionDenied, connectionReset, brokenPipe, notADirectory, isADirectory,
   invalidFilename, invalidInput, invalidData, timedOut, wouldBlock, interrupted, unexpectedEof,
   outOfMemory, other]

/-- The name of a kind in records. -/
def label : ErrorKind → String
  | notFound => "NotFound"
  | permissionDenied => "PermissionDenied"
  | connectionReset => "ConnectionReset"
  | brokenPipe => "BrokenPipe"
  | notADirectory => "NotADirectory"
  | isADirectory => "IsADirectory"
  | invalidFilename => "InvalidFilename"
  | invalidInput => "InvalidInput"
  | invalidData => "InvalidData"
  | timedOut => "TimedOut"
  | wouldBlock => "WouldBlock"
  | interrupted => "Interrupted"
  | unexpectedEof => "UnexpectedEof"
  | outOfMemory => "OutOfMemory"
  | other => "Other"

/-- The kind with the given name, if there is one. -/
def ofLabel? (text : String) : Option ErrorKind :=
  all.find? fun kind => kind.label == text

/-- The text of a failure of which nothing but the kind is known. -/
def description : ErrorKind → String
  | notFound => "entity not found"
  | permissionDenied => "permission denied"
  | connectionReset => "connection reset"
  | brokenPipe => "broken pipe"
  | notADirectory => "not a directory"
  | isADirectory => "is a directory"
  | invalidFilename => "invalid filename"
  | invalidInput => "invalid input parameter"
  | invalidData => "invalid data"
  | timedOut => "timed out"
  | wouldBlock => "operation would block"
  | interrupted => "operation interrupted"
  | unexpectedEof => "unexpected end of file"
  | outOfMemory => "out of memory"
  | other => "other error"

end ErrorKind

/-- A failure of input. -/
structure IoError where
  /-- The kind by which programs tell the failure from others. -/
  kind : ErrorKind
  /-- The text for people. -/
  text : String
  deriving DecidableEq, Repr

/-- The failure of which nothing but the kind is known. -/
def IoError.ofKind (kind : ErrorKind) : IoError :=
  ⟨kind, kind.description⟩

end XmlPreamble

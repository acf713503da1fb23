/-!
# Functions of the library

What callers can call: the name of each function, how many arguments it takes, and on which kind
of thread it runs.
-/

namespace XmlPreamble.Interface

/-- The functions that callers can call. -/
inductive Function where
  | detect
  | detectBatch
  | detectCode
  | detectFile
  | detectFiles
  | streamingFeed
  | streamingFinish
  | streamingNew
  | streamingStatus
  deriving DecidableEq, Repr

/-- The kinds of threads on which functions run. -/
inductive Schedule where
  /-- The thread of the caller. -/
  | normal
  /-- A thread for long computations. -/
  | dirtyCpu
  /-- A thread for work that waits for files. -/
  | dirtyIo
  deriving DecidableEq, Repr

namespace Schedule

/-- The name of a kind of thread in records. -/
def label : Schedule → String
  | normal => "Normal"
  | dirtyCpu => "DirtyCpu"
  | dirtyIo => "DirtyIo"

end Schedule

namespace Function

/-- The module under whose name callers find the functions. -/
def moduleName : String :=
  "Elixir.XmlMode.Native"

/-- All functions, in the order of their names. -/
def all : List Function :=
  [detect, detectBatch, detectCode, detectFile, detectFiles, streamingFeed, streamingFinish,
   streamingNew, streamingStatus]

/-- The name of a function. -/
def name : Function → String
  | detect => "detect"
  | detectBatch => "detect_batch"
  | detectCode => "detect_code"
  | detectFile => "detect_file"
  | detectFiles => "detect_files"
  | streamingFeed => "streaming_feed"
  | streamingFinish => "streaming_finish"
  | streamingNew => "streaming_new"
  | streamingStatus => "streaming_status"

/-- The number of arguments of a function. -/
def arity : Function → Nat
  | streamingNew => 0
  | streamingFeed => 2
  | _ => 1

/-- On which kind of thread a function runs. -/
def schedule : Function → Schedule
  | detectBatch => .dirtyCpu
  | detectFile => .dirtyIo
  | detectFiles => .dirtyIo
  | _ => .normal

/-- The function with the given name, if there is one. -/
def ofName? (text : String) : Option Function :=
  all.find? fun function => function.name == text

end Function

end XmlPreamble.Interface

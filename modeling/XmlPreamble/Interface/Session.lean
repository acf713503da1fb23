import XmlPreamble.Detection.File
import XmlPreamble.Detection.Shared
import XmlPreamble.Interface.Function
import XmlPreamble.Interface.Term
import XmlPreamble.LineReader

/-!
# Sessions

A session is the library in use: callers call its functions one after the other, and the detectors
that they make live on between the calls.  A call is looked at as a whole before anything runs.
Arguments of the wrong kind are refused, and then the session stays as it was.

Main statements:

- `call_of_not_request`: a call with arguments of the wrong kind is refused and changes nothing;
- `answer_detectors_of_ne`: a request to one detector leaves all others alone;
- `answer_of_poisoned`: every request to a poisoned detector is refused.
-/

namespace XmlPreamble.Interface

open Detection

/-- What a call asks for, once its arguments have been taken apart. -/
inductive Request where
  /-- The mode of a document. -/
  | detect (document : Bytes)
  /-- The code of the mode of a document. -/
  | detectCode (document : Bytes)
  /-- The modes of many documents. -/
  | detectBatch (documents : List Bytes)
  /-- The mode of the document at a location. -/
  | detectFile (location : List Char)
  /-- The modes of the documents at many locations. -/
  | detectFiles (locations : List (List Char))
  /-- A new detector. -/
  | make
  /-- One more chunk for a detector. -/
  | feed (detector : Nat) (chunk : Bytes)
  /-- The end of the input of a detector. -/
  | finish (detector : Nat)
  /-- How a detector stands. -/
  | status (detector : Nat)
  deriving DecidableEq, Repr

/-- What the arguments of a call ask for, if they are of the right kinds. -/
def Request.ofTerms? : Function → List Term → Option Request
  | .detect, [document] => document.binary?.map .detect
  | .detectCode, [document] => document.binary?.map .detectCode
  | .detectBatch, [documents] => (documents.listOf? Term.binary?).map .detectBatch
  | .detectFile, [location] => location.text?.map .detectFile
  | .detectFiles, [locations] => (locations.listOf? Term.text?).map .detectFiles
  | .streamingNew, [] => some .make
  | .streamingFeed, [detector, chunk] => do
      let index ← detector.detector?
      let data ← chunk.binary?
      return .feed index data
  | .streamingFinish, [detector] => detector.detector?.map .finish
  | .streamingStatus, [detector] => detector.detector?.map .status
  | _, _ => none

/-- The detector to which a request is made. -/
def Request.target? : Request → Option Nat
  | feed index _ => some index
  | finish index => some index
  | status index => some index
  | _ => none

/-- Why a call is refused. -/
inductive Refusal where
  /-- An argument is of the wrong kind. -/
  | badArgument
  /-- The detector is poisoned. -/
  | poisoned
  deriving DecidableEq, Repr

/-- The term by which a caller learns of a refusal. -/
def Refusal.term : Refusal → Term
  | badArgument => .atom "badarg"
  | poisoned => .atom (Poisoned.message {})

/-- The answer to a call. -/
abbrev Reply := Except Refusal Term

/-- The library in use. -/
structure Session where
  /-- The detectors, in the order in which they were made. -/
  detectors : List Shared := []
  deriving DecidableEq, Repr

namespace Session

/-- A session before the first call. -/
def start : Session := {}

/-- The status of a detector as a term. -/
def statusTerm (status : Shared.Status) : Term :=
  .tuple [.ofBool status.decision.isSome, .ofNat status.buffered, .ofNat status.bytesSeen]

/-- Lets one detector do something, and answers with what came of it. -/
def useDetector {α : Type} (session : Session) (index : Nat)
    (action : Shared → Except Poisoned α × Shared) (render : α → Term) : Reply × Session :=
  match session.detectors[index]? with
  | none => (.error .badArgument, session)
  | some shared =>
      let (result, next) := action shared
      let session := { session with detectors := session.detectors.set index next }
      match result with
      | .ok value => (.ok (render value), session)
      | .error _ => (.error .poisoned, session)

/-- Answers a request. -/
def answer (openFile : OpenFile) (session : Session) : Request → Reply × Session
  | .detect document =>
      (.ok (.ofMode (detectBytes document LineReader.defaultCapacity)), session)
  | .detectCode document =>
      (.ok (.ofNat (detectBytes document LineReader.defaultCapacity).code), session)
  | .detectBatch documents =>
      (.ok (.list ((detectAll documents LineReader.defaultCapacity).map .ofMode)), session)
  | .detectFile location =>
      (.ok (.ofOutcome (detectLocation openFile LineReader.defaultCapacity location)), session)
  | .detectFiles locations =>
      (.ok (.list ((detectLocations openFile LineReader.defaultCapacity locations).map .ofOutcome)),
        session)
  | .make =>
      (.ok (.detector session.detectors.length),
        { session with detectors := session.detectors ++ [.fresh] })
  | .feed index chunk =>
      session.useDetector index (fun shared => shared.feed chunk) fun fed => .ofDecision fed.1
  | .finish index =>
      session.useDetector index (fun shared => shared.finish) fun finished => .ofMode finished.1
  | .status index =>
      session.useDetector index (fun shared => shared.status) statusTerm

/-- Answers a call. -/
def call (openFile : OpenFile) (session : Session) (function : Function) (arguments : List Term) :
    Reply × Session :=
  match Request.ofTerms? function arguments with
  | none => (.error .badArgument, session)
  | some request => session.answer openFile request

/-- A caller fails while it holds the lock of a detector. -/
def poison (session : Session) (index : Nat) : Session :=
  match session.detectors[index]? with
  | none => session
  | some shared => { session with detectors := session.detectors.set index shared.poison.2 }

section Laws

/-- A call with arguments of the wrong kind is refused and changes nothing. -/
theorem call_of_not_request
    (openFile : OpenFile)
    (session : Session)
    {function : Function}
    {arguments : List Term}
    (h : Request.ofTerms? function arguments = none) :
    session.call openFile function arguments = (.error .badArgument, session) := by
  simp [call, h]

theorem useDetector_detectors_of_ne
    {α : Type}
    (session : Session)
    {index other : Nat}
    (action : Shared → Except Poisoned α × Shared)
    (render : α → Term)
    (hne : index ≠ other) :
    (session.useDetector index action render).2.detectors[other]? = session.detectors[other]? := by
  rw [useDetector]
  split
  · rfl
  · simp only
    split <;> exact List.getElem?_set_ne hne

/-- A request to one detector leaves all others alone. -/
theorem answer_detectors_of_ne
    (openFile : OpenFile)
    (session : Session)
    (request : Request)
    {other : Nat}
    (hlt : other < session.detectors.length)
    (hne : request.target? ≠ some other) :
    (session.answer openFile request).2.detectors[other]? = session.detectors[other]? := by
  cases request with
  | make => exact List.getElem?_append_left hlt
  | feed index chunk =>
      exact useDetector_detectors_of_ne session _ _ fun h => hne (congrArg some h)
  | finish index =>
      exact useDetector_detectors_of_ne session _ _ fun h => hne (congrArg some h)
  | status index =>
      exact useDetector_detectors_of_ne session _ _ fun h => hne (congrArg some h)
  | detect | detectCode | detectBatch | detectFile | detectFiles => rfl

/-- Every request to a poisoned detector is refused. -/
theorem answer_of_poisoned
    (openFile : OpenFile)
    (session : Session)
    {request : Request}
    {index : Nat}
    (htarget : request.target? = some index)
    (hpoisoned : session.detectors[index]? = some .poisoned) :
    (session.answer openFile request).1 = .error .poisoned := by
  cases request <;> simp only [Request.target?, Option.some.injEq, reduceCtorEq] at htarget
  all_goals
    subst htarget
    simp [answer, useDetector, hpoisoned, Shared.feed, Shared.finish, Shared.status, Shared.use]

end Laws

end Session

end XmlPreamble.Interface

import XmlPreamble.Detection.Error
import XmlPreamble.Detection.Event
import XmlPreamble.LineReader

/-!
# Detection by pulling lines

The mode of a document is read off its preamble line by line.  A document type declaration before
the first tag makes it a document for validation by DTD; the first tag, or the end of the input,
makes it one for validation by schema; a line that is not text leaves the choice to the caller.
No line behind the deciding one is asked for.

Main statement:

- `outcome_ne_none`: no run answers that validation is off.
-/

namespace XmlPreamble.Detection

/-- What came of one run over a source. -/
structure Run where
  /-- The mode, or why there is none. -/
  outcome : Except Failure Mode
  /-- What the run told its observer, in order. -/
  events : List Event
  /-- The reader as the run left it. -/
  reader : LineReader

namespace Run

/-- The run that ends with a verdict, after the given events, the latest first. -/
def concluded (reader : LineReader) (verdict : Scan.Verdict) (events : List Event) : Run where
  outcome := .ok (Mode.ofVerdict verdict)
  events :=
    (.concluded (Mode.ofVerdict verdict) verdict reader.count.number
      (.encoding reader.encoding) :: events).reverse
  reader := reader

/-- The run that ends with a line that is not text. -/
def undecodable (reader : LineReader) (error : DecodeError) (events : List Event) : Run where
  outcome := .ok .auto
  events := (.undecodable error :: events).reverse
  reader := reader

/-- The run that ends with a failure of the source. -/
def failed (reader : LineReader) (error : IoError) (events : List Event) : Run where
  outcome := .error (.io error)
  events := events.reverse
  reader := reader

end Run

/-- Looks at the lines of a reader until one of them decides.  The events so far stand in `events`,
the latest first. -/
def scanLines (reader : LineReader) (state : Scan.State) (events : List Event) : Run :=
  match _h : reader.nextLine with
  | (.error (.io error), next) => .failed next error events
  | (.error (.decode error), next) => .undecodable next error events
  | (.ok none, next) => .concluded next .proceed events
  | (.ok (some line), next) =>
      let (verdict, state) := state.classify line
      let events := .classified next.count.number verdict state.inComment :: events
      if verdict.isFinal then
        .concluded next verdict events
      else
        scanLines next state events
termination_by reader.remaining
decreasing_by exact LineReader.remaining_nextLine_lt _h

/-- Detects the mode of the document that a source delivers, through a buffer that is at first of
the given length. -/
def detect (source : Source) (capacity : Nat) : Run :=
  scanLines (.ofSource source capacity) .start []

/-- Detects the mode of a document in memory. -/
def detectBytes (document : Bytes) (capacity : Nat) : Mode :=
  match (detect (.ofBytes document) capacity).outcome with
  | .ok mode => mode
  | .error _ => .auto

/-- Detects the mode of every document in memory, in order. -/
def detectAll (documents : List Bytes) (capacity : Nat) : List Mode :=
  documents.map fun document => detectBytes document capacity

section Answers

theorem scanLines_outcome_ne_none
    (reader : LineReader)
    (state : Scan.State)
    (events : List Event) :
    (scanLines reader state events).outcome ≠ .ok .none := by
  fun_induction scanLines reader state events with
  | case1 => simp [Run.failed]
  | case2 => simp [Run.undecodable]
  | case3 => simp [Run.concluded, Mode.ofVerdict_ne_none]
  | case4 => simp [Run.concluded, Mode.ofVerdict_ne_none]
  | case5 _ _ _ _ _ _ _ _ _ _ _ ih => exact ih

/-- No run answers that validation is off. -/
theorem outcome_ne_none
    (source : Source)
    (capacity : Nat) :
    (detect source capacity).outcome ≠ .ok .none :=
  scanLines_outcome_ne_none _ _ _

end Answers

end XmlPreamble.Detection

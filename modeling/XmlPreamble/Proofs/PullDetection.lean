import XmlPreamble.Detection.Pull
import XmlPreamble.Proofs.ReaderLines

/-!
# Detection by pulling lines says what the whole document says

A detection that pulls lines sees a document through a buffer and through the calls that its source
answers.  This module connects it with the look at the whole document: the answer and the events
are those of the transcript, whatever the length of the buffer, however the source cuts the
document into deliveries and however often it is interrupted.

Main statements:

- `scanLines_eq_transcript`: from any place of a document on, a run says what the pieces ahead say;
- `detectBytes_eq`: the look at a document in memory comes to the mode that the document says;
- `detect_eq_transcript`: a run over a source says what the document says that it delivers.
-/

namespace XmlPreamble
namespace Detection

section Levels

/-- The events for single lines are those that an observer of every step wants to hear. -/
theorem Transcript.level_looked
    (encoding : Encoding)
    (count : LineCount)
    (state : Scan.State)
    (pieces : List Piece) :
    ∀ event ∈ (ofPieces encoding count state pieces).looked, event.level = .trace := by
  fun_induction ofPieces encoding count state pieces with
  | case1 =>
      intro event hmem
      cases hmem
  | case2 =>
      intro event hmem
      cases hmem
  | case3 =>
      intro event hmem
      rw [List.mem_singleton.1 hmem]
      rfl
  | case4 count state piece rest line hline verdict after hstep count' event hfinal ih =>
      intro seen hmem
      rcases List.mem_cons.1 hmem with rfl | hmem
      · rfl
      · exact ih seen hmem

theorem Ending.level_event
    (ending : Ending)
    (extent : Extent) :
    (ending.event extent).level = .debug := by
  cases ending <;> rfl

/-- Of the events of a run, those for single lines are the ones at the level of single steps. -/
theorem filter_trace_looked
    (encoding : Encoding)
    (count : LineCount)
    (state : Scan.State)
    (pieces : List Piece)
    (extent : Extent) :
    let transcript := Transcript.ofPieces encoding count state pieces
    (transcript.looked ++ [transcript.ending.event extent]).filter (·.level == .trace) =
      transcript.looked := by
  intro transcript
  have hlooked : transcript.looked.filter (·.level == .trace) = transcript.looked := by
    rw [List.filter_eq_self]
    intro event hmem
    rw [Transcript.level_looked encoding count state pieces event hmem]
    rfl
  rw [List.filter_append, hlooked, List.filter_cons_of_neg, List.filter_nil, List.append_nil]
  rw [Ending.level_event]
  decide

/-- The event that tells of the end is the only one at its level. -/
theorem filter_debug_looked
    (encoding : Encoding)
    (count : LineCount)
    (state : Scan.State)
    (pieces : List Piece)
    (extent : Extent) :
    let transcript := Transcript.ofPieces encoding count state pieces
    (transcript.looked ++ [transcript.ending.event extent]).filter (·.level == .debug) =
      [transcript.ending.event extent] := by
  intro transcript
  have hlooked : transcript.looked.filter (·.level == .debug) = [] := by
    rw [List.filter_eq_nil_iff]
    intro event hmem
    rw [Transcript.level_looked encoding count state pieces event hmem]
    decide
  rw [List.filter_append, hlooked, List.nil_append, List.filter_cons_of_pos, List.filter_nil]
  rw [Ending.level_event]
  rfl

end Levels

section Runs

/-- What a run answers and tells is what the pieces ahead of its reader say. -/
theorem scanLines_eq_transcript
    {reader : LineReader}
    (state : Scan.State)
    (events : List Event)
    (hsized : reader.Sized)
    (hclear : reader.obstacle? = none) :
    let transcript :=
      Transcript.ofPieces reader.encodingAhead reader.count state reader.piecesAhead
    (scanLines reader state events).outcome = .ok transcript.ending.mode ∧
      (scanLines reader state events).events =
        events.reverse ++ transcript.looked ++
          [transcript.ending.event (.encoding (some reader.encodingAhead))] := by
  fun_induction scanLines reader state events with
  | case1 reader state events error next hline =>
      rw [LineReader.nextLine_io hsized hline] at hclear
      cases hclear
  | case2 reader state events error next hline =>
      obtain ⟨piece, hpasses, hdecode⟩ := LineReader.nextLine_decode hsized hline
      rw [hpasses.pieces, Transcript.ofPieces, hdecode]
      exact ⟨rfl, by simp [Run.undecodable, Ending.event]⟩
  | case3 reader state events next hline =>
      obtain ⟨hpieces, hsettled, hcount⟩ := LineReader.nextLine_none hsized hline
      rw [hpieces, Transcript.ofPieces]
      exact ⟨rfl, by simp [Run.concluded, Ending.event, Ending.mode_settled, hsettled, hcount]⟩
  | case4 reader state events next line hline verdict after hstep events' hfinal =>
      obtain ⟨piece, hpasses, hdecode⟩ := LineReader.nextLine_some hsized hline
      rw [hpasses.pieces, Transcript.ofPieces, hdecode]
      simp only [hstep, hfinal, if_true, ← hpasses.count, Ending.event, Ending.mode_settled]
      exact ⟨rfl, by simp [events', Run.concluded, hpasses.settled]⟩
  | case5 reader state events next line hline verdict after hstep events' hfinal ih =>
      obtain ⟨piece, hpasses, hdecode⟩ := LineReader.nextLine_some hsized hline
      obtain ⟨houtcome, hevents⟩ := ih hpasses.sized (hpasses.obstacle.trans hclear)
      rw [hpasses.encodingAhead] at houtcome hevents
      rw [hpasses.pieces, Transcript.ofPieces, hdecode]
      simp only [hstep, hfinal, ← hpasses.count]
      exact ⟨houtcome, by simp [hevents, events', Transcript.after]⟩

/-- A run over a source answers and tells what the document says that the source delivers. -/
theorem detect_of_delivers
    {source : Source}
    {document : Bytes}
    (hsource : source.Delivers document)
    (capacity : Nat) :
    (detect source capacity).outcome = .ok (transcript document).ending.mode ∧
      (detect source capacity).events =
        (transcript document).looked ++
          [(transcript document).ending.event (.encoding (some (Encoding.sniff document)))] := by
  obtain ⟨rfl, hclear⟩ := hsource
  exact scanLines_eq_transcript .start [] (LineReader.sized_ofSource source capacity) hclear

/-- The look at a document in memory comes to the mode that the document says. -/
theorem detectBytes_eq
    (document : Bytes)
    (capacity : Nat) :
    detectBytes document capacity = (transcript document).ending.mode := by
  rw [detectBytes, (detect_of_delivers (Source.delivers_ofBytes document) capacity).1]

/-- **Detection follows the whole document.**  Its answer is told by how the look at the document
ends: a line that is not text leaves the choice to the caller, the verdict that a document type
declaration comes first calls for validation by DTD, and a tag, or the end of the document without a
final verdict, for validation by schema.  No document says that validation is off.  The events for
single lines are those of the lines up to the deciding one, with just what the document says of
each. -/
theorem detect_eq_transcript
    {source : Source}
    {document : Bytes}
    (hsource : source.Delivers document)
    (capacity : Nat) :
    (detect source capacity).outcome =
        (match (transcript document).ending with
        | .undecodable _ => .ok .auto
        | .settled .doctype _ => .ok .dtd
        | .settled .openingTag _ => .ok .xsd
        | .settled .proceed _ => .ok .xsd) ∧
      (detect source capacity).outcome ≠ .ok .none ∧
      (detect source capacity).events.filter (·.level == .trace) =
        (transcript document).looked := by
  obtain ⟨houtcome, hevents⟩ := detect_of_delivers hsource capacity
  refine ⟨?_, outcome_ne_none source capacity, ?_⟩
  · rw [houtcome]
    rcases (transcript document).ending with ⟨_ | _ | _, _⟩ | _
    · rfl
    · rfl
    · rfl
    · rfl
  · rw [hevents]
    exact filter_trace_looked _ _ _ _ _

/-- A document in four deliveries, with an interruption among them: a carriage return and a line
feed in front of a tag. -/
def taggedPieces : List Delivery :=
  [.bytes [0xFF], .failure ⟨.interrupted, "signal"⟩, .bytes [0xFE, 0x0D, 0x00, 0x0A],
    .bytes [0x00, 0x3C], .bytes [0x00, 0x72, 0x00]]

/-- A document type declaration behind a comment on an earlier line, a byte at a time at first. -/
def declaredPieces : List Delivery :=
  [.bytes [0x3C], .failure ⟨.interrupted, "signal"⟩,
    .bytes (Text.Utf8.encode "!-- <a> -->
<!DOCTYPE a>".toList)]

/-- A line that is not text, behind one that is, and in front of a tag. -/
def brokenPieces : List Delivery :=
  [.bytes [0x20, 0x0A, 0xFF, 0x0A], .bytes [0x3C, 0x72]]

/-- A tag, a declaration and a fault, each behind a line that says nothing. -/
theorem detect_of_interrupted_pieces :
    (detect ⟨taggedPieces, []⟩ 0).outcome = .ok .xsd ∧
      (detect ⟨declaredPieces, []⟩ 1).outcome = .ok .dtd ∧
      (detect ⟨declaredPieces, []⟩ 1).events.filter (·.level == .trace) =
        [.classified 1 .proceed false, .classified 2 .doctype false] ∧
      (detect ⟨brokenPieces, []⟩ 2).outcome = .ok .auto := by
  have htagged : Source.Delivers ⟨taggedPieces, []⟩ (Source.upcoming taggedPieces) := ⟨rfl, rfl⟩
  have hdeclared : Source.Delivers ⟨declaredPieces, []⟩ (Source.upcoming declaredPieces) :=
    ⟨rfl, rfl⟩
  have hbroken : Source.Delivers ⟨brokenPieces, []⟩ (Source.upcoming brokenPieces) := ⟨rfl, rfl⟩
  have htag : (transcript (Source.upcoming taggedPieces)).ending = .settled .openingTag 2 := by
    decide +kernel
  have hdeclaration : transcript (Source.upcoming declaredPieces) =
      ⟨[.classified 1 .proceed false, .classified 2 .doctype false], .settled .doctype 2⟩ := by
    decide +kernel
  have hfault : (transcript (Source.upcoming brokenPieces)).ending =
      .undecodable ⟨.utf8, 2, .utf8 (.invalid 1 0)⟩ := by
    decide +kernel
  obtain ⟨hxsd, -, -⟩ := detect_eq_transcript htagged 0
  obtain ⟨hdtd, -, hevents⟩ := detect_eq_transcript hdeclared 1
  obtain ⟨hauto, -, -⟩ := detect_eq_transcript hbroken 2
  rw [htag] at hxsd
  rw [hdeclaration] at hdtd hevents
  rw [hfault] at hauto
  exact ⟨hxsd, hdtd, hevents, hauto⟩

end Runs

end Detection
end XmlPreamble

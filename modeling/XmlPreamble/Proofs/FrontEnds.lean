import XmlPreamble.Proofs.PushDetection
import XmlPreamble.Proofs.SessionIsolation
import XmlPreamble.Proofs.TextRoundTrip

/-!
# The front ends agree

Callers come to the mode of a document by several ways: they hand it over as one binary or as one of
many, they name a file that holds it, alone or among others, or they feed it to a detector chunk by
chunk while other callers use other detectors.  Every one of these ways answers with the mode that
the whole document says, as a name or as its code.

Main statements:

- `detectLocation_of_readable`: the look at a document in a file comes to the mode that the document
  says;
- `Session.reply_detect`, `Session.reply_detectCode`, `Session.reply_detectBatch`,
  `Session.reply_detectFile` and `Session.reply_detectFiles`: what the calls for whole documents are
  answered;
- `feeds_of_calls`: the calls for the chunks, one behind the other, feed them to a detector;
- `Session.reply_finish_of_feeds`: a detector of a session that was fed a document comes to this
  mode as well;
- `Session.front_ends_agree`: every front end answers with this mode.
-/

namespace XmlPreamble

namespace Detection

section Documents

/-- A text names a file that can be opened and read: it hands out a document, in whatever pieces,
and then comes to its end. -/
def Readable (openFile : OpenFile) (text : List Char) (document : Bytes) : Prop :=
  ∃ location source, Location.resolve text = .ok location ∧
    openFile location.path = .ok source ∧ source.Delivers document

/-- The look at a document in a file comes to the mode that the document says. -/
theorem detectLocation_of_readable
    {openFile : OpenFile}
    {text : List Char}
    {document : Bytes}
    (h : Readable openFile text document)
    (capacity : Nat) :
    detectLocation openFile capacity text = .ok (transcript document).ending.mode := by
  obtain ⟨location, source, hresolve, hopen, hdelivers⟩ := h
  rw [detectLocation_of_open_ok openFile capacity hresolve hopen]
  exact (detect_of_delivers hdelivers capacity).1

/-- The modes that detection can find, each with the name and the code by which callers know it. -/
inductive KnownAs : Mode → String → Nat → Prop
  | dtd : KnownAs .dtd "dtd" 2
  | xsd : KnownAs .xsd "xsd" 3
  | auto : KnownAs .auto "auto" 1

theorem KnownAs.name_eq
    {mode : Mode}
    {name : String}
    {code : Nat}
    (h : KnownAs mode name code) :
    mode.name = name := by
  cases h <;> rfl

theorem KnownAs.code_eq
    {mode : Mode}
    {name : String}
    {code : Nat}
    (h : KnownAs mode name code) :
    mode.code = code := by
  cases h <;> rfl

/-- A document has one of three modes. -/
theorem Ending.exists_knownAs (ending : Ending) :
    ∃ name code, KnownAs ending.mode name code := by
  rcases ending with ⟨_ | _ | _, _⟩ | _
  · exact ⟨_, _, .xsd⟩
  · exact ⟨_, _, .dtd⟩
  · exact ⟨_, _, .xsd⟩
  · exact ⟨_, _, .auto⟩

end Documents

end Detection

namespace Interface

open Detection

section Arguments

/-- A text is taken out of the term that was made of it. -/
theorem Term.text?_ofText (text : List Char) : (Term.ofText text).text? = some text := by
  rw [Term.text?, Term.binary?_ofText]
  simp only [Text.Utf8.decode_encode]
  rfl

/-- Values are taken out of the list of the terms that were made of them. -/
theorem Term.listOf?_map
    {α : Type}
    {element? : Term → Option α}
    {make : α → Term}
    (h : ∀ value, element? (make value) = some value)
    (values : List α) :
    (Term.list (values.map make)).listOf? element? = some values := by
  rw [Term.listOf?]
  induction values with
  | nil => rfl
  | cons value values ih => simp [List.mapM_cons, h, ih]

end Arguments

section Feeding

/-- What happens in a session while a detector is fed chunks in turn: callers may do what they like
between the chunks, as long as it is no other input to this detector and nobody poisons it. -/
structure Feeds (index : Nat) (chunks : List Bytes) (steps : List Step) : Prop where
  fed : steps.filterMap (Step.input? index) = chunks.map .chunk
  sound : steps.any (Step.poisons index) = false

/-- The call that feeds a chunk to a detector. -/
def feedingCall (openFile : OpenFile) (index : Nat) (chunk : Bytes) : Step :=
  .call openFile .streamingFeed [.detector index, .binary chunk]

/-- The calls for the chunks alone feed them to a detector. -/
theorem feeds_of_calls
    (openFile : OpenFile)
    (index : Nat)
    (chunks : List Bytes) :
    Feeds index chunks (chunks.map (feedingCall openFile index)) where
  fed := by
    have hinput : Step.input? index ∘ feedingCall openFile index = some ∘ Input.chunk :=
      funext fun _ => if_pos rfl
    rw [List.filterMap_map, hinput, List.filterMap_eq_map]
  sound := by
    rw [List.any_map, List.any_eq_false]
    exact fun _ _ => Bool.false_ne_true

/-- Chunks as inputs in turn do what they do to a detector that nobody shares. -/
theorem foldl_apply_chunks
    (detector : Detector)
    (chunks : List Bytes) :
    (chunks.map Input.chunk).foldl Input.apply detector = (detector.feedAll chunks).1 := by
  induction chunks generalizing detector with
  | nil => rfl
  | cons chunk chunks ih => exact ih (detector.feed chunk).1

end Feeding

namespace Session

section Replies

theorem reply_of_request
    {openFile : OpenFile}
    {session : Session}
    {function : Function}
    {arguments : List Term}
    {request : Request}
    (h : Request.ofTerms? function arguments = some request) :
    session.reply openFile function arguments =
      (session.answer openFile request).1.mapError Refusal.term := by
  rw [reply, call, h]

/-- A document alone is answered with the name of its mode. -/
theorem reply_detect
    (openFile : OpenFile)
    (session : Session)
    (document : Bytes) :
    session.reply openFile .detect [.binary document] =
      .ok (.ofMode (transcript document).ending.mode) := by
  have hasked : Request.ofTerms? .detect [.binary document] = some (.detect document) := rfl
  rw [reply_of_request hasked, answer, detectBytes_eq]
  rfl

/-- A document alone is answered with the code of its mode. -/
theorem reply_detectCode
    (openFile : OpenFile)
    (session : Session)
    (document : Bytes) :
    session.reply openFile .detectCode [.binary document] =
      .ok (.ofNat (transcript document).ending.mode.code) := by
  have hasked : Request.ofTerms? .detectCode [.binary document] = some (.detectCode document) := rfl
  rw [reply_of_request hasked, answer, detectBytes_eq]
  rfl

/-- Documents are answered with the names of their modes, in order. -/
theorem reply_detectBatch
    (openFile : OpenFile)
    (session : Session)
    (documents : List Bytes) :
    session.reply openFile .detectBatch [.list (documents.map .binary)] =
      .ok (.list (documents.map fun document => .ofMode (transcript document).ending.mode)) := by
  have hbinary : ∀ data : Bytes, (Term.binary data).binary? = some data := fun _ => rfl
  have hasked : Request.ofTerms? .detectBatch [.list (documents.map .binary)] =
      some (.detectBatch documents) := by
    rw [Request.ofTerms?, Term.listOf?_map hbinary]
    rfl
  rw [reply_of_request hasked, answer]
  simp only [detectAll, List.map_map, Function.comp_def, detectBytes_eq]
  rfl

/-- A readable file is answered with the name of the mode of the document that it holds. -/
theorem reply_detectFile
    {openFile : OpenFile}
    {text : List Char}
    {document : Bytes}
    (session : Session)
    (hreadable : Readable openFile text document) :
    session.reply openFile .detectFile [.ofText text] =
      .ok (.ofOutcome (.ok (transcript document).ending.mode)) := by
  have hasked : Request.ofTerms? .detectFile [.ofText text] = some (.detectFile text) := by
    rw [Request.ofTerms?, Term.text?_ofText]
    rfl
  rw [reply_of_request hasked, answer, detectLocation_of_readable hreadable]
  rfl

/-- Files are answered with what the look at each of them comes to, in order. -/
theorem reply_detectFiles
    (openFile : OpenFile)
    (session : Session)
    (texts : List (List Char)) :
    session.reply openFile .detectFiles [.list (texts.map .ofText)] =
      .ok (.list (texts.map fun text =>
        .ofOutcome (detectLocation openFile LineReader.defaultCapacity text))) := by
  have hasked : Request.ofTerms? .detectFiles [.list (texts.map .ofText)] =
      some (.detectFiles texts) := by
    rw [Request.ofTerms?, Term.listOf?_map Term.text?_ofText]
    rfl
  rw [reply_of_request hasked, answer]
  simp only [detectLocations, List.map_map, Function.comp_def]
  rfl

/-- A detector that was made in a session and fed a document there comes to the mode that the
document says. -/
theorem reply_finish_of_feeds
    {chunks : List Bytes}
    {steps : List Step}
    (openFile : OpenFile)
    (session : Session)
    (hfeeds : Feeds session.detectors.length chunks steps) :
    ((session.step (.call openFile .streamingNew [])).run steps).reply openFile .streamingFinish
        [.detector session.detectors.length] =
      .ok (.ofMode (transcript chunks.flatten).ending.mode) := by
  have hmade :
      (session.step (.call openFile .streamingNew [])).detectors[session.detectors.length]? =
        some (.sound .fresh) := by
    rw [step_of_makes rfl]
    exact List.getElem?_concat_length
  have hentry := run_of_sound hmade steps
  rw [hfeeds.sound, hfeeds.fed, foldl_apply_chunks] at hentry
  have hanswer := answer_of_sound hentry openFile (.input .ending)
  have hasked : Request.ofTerms? .streamingFinish [.detector session.detectors.length] =
      some ((Question.input .ending).request session.detectors.length) := rfl
  rw [reply_of_request hasked, hanswer, Question.answer, ← ofDecision_eq_decisionAtom,
    ← Detector.answer_feedThenFinish]
  rfl

/-- **All front ends agree on every document.**  Let a document stand at a place of a list of
documents, let a text at the same or another place of a list of texts name a readable file that
holds it, and let a detector be made in a session and fed the document in chunks.  Then the answers
for the document alone, by name and by code, for its place in the list, for its file alone, for the
place of its file in the list, and for the end of the input of the detector are one and the same
mode, and this is one of the three that detection can find.  Lists are answered by lists of the same
length.  The calls for the chunks alone, one behind the other, feed the detector as well. -/
theorem front_ends_agree
    {openFile : OpenFile}
    {documents : List Bytes}
    {texts : List (List Char)}
    {chunks : List Bytes}
    {steps : List Step}
    {document : Bytes}
    {text : List Char}
    {place filePlace : Nat}
    (session : Session)
    (hdocument : documents[place]? = some document)
    (htext : texts[filePlace]? = some text)
    (hreadable : Readable openFile text document)
    (hchunks : chunks.flatten = document)
    (hfeeds : Feeds session.detectors.length chunks steps) :
    let reference := Term.detector session.detectors.length
    let made := session.step (.call openFile .streamingNew [])
    let mode := (transcript document).ending.mode
    ∃ name code, KnownAs mode name code ∧
      session.reply openFile .detect [.binary document] = .ok (.atom name) ∧
      session.reply openFile .detectCode [.binary document] = .ok (.int code) ∧
      Mode.ofCode? code = some mode ∧
      (∃ modes, session.reply openFile .detectBatch [.list (documents.map .binary)] =
          .ok (.list modes) ∧
        modes.length = documents.length ∧ modes[place]? = some (.atom name)) ∧
      session.reply openFile .detectFile [.ofText text] = .ok (.tuple [.atom "ok", .atom name]) ∧
      (∃ outcomes, session.reply openFile .detectFiles [.list (texts.map .ofText)] =
          .ok (.list outcomes) ∧
        outcomes.length = texts.length ∧
        outcomes[filePlace]? = some (.tuple [.atom "ok", .atom name])) ∧
      session.reply openFile .streamingNew [] = .ok reference ∧
      (made.run steps).reply openFile .streamingFinish [reference] = .ok (.atom name) ∧
      (made.run (chunks.map (feedingCall openFile session.detectors.length))).reply openFile
        .streamingFinish [reference] = .ok (.atom name) := by
  intro reference made mode
  obtain ⟨name, code, hknown⟩ := (transcript document).ending.exists_knownAs
  have hatom : Term.ofMode mode = .atom name := congrArg Term.atom hknown.name_eq
  have houtcome : Term.ofOutcome (.ok mode) = .tuple [.atom "ok", .atom name] := by
    rw [Term.ofOutcome, hatom]
  have hcode : Term.ofNat mode.code = .int code := congrArg Term.ofNat hknown.code_eq
  refine ⟨name, code, hknown, ?_, ?_, ?_, ?_, ?_, ?_, rfl, ?_, ?_⟩
  · rw [reply_detect, hatom]
  · rw [reply_detectCode, hcode]
  · exact (Mode.ofCode?_eq_some_iff _ _).2 hknown.code_eq
  · refine ⟨_, reply_detectBatch openFile session documents, List.length_map _, ?_⟩
    rw [List.getElem?_map, hdocument, Option.map_some, hatom]
  · rw [reply_detectFile session hreadable, houtcome]
  · refine ⟨_, reply_detectFiles openFile session texts, List.length_map _, ?_⟩
    rw [List.getElem?_map, htext, Option.map_some, detectLocation_of_readable hreadable, houtcome]
  · rw [reply_finish_of_feeds openFile session hfeeds, hchunks, hatom]
  · rw [reply_finish_of_feeds openFile session (feeds_of_calls openFile _ chunks), hchunks, hatom]

/-- A document that ends within a code unit, behind a byte order mark that is cut as well.  A call
for another detector, which is poisoned, comes between the chunks. -/
theorem front_ends_agree_on_cut_unit :
    let document : Bytes := [0xFF, 0xFE, 0x3C, 0x00, 0x72]
    let openFile : OpenFile := fun _ =>
      .ok ⟨[.bytes [0xFF], .failure ⟨.interrupted, "signal"⟩, .bytes [0xFE, 0x3C, 0x00, 0x72]], []⟩
    let session : Session := ⟨[.poisoned]⟩
    let steps : List Step :=
      [feedingCall openFile 1 [0xFF], feedingCall openFile 0 [0x3C],
        feedingCall openFile 1 [0xFE, 0x3C], feedingCall openFile 1 [0x00, 0x72]]
    let fed := (session.step (.call openFile .streamingNew [])).run steps
    session.reply openFile .detect [.binary document] = .ok (.atom "auto") ∧
      session.reply openFile .detectCode [.binary document] = .ok (.int 1) ∧
      session.reply openFile .detectFile [.ofText ['a']] =
        .ok (.tuple [.atom "ok", .atom "auto"]) ∧
      fed.reply openFile .streamingFinish [.detector 1] = .ok (.atom "auto") := by
  intro document openFile session steps fed
  have hdocument : [[], document][1]? = some document := rfl
  have htext : [['a']][0]? = some ['a'] := rfl
  have hreadable : Readable openFile ['a'] document := ⟨⟨[0x61]⟩, _, rfl, rfl, by decide⟩
  have hchunks : [[0xFF], [0xFE, 0x3C], [0x00, 0x72]].flatten = document := rfl
  have hfeeds : Feeds session.detectors.length [[0xFF], [0xFE, 0x3C], [0x00, 0x72]] steps :=
    ⟨rfl, rfl⟩
  have hmode : (transcript document).ending.mode = .auto := by decide +kernel
  obtain ⟨name, code, hknown, hdetect, hcode, -, -, hfile, -, -, hfinish, -⟩ :=
    front_ends_agree session hdocument htext hreadable hchunks hfeeds
  rw [hmode] at hknown
  cases hknown
  exact ⟨hdetect, hcode, hfile, hfinish⟩

end Replies

end Session

end Interface
end XmlPreamble

import XmlPreamble.Proofs.PullDetection
import XmlPreamble.Proofs.TextRoundTrip

/-!
# The encoding of a text does not change its mode

A document is cut at its code units and its pieces are decoded one by one.  For the bytes of a text
this comes to the same as cutting the text at its line feeds and carriage returns: neither of the two
is part of the bytes of another character, and every line is read back from its bytes.  Hence the
three encodings of a text agree in everything but the record of the encoding.

Main statements:

- `Encoding.pieces_encode`: the pieces of the bytes of a text are the bytes of its lines;
- `Encoding.sniff_encode`: a text that begins with `<` shows its encoding without a byte order mark;
- `Detection.detect_encode`: the mode of a text is the one of its lines, in every encoding.
-/

namespace XmlPreamble

section Lines

/-- A line of a text with what ends it. -/
structure TextLine where
  body : List Char
  terminator : Option Terminator

/-- The piece that a line is in an encoding. -/
def TextLine.spell
    (encoding : Encoding)
    (line : TextLine) : Piece :=
  ⟨encoding.encode line.body, line.terminator⟩

/-- The lines of a text, before which the characters of `body`, in reverse order, belong to the
first line. -/
def textLinesFrom : List Char → List Char → List TextLine
  | [], [] => []
  | c :: body, [] => [⟨(c :: body).reverse, none⟩]
  | body, c :: rest =>
      match Terminator.ofCode? c.toNat with
      | some terminator => ⟨body.reverse, some terminator⟩ :: textLinesFrom [] rest
      | none => textLinesFrom (c :: body) rest

/-- Whether a character ends a line. -/
def isLineBreak (c : Char) : Bool :=
  c == '\n' || c == '\r'

theorem isSome_ofCode?_toNat (c : Char) : (Terminator.ofCode? c.toNat).isSome = isLineBreak c := by
  rw [Bool.eq_iff_iff, isLineBreak, Terminator.ofCode?]
  simp only [Bool.or_eq_true, beq_iff_eq, ← Char.toNat_inj]
  split
  · simp_all
  · split <;> simp_all

theorem ofCode?_eq_none_of_lt
    {code : Nat}
    (h : 0x0D < code) :
    Terminator.ofCode? code = none := by
  rw [Terminator.ofCode?, if_neg (by omega), if_neg (by omega)]

end Lines

namespace Encoding

section Encoded

variable {encoding : Encoding}

theorem encode_append
    (encoding : Encoding)
    (left right : List Char) :
    encoding.encode (left ++ right) = encoding.encode left ++ encoding.encode right := by
  cases encoding with
  | utf8 =>
      exact Text.Utf8.encode_append left right
  | utf16 order =>
      exact Text.Utf16.encode_append order left right

theorem encode_nil (encoding : Encoding) : encoding.encode [] = [] := by
  cases encoding <;> rfl

/-- Only the empty text has no bytes. -/
theorem encode_eq_nil_iff
    {text : List Char} :
    encoding.encode text = [] ↔ text = [] := by
  constructor
  · intro h
    have hread := encoding.decode_encode text
    rw [h, decode_nil] at hread
    cases hread
    rfl
  · rintro rfl
    exact encoding.encode_nil

/-- Bytes none of which ends a line belong to the piece as a whole. -/
theorem piecesFrom_utf8_append
    {bytes : Bytes}
    (body rest : Bytes)
    (h : ∀ byte ∈ bytes, Terminator.ofCode? byte.toNat = none) :
    utf8.piecesFrom body (bytes ++ rest) = utf8.piecesFrom (bytes.reverse ++ body) rest := by
  induction bytes generalizing body with
  | nil =>
      rfl
  | cons byte bytes ih =>
      rw [List.forall_mem_cons] at h
      simp only [List.cons_append, piecesFrom, h.1]
      rw [ih _ h.2]
      simp

/-- Units none of which ends a line belong to the piece as a whole. -/
theorem piecesFrom_utf16_append
    {order : Text.Utf16.ByteOrder}
    {units : List UInt16}
    (body rest : Bytes)
    (h : ∀ unit ∈ units, Terminator.ofCode? unit.toNat = none) :
    (utf16 order).piecesFrom body (units.flatMap order.bytes ++ rest) =
      (utf16 order).piecesFrom ((units.flatMap order.bytes).reverse ++ body) rest := by
  induction units generalizing body with
  | nil =>
      rfl
  | cons unit units ih =>
      rw [List.forall_mem_cons] at h
      obtain ⟨first, second, hbytes, hunit⟩ := Text.Utf16.exists_bytes_eq order unit
      rw [List.flatMap_cons, hbytes]
      simp only [List.cons_append, List.nil_append, piecesFrom, hunit, h.1]
      rw [ih _ h.2]
      simp

/-- A character that ends no line has no byte that does. -/
theorem ofCode?_of_mem_encodeChar
    {c : Char}
    {byte : UInt8}
    (hc : Terminator.ofCode? c.toNat = none)
    (hbyte : byte ∈ Text.Utf8.encodeChar c) :
    Terminator.ofCode? byte.toNat = none := by
  by_cases hone : c.toNat < 0x80
  · rw [Text.Utf8.encodeChar_of_lt hone, List.mem_singleton] at hbyte
    rw [hbyte, UInt8.toNat_ofNat', Nat.mod_eq_of_lt (by omega)]
    exact hc
  · have := Text.Utf8.le_of_mem_encodeChar (by omega) hbyte
    exact ofCode?_eq_none_of_lt (by omega)

/-- A character that ends no line has no unit that does. -/
theorem ofCode?_of_mem_unitsOfChar
    {c : Char}
    {unit : UInt16}
    (hc : Terminator.ofCode? c.toNat = none)
    (hunit : unit ∈ Text.Utf16.unitsOfChar c) :
    Terminator.ofCode? unit.toNat = none := by
  have hvalid := Text.toNat_char_valid c
  by_cases hone : c.toNat < 0x10000
  · rw [Text.Utf16.unitsOfChar, if_pos hone, List.mem_singleton] at hunit
    rw [hunit, UInt16.toNat_ofNat', Nat.mod_eq_of_lt hone]
    exact hc
  · rw [Text.Utf16.unitsOfChar, if_neg hone] at hunit
    simp only [List.mem_cons, List.not_mem_nil, or_false] at hunit
    rcases hunit with rfl | rfl
    · rw [UInt16.toNat_ofNat']
      exact ofCode?_eq_none_of_lt (by omega)
    · rw [UInt16.toNat_ofNat']
      exact ofCode?_eq_none_of_lt (by omega)

/-- The bytes of a character that ends no line belong to the piece. -/
theorem piecesFrom_encode_of_none
    {c : Char}
    (encoding : Encoding)
    (body rest : Bytes)
    (hc : Terminator.ofCode? c.toNat = none) :
    encoding.piecesFrom body (encoding.encode [c] ++ rest) =
      encoding.piecesFrom ((encoding.encode [c]).reverse ++ body) rest := by
  cases encoding with
  | utf8 =>
      refine piecesFrom_utf8_append body rest ?_
      intro byte hbyte
      simp only [encode, Text.Utf8.encode_cons, Text.Utf8.encode_nil, List.append_nil] at hbyte
      exact ofCode?_of_mem_encodeChar hc hbyte
  | utf16 order =>
      refine piecesFrom_utf16_append body rest ?_
      intro unit hunit
      simp only [Text.Utf16.units, List.flatMap_singleton] at hunit
      exact ofCode?_of_mem_unitsOfChar hc hunit

/-- A character that ends a line is one code unit, and it ends the piece. -/
theorem piecesFrom_encode_of_some
    {c : Char}
    {terminator : Terminator}
    (encoding : Encoding)
    (body rest : Bytes)
    (hc : Terminator.ofCode? c.toNat = some terminator) :
    encoding.piecesFrom body (encoding.encode [c] ++ rest) =
      ⟨body.reverse, some terminator⟩ :: encoding.piecesFrom [] rest := by
  have hlt : c.toNat < 0x80 := by
    rcases ofCode?_eq_some hc with ⟨-, h⟩ | ⟨-, h⟩ <;> omega
  cases encoding with
  | utf8 =>
      have hbyte : (UInt8.ofNat c.toNat).toNat = c.toNat := by
        rw [UInt8.toNat_ofNat']
        omega
      rw [encode, Text.Utf8.encode_cons, Text.Utf8.encodeChar_of_lt hlt, Text.Utf8.encode_nil,
        List.append_nil, List.singleton_append, piecesFrom, hbyte, hc]
  | utf16 order =>
      have hunit : (UInt16.ofNat c.toNat).toNat = c.toNat := by
        rw [UInt16.toNat_ofNat']
        omega
      obtain ⟨first, second, hbytes, hread⟩ :=
        Text.Utf16.exists_bytes_eq order (UInt16.ofNat c.toNat)
      rw [encode, Text.Utf16.encode, Text.Utf16.units, List.flatMap_singleton,
        Text.Utf16.unitsOfChar, if_pos (by omega), List.flatMap_singleton, hbytes]
      simp only [List.cons_append, List.nil_append, piecesFrom, hread, hunit, hc]

theorem piecesFrom_nil
    (encoding : Encoding)
    (body : Bytes) :
    encoding.piecesFrom body [] = lastPiece body.reverse := by
  cases encoding <;> simp [piecesFrom]

theorem piecesFrom_encode
    (encoding : Encoding)
    (body text : List Char) :
    encoding.piecesFrom (encoding.encode body.reverse).reverse (encoding.encode text) =
      (textLinesFrom body text).map (TextLine.spell encoding) := by
  fun_induction textLinesFrom body text with
  | case1 =>
      rw [List.reverse_nil, encode_nil, List.reverse_nil]
      exact encoding.pieces_nil
  | case2 c body =>
      have hne : ¬(encoding.encode (c :: body).reverse).isEmpty = true := by
        rw [List.isEmpty_iff, encode_eq_nil_iff, List.reverse_eq_nil_iff]
        exact List.cons_ne_nil c body
      rw [encode_nil, piecesFrom_nil, List.reverse_reverse, lastPiece, if_neg hne]
      rfl
  | case3 body c rest terminator hc ih =>
      rw [← List.singleton_append, encode_append, piecesFrom_encode_of_some _ _ _ hc,
        List.map_cons, ← ih, List.reverse_reverse, List.reverse_nil, encode_nil]
      rfl
  | case4 body c rest hc ih =>
      rw [← List.singleton_append, encode_append, piecesFrom_encode_of_none _ _ _ hc,
        ← List.reverse_append, ← encode_append, ← List.reverse_cons]
      exact ih

/-- The pieces of the bytes of a text are the bytes of its lines. -/
theorem pieces_encode
    (encoding : Encoding)
    (text : List Char) :
    encoding.pieces (encoding.encode text) =
      (textLinesFrom [] text).map (TextLine.spell encoding) := by
  have h := piecesFrom_encode encoding [] text
  rw [List.reverse_nil, encode_nil, List.reverse_nil] at h
  exact h

end Encoded

section Announced

/-- Only the null character begins with a null byte. -/
theorem head?_encode_utf8
    {text : List Char}
    (h : text.head? ≠ some '\x00') :
    (utf8.encode text).head? ≠ some 0 := by
  cases text with
  | nil =>
      decide
  | cons c text =>
      rw [encode, Text.Utf8.encode_cons]
      intro hnull
      by_cases hone : c.toNat < 0x80
      · rw [Text.Utf8.encodeChar_of_lt hone, List.singleton_append, List.head?_cons,
          Option.some.injEq, ← UInt8.toNat_inj, UInt8.toNat_ofNat',
          Nat.mod_eq_of_lt (by omega)] at hnull
        apply h
        rw [List.head?_cons, ← Char.ofNat_toNat c, hnull]
        rfl
      · obtain ⟨first, others, hbytes⟩ :=
          List.exists_cons_of_ne_nil (Text.Utf8.encodeChar_ne_nil c)
        have hfirst : first ∈ Text.Utf8.encodeChar c := by
          rw [hbytes]
          exact List.mem_cons_self
        have hlow := Text.Utf8.le_of_mem_encodeChar (by omega) hfirst
        rw [hbytes, List.cons_append, List.head?_cons, Option.some.injEq] at hnull
        rw [hnull] at hlow
        contradiction

/-- A text that begins with `<` shows its encoding without a byte order mark. -/
theorem sniff_encode
    {rest : List Char}
    (encoding : Encoding)
    (h : rest.head? ≠ some '\x00') :
    sniff (encoding.encode ('<' :: rest)) = encoding ∧
      encoding.signatureLength (encoding.encode ('<' :: rest)) = 0 := by
  rw [← List.singleton_append, encode_append]
  cases encoding with
  | utf8 =>
      have hnull := head?_encode_utf8 h
      have hsign : utf8.encode ['<'] = [0x3C] := by
        decide
      rw [hsign]
      generalize utf8.encode rest = bytes at hnull
      cases bytes with
      | nil =>
          decide
      | cons byte bytes =>
          rw [List.head?_cons, Ne, Option.some.injEq] at hnull
          simp [sniff, announcedBy, signatureLength, signature, encode, Text.Utf16.encode,
            Text.Utf16.units, Text.Utf16.unitsOfChar, Text.Utf16.ByteOrder.bytes, Ne.symm hnull]
  | utf16 order =>
      cases order <;>
        simp [sniff, announcedBy, signatureLength, signature, encode, Text.Utf16.encode,
          Text.Utf16.units, Text.Utf16.unitsOfChar, Text.Utf16.ByteOrder.bytes]

end Announced

end Encoding

namespace Scan.State

section FirstFinal

variable {state : State}
variable {line : List Char}
variable {lines : List (List Char)}

/-- The first final verdict on lines in turn, if there is one. -/
def firstFinal
    (state : State)
    (lines : List (List Char)) : Verdict :=
  (((state.classifyAll lines).map Prod.fst).find? Verdict.isFinal).getD .proceed

theorem firstFinal_cons_of_final
    (h : (state.classify line).1.isFinal = true) :
    state.firstFinal (line :: lines) = (state.classify line).1 := by
  rw [firstFinal, classifyAll, List.map_cons, List.find?_cons_of_pos h]
  rfl

theorem firstFinal_cons_of_not_final
    (h : (state.classify line).1.isFinal = false) :
    state.firstFinal (line :: lines) = (state.classify line).2.firstFinal lines := by
  rw [firstFinal, classifyAll, List.map_cons, List.find?_cons_of_neg (Bool.eq_false_iff.1 h)]
  rfl

/-- An empty line says nothing. -/
theorem firstFinal_singleton_nil (state : State) : state.firstFinal [[]] = .proceed := by
  rcases state with ⟨_ | _⟩ <;> decide +kernel

/-- What comes behind lines that say nothing decides. -/
theorem firstFinal_cons_congr
    {others : List (List Char)}
    (h : (state.classify line).2.firstFinal lines = (state.classify line).2.firstFinal others) :
    state.firstFinal (line :: lines) = state.firstFinal (line :: others) := by
  by_cases hfinal : (state.classify line).1.isFinal = true
  · rw [firstFinal_cons_of_final hfinal, firstFinal_cons_of_final hfinal]
  · rw [Bool.not_eq_true] at hfinal
    rw [firstFinal_cons_of_not_final hfinal, firstFinal_cons_of_not_final hfinal, h]

/-- The empty line behind the last terminator of a text makes no difference. -/
theorem firstFinal_splitOnPPrepend
    (state : State)
    (body text : List Char) :
    state.firstFinal (text.splitOnPPrepend isLineBreak body) =
      state.firstFinal ((textLinesFrom body text).map TextLine.body) := by
  fun_induction textLinesFrom body text generalizing state with
  | case1 =>
      exact firstFinal_singleton_nil state
  | case2 c body =>
      rw [List.splitOnPPrepend_nil]
      rfl
  | case3 body c rest terminator hc ih =>
      have hbreak : isLineBreak c = true := by
        rw [← isSome_ofCode?_toNat, hc]
        rfl
      rw [List.splitOnPPrepend_cons_eq_if, if_pos hbreak]
      exact firstFinal_cons_congr (ih _)
  | case4 body c rest hc ih =>
      have hbreak : ¬isLineBreak c = true := by
        rw [← isSome_ofCode?_toNat, hc]
        exact Bool.false_ne_true
      rw [List.splitOnPPrepend_cons_eq_if, if_neg hbreak]
      exact ih state

/-- The lines at which a scan looks are those of the text, cut at its terminators. -/
theorem firstFinal_splitOnP
    (state : State)
    (text : List Char) :
    state.firstFinal (text.splitOnP isLineBreak) =
      state.firstFinal ((textLinesFrom [] text).map TextLine.body) :=
  firstFinal_splitOnPPrepend state [] text

end FirstFinal

end Scan.State

/-- A scan that ends with a verdict does not leave the choice open. -/
theorem Mode.ofVerdict_ne_auto (verdict : Scan.Verdict) : Mode.ofVerdict verdict ≠ .auto := by
  cases verdict <;> decide

namespace Detection

section Texts

/-- Counting lines takes no notice of the encoding. -/
theorem advance_spell
    (count : LineCount)
    (line : TextLine)
    (encoding : Encoding) :
    count.advance (line.spell encoding) = count.advance (line.spell .utf8) := by
  have hempty : ∀ encoding : Encoding,
      (encoding.encode line.body).isEmpty = line.body.isEmpty := by
    intro encoding
    rw [Bool.eq_iff_iff, List.isEmpty_iff, List.isEmpty_iff, Encoding.encode_eq_nil_iff]
  simp only [LineCount.advance, LineCount.betweenPair, TextLine.spell, hempty]

theorem decodePiece_spell
    (count : LineCount)
    (line : TextLine)
    (encoding : Encoding) :
    encoding.decodePiece count (line.spell encoding) = .ok line.body := by
  rw [Encoding.decodePiece, Encoding.decodeLine_eq, TextLine.spell, Encoding.decode_encode]

/-- The lines of a text come to the same end in every encoding. -/
theorem exists_ending_ofPieces_spell
    (count : LineCount)
    (state : Scan.State)
    (lines : List TextLine) :
    ∃ number, ∀ encoding : Encoding,
      (Transcript.ofPieces encoding count state (lines.map (TextLine.spell encoding))).ending =
        .settled (state.firstFinal (lines.map TextLine.body)) number := by
  induction lines generalizing count state with
  | nil =>
      exact ⟨count.number, fun _ => rfl⟩
  | cons line lines ih =>
      by_cases hfinal : (state.classify line.body).1.isFinal = true
      · -- The lines are counted along one encoding, which stands for all of them.
        refine ⟨(count.advance (line.spell .utf8)).number, ?_⟩
        intro encoding
        rw [List.map_cons, List.map_cons, Scan.State.firstFinal_cons_of_final hfinal,
          Transcript.ofPieces, decodePiece_spell]
        simp only [hfinal, if_true, advance_spell]
      · obtain ⟨number, hnumber⟩ :=
          ih (count.advance (line.spell .utf8)) (state.classify line.body).2
        refine ⟨number, ?_⟩
        intro encoding
        rw [Bool.not_eq_true] at hfinal
        rw [List.map_cons, List.map_cons, Scan.State.firstFinal_cons_of_not_final hfinal,
          Transcript.ofPieces, decodePiece_spell]
        simp only [hfinal, advance_spell]
        exact hnumber encoding

/-- However long the buffer, a document has the mode of a verdict, and it is told once that the
verdict came after so many lines, read in an encoding. -/
def Concludes
    (document : Bytes)
    (verdict : Scan.Verdict)
    (lines : Nat)
    (encoding : Encoding) : Prop :=
  ∀ capacity,
    detectBytes document capacity = Mode.ofVerdict verdict ∧
      (detect (.ofBytes document) capacity).events.filter (·.level == .debug) =
        [.concluded (Mode.ofVerdict verdict) verdict lines (.encoding (some encoding))]

theorem concludes_of_ending
    {document : Bytes}
    {verdict : Scan.Verdict}
    {lines : Nat}
    {encoding : Encoding}
    (hsniff : Encoding.sniff document = encoding)
    (hending : (Transcript.ofPieces encoding {} .start
      (documentPieces encoding document)).ending = .settled verdict lines) :
    Concludes document verdict lines encoding := by
  subst hsniff
  have hend : (transcript document).ending = .settled verdict lines := hending
  intro capacity
  obtain ⟨houtcome, hevents⟩ := detect_of_delivers (Source.delivers_ofBytes document) capacity
  constructor
  · rw [detectBytes, houtcome, hend]
    exact Ending.mode_settled verdict lines
  · rw [hevents]
    refine (filter_debug_looked _ _ _ _ _).trans ?_
    rw [hending, Ending.event, Ending.mode_settled]

/-- **The encoding of a text does not change its mode.**  Behind their byte order marks, the bytes of
a text in the three encodings come to the verdict to which the lines of the text come, after the
same number of lines.  A text that begins with `<` and does not go on with a null character needs
no byte order mark for this. -/
theorem detect_encode (text : List Char) :
    ∃ lines,
      (∀ encoding : Encoding,
        Concludes (encoding.signature ++ encoding.encode text)
          (Scan.State.start.firstFinal (text.splitOnP isLineBreak)) lines encoding) ∧
      (∀ rest, text = '<' :: rest → rest.head? ≠ some '\x00' →
        ∀ encoding : Encoding,
          Concludes (encoding.encode text)
            (Scan.State.start.firstFinal (text.splitOnP isLineBreak)) lines encoding) ∧
      Mode.ofVerdict (Scan.State.start.firstFinal (text.splitOnP isLineBreak)) ≠ .auto := by
  obtain ⟨number, hnumber⟩ := exists_ending_ofPieces_spell {} .start (textLinesFrom [] text)
  rw [← Scan.State.firstFinal_splitOnP] at hnumber
  refine ⟨number, ?_, ?_, Mode.ofVerdict_ne_auto _⟩
  · intro encoding
    refine concludes_of_ending (Encoding.sniff_signature_append encoding _) ?_
    rw [documentPieces_signature_append, Encoding.pieces_encode]
    exact hnumber encoding
  · rintro rest rfl hrest encoding
    obtain ⟨hsniff, hlength⟩ := Encoding.sniff_encode encoding hrest
    refine concludes_of_ending hsniff ?_
    rw [documentPieces, hlength, List.drop_zero, Encoding.pieces_encode]
    exact hnumber encoding

theorem concludes_root :
    ∃ lines, ∀ encoding : Encoding,
      Concludes (encoding.encode ['<', 'a', '>']) .openingTag lines encoding := by
  have hverdict :
      Scan.State.start.firstFinal (['<', 'a', '>'].splitOnP isLineBreak) = .openingTag := by
    decide +kernel
  obtain ⟨lines, -, hplain, -⟩ := detect_encode ['<', 'a', '>']
  rw [hverdict] at hplain
  exact ⟨lines, hplain ['a', '>'] rfl (by decide)⟩

end Texts

end Detection

end XmlPreamble

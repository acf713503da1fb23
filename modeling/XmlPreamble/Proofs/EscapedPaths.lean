import Mathlib
import XmlPreamble.Location

/-!
# Paths written as file URLs

A path may hold any bytes, also bytes that are no text, and a file URL holds characters only.  A
path can nevertheless be written as a file URL: every byte that is no letter or digit becomes an
escape.  Such a URL names the path that it was written from, whichever case the digits of its
escapes have, and whether or not two slashes and the name of this machine stand in front.  Only a
path that ends like a drive gets a slash behind it.

What is written holds letters, digits and percent signs alone, so nothing in a segment is passed
over, separates segments or ends the path.  The two names that a segment may not have are those
that would be walked over as dots.

Main statements:

- `EscapedAs.unescape_encode`: escapes stand for the bytes that they were written from;
- `EscapedAs.isOrdinary`: what is written of a segment is entered as it stands;
- `FileUrl.parse?_of_written`: the three addresses of a path lead to it on this machine;
- `FileUrl.closeDrive_absolute`: a path gets a slash behind it exactly if it ends like a drive;
- `resolve_escaped`: a path that is written as a file URL is the path that the URL names.
-/

namespace XmlPreamble.Location

open Text

section Writing

/-- Whether a byte is the code of an ASCII letter or digit. -/
def isBare (byte : UInt8) : Bool :=
  (Char.ofNat byte.toNat).isAlphanum

/-- How the bytes of a segment are written: letters and digits as they stand, and every other byte
as an escape, with digits in either case. -/
inductive EscapedAs : Bytes → List Char → Prop
  | nil :
      EscapedAs [] []
  | bare
      {byte : UInt8}
      {segment : Bytes}
      {text : List Char}
      (hbyte : isBare byte = true)
      (htext : EscapedAs segment text) :
      EscapedAs (byte :: segment) (Char.ofNat byte.toNat :: text)
  | escape
      {byte : UInt8}
      {high low : Char}
      {segment : Bytes}
      {text : List Char}
      (hbyte : isBare byte = false)
      (hhigh : digitValue? 16 high = some (byte.toNat / 16))
      (hlow : digitValue? 16 low = some (byte.toNat % 16))
      (htext : EscapedAs segment text) :
      EscapedAs (byte :: segment) ('%' :: high :: low :: text)

/-- What the segment of a path may be. -/
structure IsSegment (segment : Bytes) : Prop where
  /-- It is not empty. -/
  ne_nil : segment ≠ []
  /-- It holds no slash. -/
  no_slash : (0x2F : UInt8) ∉ segment
  /-- It is not the name of the directory that it stands in. -/
  ne_dot : segment ≠ [0x2E]
  /-- It is not the name of the directory above. -/
  ne_double_dot : segment ≠ [0x2E, 0x2E]

/-- The absolute path over segments. -/
def absolute (segments : List Bytes) : Bytes :=
  segments.flatMap (0x2F :: ·)

/-- The absolute path over segments as they are written. -/
def written (texts : List (List Char)) : List Char :=
  texts.flatMap ('/' :: ·)

/-- The path ends in a letter with a colon or a bar behind it. -/
def EndsLikeDrive (path : Bytes) : Prop :=
  ∃ front letter mark,
    path = front ++ [letter, mark] ∧
      (Char.ofNat letter.toNat).isAlpha = true ∧ (mark = 0x3A ∨ mark = 0x7C)

end Writing

section Digits

/-- Digits of both kinds of number are the same letters and digits, and have the same values. -/
theorem hexValue?_of_digitValue?
    {c : Char}
    {value : Nat}
    (h : digitValue? 16 c = some value) :
    c.isAlphanum = true ∧
      Percent.hexValue? (UInt8.ofNat c.toNat) = some (UInt8.ofNat value) := by
  have hlt : c.toNat < 128 := by
    simp only [digitValue?, Char.le_def, UInt32.le_iff_toNat_le] at h
    simp only [Char.toNat]
    grind
  have hascii : ∀ code : Fin 128,
      (digitValue? 16 (Char.ofNat code)).all (fun value =>
        (Char.ofNat code).isAlphanum &&
          Percent.hexValue? (UInt8.ofNat code) = some (UInt8.ofNat value)) = true := by
    decide +kernel
  simpa [Char.ofNat_toNat, h] using hascii ⟨c.toNat, hlt⟩

/-- Every value below sixteen has a digit. -/
theorem exists_digit
    (value : Nat)
    (h : value < 16) :
    ∃ c, digitValue? 16 c = some value := by
  have hall : ∀ value : Fin 16, digitValue? 16 (Nat.digitChar value) = some value.val := by
    decide
  exact ⟨_, hall ⟨value, h⟩⟩

end Digits

section Letters

/-- Whether a character comes up in what is written. -/
def isWritten (c : Char) : Bool :=
  c.isAlphanum || c = '%'

/-- A character that comes up in what is written means nothing but itself in a location. -/
theorem bounds_of_isWritten
    {c : Char}
    (h : isWritten c = true) :
    (0x20 < c.toNat ∧ c.toNat < 0x80) ∧
      isPassedOver c = false ∧ isSlash c = false ∧ endsPath c = false ∧
      c ≠ '.' ∧ c ≠ ':' ∧ c ≠ '|' := by
  have hlt : c.toNat < 128 := by
    rcases Bool.or_eq_true_iff.1 h with h | h
    · simp only [Char.isAlphanum, Char.isAlpha, Char.isUpper, Char.isLower, Char.isDigit,
        UInt32.le_iff_toNat_le] at h
      simp only [Char.toNat]
      grind
    · rw [of_decide_eq_true h]
      decide
  have hascii : ∀ code : Fin 128,
      isWritten (Char.ofNat code) = true →
        (0x20 < code.val ∧ code.val < 0x80) ∧
          isPassedOver (Char.ofNat code) = false ∧ isSlash (Char.ofNat code) = false ∧
          endsPath (Char.ofNat code) = false ∧
          Char.ofNat code ≠ '.' ∧ Char.ofNat code ≠ ':' ∧ Char.ofNat code ≠ '|' := by
    decide +kernel
  simpa only [Char.ofNat_toNat] using hascii ⟨c.toNat, hlt⟩ (by rwa [Char.ofNat_toNat])

variable {segment : Bytes}
variable {text : List Char}

theorem EscapedAs.isWritten_of_mem
    (h : EscapedAs segment text) :
    ∀ c ∈ text, isWritten c = true := by
  induction h with
  | nil =>
      simp
  | bare hbyte htext ih =>
      rintro c (_ | ⟨_, hc⟩)
      · simpa [isWritten, isBare] using Or.inl hbyte
      · exact ih c hc
  | escape hbyte hhigh hlow htext ih =>
      have hhigh := (hexValue?_of_digitValue? hhigh).1
      have hlow := (hexValue?_of_digitValue? hlow).1
      rintro c (_ | ⟨_, _ | ⟨_, _ | ⟨_, hc⟩⟩⟩)
      · rfl
      · simp [isWritten, hhigh]
      · simp [isWritten, hlow]
      · exact ih c hc

/-- A byte that is written as it stands is the code of its character. -/
theorem ofNat_toNat_of_isBare
    {byte : UInt8}
    (h : isBare byte = true) :
    UInt8.ofNat (Char.ofNat byte.toNat).toNat = byte ∧ byte ≠ Percent.sign := by
  have hbytes : ∀ code : Fin 256,
      isBare (UInt8.ofNat code) = true →
        UInt8.ofNat (Char.ofNat code).toNat = UInt8.ofNat code ∧
          UInt8.ofNat code ≠ Percent.sign := by
    decide +kernel
  simpa only [UInt8.ofNat_toNat] using hbytes ⟨byte.toNat, byte.toNat_lt⟩ (by
    simpa only [UInt8.ofNat_toNat] using h)

/-- Escapes stand for the bytes that they were written from. -/
theorem EscapedAs.unescape_encode
    (h : EscapedAs segment text) :
    Percent.unescape (Utf8.encode text) = segment := by
  induction h with
  | nil =>
      rfl
  | bare hbyte htext ih =>
      obtain ⟨hcode, hne⟩ := ofNat_toNat_of_isBare hbyte
      have hlt := (bounds_of_isWritten (c := Char.ofNat _) (by
        simpa [isWritten, isBare] using Or.inl hbyte)).1.2
      rw [Utf8.encode_cons, Utf8.encodeChar_of_lt hlt, hcode, List.singleton_append,
        Percent.unescape_cons_of_ne _ hne, ih]
  | @escape byte high low segment text hbyte hhigh hlow htext ih =>
      obtain ⟨hhighLetter, hhighValue⟩ := hexValue?_of_digitValue? hhigh
      obtain ⟨hlowLetter, hlowValue⟩ := hexValue?_of_digitValue? hlow
      have hbytes : Utf8.encode ('%' :: high :: low :: text) =
          Percent.sign :: UInt8.ofNat high.toNat :: UInt8.ofNat low.toNat ::
            Utf8.encode text := by
        have hsign : Utf8.encodeChar '%' = [Percent.sign] := by decide
        rw [Utf8.encode_cons, Utf8.encode_cons, Utf8.encode_cons, hsign,
          Utf8.encodeChar_of_lt (bounds_of_isWritten (by simp [isWritten, hhighLetter])).1.2,
          Utf8.encodeChar_of_lt (bounds_of_isWritten (by simp [isWritten, hlowLetter])).1.2]
        rfl
      have hspelled : Percent.spelled? (UInt8.ofNat high.toNat) (UInt8.ofNat low.toNat) =
          some byte := by
        rw [Percent.spelled?, hhighValue, hlowValue]
        have hsum : byte.toNat / 16 * 16 + byte.toNat % 16 = byte.toNat := by omega
        have hbyte := congrArg UInt8.ofNat hsum
        rw [UInt8.ofNat_add, UInt8.ofNat_mul, UInt8.ofNat_toNat] at hbyte
        exact congrArg some hbyte
      rw [hbytes, Percent.unescape_escape _ hspelled, ih]

/-- A segment without bytes is the only one that is written without characters. -/
theorem EscapedAs.eq_nil_iff
    (h : EscapedAs segment text) :
    text = [] ↔ segment = [] := by
  cases h <;> simp

end Letters

section Dots

variable {segment : Bytes}
variable {text rest : List Char}

/-- What reads as a dot, escaped or not, was written from one. -/
theorem EscapedAs.exists_of_pastDot?
    (h : EscapedAs segment text)
    (hdot : Segment.pastDot? text = some rest) :
    ∃ tail, segment = 0x2E :: tail ∧ EscapedAs tail rest := by
  have hwritten := h.isWritten_of_mem
  cases h with
  | nil =>
      simp [Segment.pastDot?] at hdot
  | @bare byte segment text hbyte htext =>
      have hletter := hwritten _ List.mem_cons_self
      unfold Segment.pastDot? at hdot
      split at hdot
      · simp_all [(bounds_of_isWritten hletter).2.2.2.2.1]
      · simp_all [isBare]
      · simp_all [isBare]
      · cases hdot
  | @escape byte high low segment text hbyte hhigh hlow htext =>
      have hvalue : byte.toNat / 16 = 2 → byte.toNat % 16 = 14 → byte = 0x2E := by
        intro hdiv hmod
        refine UInt8.toNat_inj.1 ?_
        rw [← Nat.div_add_mod byte.toNat 16, hdiv, hmod]
        rfl
      have hshape : rest = text ∧ high = '2' ∧ (low = 'e' ∨ low = 'E') := by
        unfold Segment.pastDot? at hdot
        split at hdot <;> simp_all
      obtain ⟨rfl, rfl, hcase⟩ := hshape
      have hdiv : byte.toNat / 16 = 2 := (Option.some.inj hhigh).symm
      have hmod : byte.toNat % 16 = 14 := by
        rcases hcase with rfl | rfl <;> exact (Option.some.inj hlow).symm
      exact ⟨segment, by rw [hvalue hdiv hmod], htext⟩

/-- What a segment of a path is written as is entered as it stands. -/
theorem EscapedAs.isOrdinary
    (h : EscapedAs segment text)
    (hsegment : IsSegment segment) :
    Segment.isOrdinary text = true := by
  have hwritten := h.isWritten_of_mem
  have hcounted : text.all (fun c => !isPassedOver c) = true := by
    simpa [List.all_eq_true] using fun c hc => (bounds_of_isWritten (hwritten c hc)).2.1
  have hdot : Segment.isDot text = false := by
    refine decide_eq_false fun hdot => ?_
    obtain ⟨tail, hsegmentEq, htail⟩ := h.exists_of_pastDot? hdot
    cases htail
    exact hsegment.ne_dot hsegmentEq
  have hdoubleDot : Segment.isDoubleDot text = false := by
    refine decide_eq_false fun hdots => ?_
    obtain ⟨between, hfirst, hsecond⟩ := Option.bind_eq_some_iff.1 hdots
    obtain ⟨tail, hsegmentEq, htail⟩ := h.exists_of_pastDot? hfirst
    obtain ⟨last, rfl, hlast⟩ := htail.exists_of_pastDot? hsecond
    cases hlast
    exact hsegment.ne_double_dot hsegmentEq
  have hdrive : Segment.isDrive text = false :=
    Segment.isDrive_eq_false_of_no_mark fun c hc =>
      (bounds_of_isWritten (hwritten c hc)).2.2.2.2.2
  simp [Segment.isOrdinary, hcounted, hdot, hdoubleDot, hdrive]

end Dots

section Paths

variable {segments : List Bytes}
variable {texts : List (List Char)}

/-- Every segment has a form in which it is written. -/
theorem exists_escapedAs
    (segment : Bytes) :
    ∃ text, EscapedAs segment text := by
  induction segment with
  | nil =>
      exact ⟨[], .nil⟩
  | cons byte segment ih =>
      obtain ⟨text, htext⟩ := ih
      cases hbyte : isBare byte with
      | true =>
          exact ⟨_, .bare hbyte htext⟩
      | false =>
          have hlt := byte.toNat_lt
          obtain ⟨high, hhigh⟩ := exists_digit (byte.toNat / 16) (by omega)
          obtain ⟨low, hlow⟩ := exists_digit (byte.toNat % 16) (by omega)
          exact ⟨_, .escape hbyte hhigh hlow htext⟩

theorem exists_forall₂_escapedAs
    (segments : List Bytes) :
    ∃ texts, List.Forall₂ EscapedAs segments texts := by
  induction segments with
  | nil =>
      exact ⟨[], .nil⟩
  | cons segment segments ih =>
      obtain ⟨text, htext⟩ := exists_escapedAs segment
      obtain ⟨texts, htexts⟩ := ih
      exact ⟨text :: texts, .cons htext htexts⟩

/-- What is written of a segment was written from one of the segments. -/
theorem exists_segment_of_mem
    (hwritten : List.Forall₂ EscapedAs segments texts)
    {text : List Char}
    (htext : text ∈ texts) :
    ∃ segment ∈ segments, EscapedAs segment text := by
  induction hwritten with
  | nil =>
      cases htext
  | cons hfirst _ ih =>
      rcases List.mem_cons.1 htext with rfl | htext
      · exact ⟨_, List.mem_cons_self, hfirst⟩
      · obtain ⟨segment, hsegment, h⟩ := ih htext
        exact ⟨segment, List.mem_cons_of_mem _ hsegment, h⟩

theorem isWritten_of_mem_of_mem
    (hwritten : List.Forall₂ EscapedAs segments texts) :
    ∀ text ∈ texts, ∀ c ∈ text, isWritten c = true := by
  intro text htext
  obtain ⟨segment, _, h⟩ := exists_segment_of_mem hwritten htext
  exact h.isWritten_of_mem

/-- A written path begins with a slash and with what is written of its first segment. -/
theorem exists_written_eq
    (hwritten : List.Forall₂ EscapedAs segments texts)
    (hne : segments ≠ [])
    (hsegments : ∀ segment ∈ segments, IsSegment segment) :
    ∃ c path, isWritten c = true ∧ written texts = '/' :: c :: path := by
  have hletters := isWritten_of_mem_of_mem hwritten
  cases hwritten with
  | nil =>
      exact absurd rfl hne
  | @cons segment text segments texts hfirst hrest =>
      cases text with
      | nil =>
          exact absurd (hfirst.eq_nil_iff.1 rfl) (hsegments segment List.mem_cons_self).ne_nil
      | cons c text =>
          exact ⟨c, text ++ written texts,
            hletters (c :: text) List.mem_cons_self c List.mem_cons_self, rfl⟩

/-- Only the slashes of a written path separate segments. -/
theorem splitOnP_written
    (hwritten : ∀ text ∈ texts, ∀ c ∈ text, isWritten c = true)
    (first : List Char)
    (hfirst : ∀ c ∈ first, isSlash c = false) :
    (first ++ written texts).splitOnP isSlash = first :: texts := by
  induction texts generalizing first with
  | nil =>
      simpa [written] using List.splitOnP_eq_singleton hfirst
  | cons text texts ih =>
      have htext : ∀ c ∈ text, isSlash c = false := fun c hc =>
        (bounds_of_isWritten (hwritten text List.mem_cons_self c hc)).2.2.1
      rw [written, List.flatMap_cons, List.cons_append,
        List.splitOnP_append_cons_of_forall_mem hfirst _ rfl]
      exact congrArg (first :: ·) (ih (fun other hother => hwritten other
        (List.mem_cons_of_mem _ hother)) text htext)

/-- The characters of a written path are slashes and what is written of its segments. -/
theorem bounds_of_mem_written
    (hwritten : ∀ text ∈ texts, ∀ c ∈ text, isWritten c = true)
    {c : Char}
    (hc : c ∈ written texts) :
    0x20 < c.toNat ∧ endsPath c = false := by
  obtain ⟨text, htext, hc⟩ := List.mem_flatMap.1 hc
  rcases List.mem_cons.1 hc with rfl | hc
  · decide
  · have hbounds := bounds_of_isWritten (hwritten text htext c hc)
    exact ⟨hbounds.1.1, hbounds.2.2.2.1⟩

/-- The segments entered are the path, also behind an empty one. -/
theorem path_of_entered
    (hwritten : List.Forall₂ EscapedAs segments texts)
    (hne : segments ≠ [])
    (hsegments : ∀ segment ∈ segments, IsSegment segment)
    {walk : Walk}
    (before : List (List Char))
    (hbefore : ∀ text ∈ before, text.isEmpty = true)
    (hentered : walk.entered.reverse = before ++ texts) :
    walk.path = absolute segments := by
  have hpath : texts.flatMap Walk.segmentBytes = absolute segments := by
    clear hne hsegments hentered
    induction hwritten with
    | nil =>
        rfl
    | cons hfirst _ ih =>
        rw [List.flatMap_cons, ih, Walk.segmentBytes, hfirst.unescape_encode]
        rfl
  cases hwritten with
  | nil =>
      exact absurd rfl hne
  | @cons segment text segments texts hfirst hrest =>
      have htext : text.isEmpty = false := by
        have hsegment := (hsegments segment List.mem_cons_self).ne_nil
        simpa using fun h => hsegment (hfirst.eq_nil_iff.1 h)
      rw [Walk.path, hentered, List.dropWhile_append_of_pos hbefore,
        List.dropWhile_cons_of_neg (by simp [htext])]
      exact hpath

/-- A written path is walked over to the path that it was written from, with or without the slash
at its front. -/
theorem path_ofPath_written
    (hwritten : List.Forall₂ EscapedAs segments texts)
    (hne : segments ≠ [])
    (hsegments : ∀ segment ∈ segments, IsSegment segment) :
    (Walk.ofPath (written texts)).path = absolute segments ∧
      (Walk.ofPath ((written texts).drop 1)).path = absolute segments := by
  have hletters := isWritten_of_mem_of_mem hwritten
  have hordinary : ∀ text ∈ texts, Segment.isOrdinary text = true := fun text htext => by
    obtain ⟨segment, hsegment, h⟩ := exists_segment_of_mem hwritten htext
    exact h.isOrdinary (hsegments segment hsegment)
  have hwhole : ∀ {path : List Char}, path <:+ written texts →
      path.takeWhile (fun c => !endsPath c) = path := fun hpath =>
    List.takeWhile_eq_self_iff.2 fun c hc => by
      simpa using (bounds_of_mem_written hletters (hpath.subset hc)).2
  constructor
  · have hsplit := splitOnP_written hletters [] (by simp)
    refine path_of_entered hwritten hne hsegments [[]] (by simp) ?_
    rw [Walk.ofPath, hwhole (List.suffix_refl _)]
    rw [List.nil_append] at hsplit
    rw [hsplit, Walk.walkAll_of_isOrdinary]
    · simp [Walk.start]
    · rintro raw (_ | ⟨_, hraw⟩)
      · rfl
      · exact hordinary raw hraw
  · refine path_of_entered hwritten hne hsegments [] (by simp) ?_
    rw [Walk.ofPath, hwhole (List.drop_suffix _ _)]
    cases texts with
    | nil =>
        cases hwritten
        exact absurd rfl hne
    | cons text texts =>
        have htext : ∀ c ∈ text, isSlash c = false := fun c hc =>
          (bounds_of_isWritten (hletters text List.mem_cons_self c hc)).2.2.1
        have hsplit := splitOnP_written
          (fun other hother => hletters other (List.mem_cons_of_mem _ hother)) text htext
        rw [written, List.flatMap_cons, List.cons_append, List.drop_one, List.tail_cons]
        rw [written] at hsplit
        rw [hsplit, Walk.walkAll_of_isOrdinary _ hordinary]
        simp [Walk.start]

end Paths

section Addresses

/-- What may stand between the scheme of a file URL and a path on this machine. -/
def localFronts : List (List Char) :=
  [[], ['/', '/'], ['/', '/'] ++ Host.localName]

/-- Without a host, and under the name of this machine, the path lies on this machine. -/
theorem FileUrl.ofAuthority?_of_here
    {host : List Char}
    (hhost : host = [] ∨ host = Host.localName)
    (path : List Char) :
    FileUrl.ofAuthority? (host ++ '/' :: path) = some ⟨.here, .ofPath ('/' :: path)⟩ := by
  have hletters : ∀ c ∈ host, FileUrl.endsHost c = false := by
    rcases hhost with rfl | rfl
    · simp
    · exact fun c hc => (FileUrl.bounds_of_isPlain (Host.isPlain_of_mem_localName c hc)).2.1
  rw [FileUrl.ofAuthority?_append_slash hletters]
  rcases hhost with rfl | rfl
  · rfl
  · have hcounted : counted Host.localName = Host.localName := by decide
    rw [hcounted, Host.read?_localName]
    rfl

variable {segments : List Bytes}
variable {texts : List (List Char)}

/-- The three addresses of a path lead to it on this machine. -/
theorem FileUrl.parse?_of_written
    (hwritten : List.Forall₂ EscapedAs segments texts)
    (hne : segments ≠ [])
    (hsegments : ∀ segment ∈ segments, IsSegment segment)
    {front : List Char}
    (hfront : front ∈ localFronts) :
    ∃ walk,
      FileUrl.parse? (front ++ written texts) = some ⟨.here, walk⟩ ∧
        walk.path = absolute segments := by
  obtain ⟨hwhole, hdropped⟩ := path_ofPath_written hwritten hne hsegments
  have hvisible : ∀ d ∈ written texts, 0x20 < d.toNat := fun d hd =>
    (bounds_of_mem_written (isWritten_of_mem_of_mem hwritten) hd).1
  obtain ⟨c, path, hc, hpath⟩ := exists_written_eq hwritten hne hsegments
  have hbounds := bounds_of_isWritten hc
  rw [hpath] at hwhole hdropped hvisible ⊢
  simp only [localFronts, List.mem_cons, List.not_mem_nil, or_false] at hfront
  rcases hfront with rfl | rfl | rfl
  · refine ⟨.ofPath (c :: path), ?_, hdropped⟩
    rw [List.nil_append, parse?_of_slash path hbounds.1.1 hbounds.2.2.1,
      trimEnd_of_visible fun d hd =>
        hvisible d (List.mem_cons_of_mem _ (List.mem_cons_of_mem _ hd))]
  · refine ⟨_, ?_, hwhole⟩
    rw [List.cons_append, List.cons_append, List.nil_append, parse?_of_slashes,
      trimEnd_of_visible hvisible]
    exact ofAuthority?_of_here (Or.inl rfl) (c :: path)
  · refine ⟨_, ?_, hwhole⟩
    have hname : ∀ d ∈ Host.localName, 0x20 < d.toNat := fun d hd =>
      (bounds_of_isPlain (Host.isPlain_of_mem_localName d hd)).1
    rw [List.append_assoc, List.cons_append, List.cons_append, List.nil_append,
      parse?_of_slashes, trimEnd_of_visible fun d hd => (List.mem_append.1 hd).elim
        (hname d) (hvisible d)]
    exact ofAuthority?_of_here (Or.inr rfl) (c :: path)

/-- A path gets a slash behind it exactly if it ends like a drive. -/
theorem FileUrl.closeDrive_absolute
    (segments : List Bytes) :
    (EndsLikeDrive (absolute segments) →
        FileUrl.closeDrive (absolute segments) = absolute segments ++ [0x2F]) ∧
      (¬EndsLikeDrive (absolute segments) →
        FileUrl.closeDrive (absolute segments) = absolute segments) := by
  have hletter : ∀ code : Fin 256,
      isLetterByte (UInt8.ofNat code) = (Char.ofNat code).isAlpha := by
    decide +kernel
  have hletter (byte : UInt8) : isLetterByte byte = (Char.ofNat byte.toNat).isAlpha := by
    simpa only [UInt8.ofNat_toNat] using hletter ⟨byte.toNat, byte.toNat_lt⟩
  constructor
  · rintro ⟨front, letter, mark, hpath, halpha, hmark⟩
    -- The letter is not the slash at the front, so something stands before it.
    have hfront : front ≠ [] := by
      rintro rfl
      cases segments with
      | nil =>
          cases hpath
      | cons segment segments =>
          obtain ⟨rfl, _⟩ := List.cons.inj hpath
          exact absurd halpha (by decide)
    obtain ⟨last, before, hlast⟩ :=
      List.exists_cons_of_ne_nil (List.reverse_ne_nil_iff.2 hfront)
    have hreverse : (absolute segments).reverse = mark :: letter :: last :: before := by
      rw [hpath, List.reverse_append, hlast]
      rfl
    simp [closeDrive, hreverse, hletter, halpha, hmark]
  · intro hdrive
    unfold closeDrive
    split
    · rename_i mark letter before rest hreverse
      split
      · rename_i hends
        rw [Bool.and_eq_true, hletter, Bool.or_eq_true, decide_eq_true_eq, decide_eq_true_eq]
          at hends
        refine absurd ⟨(before :: rest).reverse, letter, mark, ?_, hends.1, hends.2⟩ hdrive
        simpa using congrArg List.reverse hreverse
      · rfl
    · rfl

end Addresses

section Main

/-- Every path has a form in which it can be written as a file URL, and each such URL names it: with
the path directly behind the scheme, behind two slashes, or behind the name of this machine, and
with digits in either case.  A path that ends like a drive gets a slash behind it. -/
theorem resolve_escaped
    {segments : List Bytes}
    (hne : segments ≠ [])
    (hsegments : ∀ segment ∈ segments, IsSegment segment) :
    (∃ texts, List.Forall₂ EscapedAs segments texts) ∧
      ∀ texts, List.Forall₂ EscapedAs segments texts →
        ∃ path,
          (∀ front ∈ localFronts,
            resolve (fileScheme ++ (front ++ written texts)) = .ok ⟨path⟩) ∧
          (EndsLikeDrive (absolute segments) → path = absolute segments ++ [0x2F]) ∧
          (¬EndsLikeDrive (absolute segments) → path = absolute segments) := by
  refine ⟨exists_forall₂_escapedAs segments, fun texts hwritten => ?_⟩
  refine ⟨_, fun front hfront => ?_, FileUrl.closeDrive_absolute segments⟩
  obtain ⟨walk, hparse, hwalk⟩ := FileUrl.parse?_of_written hwritten hne hsegments hfront
  rw [resolve, path?_of_file, hparse, Option.bind_some, FileUrl.path?, hwalk]
  rfl

/-- A byte that begins no character, a name that spells an escaped dot, and a drive at the end. -/
theorem resolve_escaped_escape_in_name :
    (∀ segment ∈ [[0xFF, 0x41], [0x25, 0x32, 0x65], [0x43, 0x3A]], IsSegment segment) ∧
      ∀ front ∈ localFronts,
        resolve (fileScheme ++ (front ++ "/%fFA/%252e/C%3a".toList)) =
          .ok ⟨[0x2F, 0xFF, 0x41, 0x2F, 0x25, 0x32, 0x65, 0x2F, 0x43, 0x3A, 0x2F]⟩ := by
  have hsegments : ∀ segment ∈ [[0xFF, 0x41], [0x25, 0x32, 0x65], [0x43, 0x3A]],
      IsSegment segment := by
    intro segment hsegment
    refine ⟨?_, ?_, ?_, ?_⟩ <;> revert segment <;> decide
  have hwritten : List.Forall₂ EscapedAs [[0xFF, 0x41], [0x25, 0x32, 0x65], [0x43, 0x3A]]
      [['%', 'f', 'F', 'A'], ['%', '2', '5', '2', 'e'], ['C', '%', '3', 'a']] :=
    .cons (.escape rfl rfl rfl (.bare rfl .nil))
      (.cons (.escape rfl rfl rfl (.bare rfl (.bare rfl .nil)))
        (.cons (.bare rfl (.escape rfl rfl rfl .nil)) .nil))
  have hends : EndsLikeDrive (absolute [[0xFF, 0x41], [0x25, 0x32, 0x65], [0x43, 0x3A]]) :=
    ⟨[0x2F, 0xFF, 0x41, 0x2F, 0x25, 0x32, 0x65, 0x2F], 0x43, 0x3A, rfl, by decide, Or.inl rfl⟩
  obtain ⟨path, hpath, hdrive, -⟩ := (resolve_escaped (by decide) hsegments).2 _ hwritten
  obtain rfl := hdrive hends
  exact ⟨hsegments, hpath⟩

end Main

end XmlPreamble.Location

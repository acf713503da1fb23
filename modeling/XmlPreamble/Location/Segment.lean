import XmlPreamble.Location.Percent
import XmlPreamble.Text.Utf8

/-!
# Segments of a path

The path of a location is cut at slashes into segments, and the segments are walked over from left
to right.  A segment of one dot stays where it is, a segment of two dots leaves the segment entered
last, and dots may be escaped.  A drive letter at the root is never left, and it makes the host
irrelevant.

Main statements:

- `Walk.step_of_isOrdinary`: every other segment is entered as it stands;
- `Walk.walkAll_of_isOrdinary`: so are all segments of a path without dots and drives.
-/

namespace XmlPreamble.Location

open Text

/-- The characters that a location passes over wherever they stand. -/
def isPassedOver (c : Char) : Bool :=
  c = '\t' || c = '\n' || c = '\r'

theorem isPassedOver_eq_false_of_visible
    {c : Char}
    (h : 0x20 < c.toNat) :
    isPassedOver c = false := by
  refine Bool.eq_false_iff.2 fun hpassed => ?_
  simp only [isPassedOver, Bool.or_eq_true, decide_eq_true_eq] at hpassed
  rcases hpassed with (rfl | rfl) | rfl <;> exact absurd h (by decide)

/-- The characters between segments. -/
def isSlash (c : Char) : Bool :=
  c = '/' || c = '\\'

/-- The characters that end a path. -/
def endsPath (c : Char) : Bool :=
  c = '?' || c = '#'

/-- What is left of a text once the characters that do not count are gone. -/
def counted (text : List Char) : List Char :=
  text.filter fun c => !isPassedOver c

namespace Segment

/-- What follows a dot at the front, which may be escaped. -/
def pastDot? : List Char → Option (List Char)
  | '.' :: rest => some rest
  | '%' :: '2' :: 'e' :: rest => some rest
  | '%' :: '2' :: 'E' :: rest => some rest
  | _ => none

/-- Whether a segment is one dot. -/
def isDot (segment : List Char) : Bool :=
  pastDot? segment = some []

/-- Whether a segment is two dots. -/
def isDoubleDot (segment : List Char) : Bool :=
  (pastDot? segment).bind pastDot? = some []

/-- Whether a text is a drive: a letter and a colon, or a bar in place of the colon. -/
def isDrive : List Char → Bool
  | [letter, mark] => letter.isAlpha && (mark = ':' || mark = '|')
  | _ => false

theorem isDrive_iff
    {segment : List Char} :
    isDrive segment = true ↔
      ∃ letter mark,
        segment = [letter, mark] ∧ letter.isAlpha = true ∧ (mark = ':' ∨ mark = '|') := by
  constructor
  · intro h
    unfold isDrive at h
    split at h
    · rename_i letter mark
      simp only [Bool.and_eq_true, Bool.or_eq_true, decide_eq_true_eq] at h
      exact ⟨letter, mark, rfl, h⟩
    · cases h
  · rintro ⟨letter, mark, rfl, hletter, hmark⟩
    simp [isDrive, hletter, hmark]

/-- A text without a colon and without a bar is no drive. -/
theorem isDrive_eq_false_of_no_mark
    {segment : List Char}
    (h : ∀ c ∈ segment, c ≠ ':' ∧ c ≠ '|') :
    isDrive segment = false := by
  refine Bool.eq_false_iff.2 fun hdrive => ?_
  obtain ⟨letter, mark, rfl, -, hmark⟩ := isDrive_iff.1 hdrive
  obtain ⟨hcolon, hbar⟩ := h mark (by simp)
  exact hmark.elim hcolon hbar

/-- A drive and what follows it in one segment, if a character that does not count stands directly
behind the colon and further ones that do count stand behind that. -/
def brokenDrive? (raw : List Char) : Option (List Char × List Char) :=
  match raw.dropWhile isPassedOver with
  | [] => none
  | letter :: rest =>
      match rest.dropWhile isPassedOver with
      | ':' :: next :: tail =>
          if letter.isAlpha && isPassedOver next && !(counted tail).isEmpty then
            some ([letter, ':'], counted tail)
          else
            none
      | _ => none

/-- Whether a segment is entered as it stands wherever it comes. -/
def isOrdinary (raw : List Char) : Bool :=
  raw.all (fun c => !isPassedOver c) && !isDot raw && !isDoubleDot raw && !isDrive raw

theorem counted_of_isOrdinary
    {raw : List Char}
    (h : isOrdinary raw = true) :
    counted raw = raw := by
  simp only [isOrdinary, Bool.and_eq_true] at h
  exact List.filter_eq_self.2 (List.all_eq_true.1 h.1.1.1)

theorem brokenDrive?_of_isOrdinary
    {raw : List Char}
    (h : isOrdinary raw = true) :
    brokenDrive? raw = none := by
  simp only [isOrdinary, Bool.and_eq_true] at h
  have hcounted : ∀ c ∈ raw, isPassedOver c = false := fun c hc => by
    simpa using List.all_eq_true.1 h.1.1.1 c hc
  have hsub : ∀ {text : List Char} {c : Char}, c ∈ text.dropWhile isPassedOver → c ∈ text :=
    fun hc => (List.dropWhile_suffix _).subset hc
  unfold brokenDrive?
  split
  · rfl
  · rename_i letter rest hraw
    split
    · rename_i next tail hrest
      have hnext : isPassedOver next = false := by
        refine hcounted next (hsub (hraw ▸ List.mem_cons_of_mem _ (hsub ?_)))
        rw [hrest]
        simp
      simp [hnext]
    · rfl

end Segment

/-- How far a path has been walked. -/
structure Walk where
  /-- The segments entered, the last one first. -/
  entered : List (List Char)
  /-- Whether a drive stands at the root, so that no host counts. -/
  drive : Bool
  deriving DecidableEq, Repr

namespace Walk

/-- At the root. -/
def start : Walk where
  entered := []
  drive := false

/-- Leaves the segment entered last, unless it is a drive. -/
def leave : List (List Char) → List (List Char)
  | [] => []
  | top :: below => if Segment.isDrive top then top :: below else below

/-- Closes a path that ends in dots: it ends in a slash then. -/
def close (last : Bool) (entered : List (List Char)) : List (List Char) :=
  if last then [] :: entered else entered

/-- Walks over one segment that counts as a whole. -/
def enter (walk : Walk) (last : Bool) (segment : List Char) : Walk :=
  if Segment.isDoubleDot segment then
    { walk with entered := close last (leave walk.entered) }
  else if Segment.isDot segment then
    { walk with entered := close last walk.entered }
  else if walk.entered.isEmpty && Segment.isDrive segment then
    ⟨[segment.take 1 ++ [':']], true⟩
  else
    { walk with entered := segment :: walk.entered }

/-- Walks over one segment as it is written. -/
def step (walk : Walk) (last : Bool) (raw : List Char) : Walk :=
  match walk.entered, Segment.brokenDrive? raw with
  | [], some (drive, rest) => { walk with entered := [rest, drive] }
  | _, _ => walk.enter last (counted raw)

/-- Walks over all segments of a path. -/
def walkAll (walk : Walk) : List (List Char) → Walk
  | [] => walk
  | [raw] => walk.step true raw
  | raw :: rest => walkAll (walk.step false raw) rest

/-- An ordinary segment is entered as it stands. -/
theorem step_of_isOrdinary
    (walk : Walk)
    (last : Bool)
    {raw : List Char}
    (h : Segment.isOrdinary raw = true) :
    walk.step last raw = { walk with entered := raw :: walk.entered } := by
  have henter : walk.step last raw = walk.enter last (counted raw) := by
    rw [step, Segment.brokenDrive?_of_isOrdinary h]
    cases walk.entered <;> rfl
  rw [henter, Segment.counted_of_isOrdinary h]
  simp only [Segment.isOrdinary, Bool.and_eq_true, Bool.not_eq_true'] at h
  simp [enter, h.1.1.2, h.1.2, h.2]

/-- Ordinary segments are entered one behind the other. -/
theorem walkAll_of_isOrdinary
    (walk : Walk)
    {segments : List (List Char)}
    (h : ∀ raw ∈ segments, Segment.isOrdinary raw = true) :
    walk.walkAll segments = { walk with entered := segments.reverse ++ walk.entered } := by
  induction segments generalizing walk with
  | nil =>
      rfl
  | cons raw rest ih =>
      have hraw := h raw List.mem_cons_self
      cases rest with
      | nil =>
          simp [walkAll, step_of_isOrdinary walk true hraw]
      | cons next rest =>
          rw [walkAll, ih _ fun other hother => h other (List.mem_cons_of_mem _ hother),
            step_of_isOrdinary walk false hraw]
          · simp
          · simp

/-- Walks over a path as it is written, up to its end. -/
def ofPath (path : List Char) : Walk :=
  start.walkAll ((path.takeWhile fun c => !endsPath c).splitOnP isSlash)

/-- The bytes of a segment behind its slash. -/
def segmentBytes (segment : List Char) : Bytes :=
  0x2F :: Percent.unescape (Utf8.encode segment)

/-- The path walked, from the root on.  Empty segments at the root count for nothing. -/
def path (walk : Walk) : Bytes :=
  match walk.entered.reverse.dropWhile List.isEmpty with
  | [] => [0x2F]
  | segments => segments.flatMap segmentBytes

end Walk

end XmlPreamble.Location

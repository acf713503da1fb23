import Mathlib
import XmlPreamble.Proofs.CommentRegions
import XmlPreamble.Location

/-!
# Locations elsewhere

A location is refused unless it names a file on this machine.  The host of a file URL settles this
for every path behind it, with one exception: a drive at the root counts more than the host, and the
location then names a path on that drive.  What stands in front of the drive does not matter as long
as the walk over it comes back to the root, and nothing behind the drive leaves it again.

Main statements:

- `Walk.drive_walkAll_iff`: the walk notes a drive exactly where one stands at the root;
- `Walk.KeepsDrive.walkAll`: a drive at the root is never left, so that the path begins with it;
- `FileUrl.ofAuthority?_of_foreign`: a plain name is taken apart as a host elsewhere, or not at all;
- `foreign_refused_unless_drive`: what is refused, and what is not.
-/

namespace XmlPreamble.Location

open Text Detection

section Specification

/-- The name of another machine, in plain characters. -/
structure IsForeignName (host : List Char) : Prop where
  /-- It is not empty. -/
  ne_nil : host ≠ []
  /-- It is made of lower-case letters, digits, hyphens and dots. -/
  plain : ∀ c ∈ host, Name.isPlain c = true
  /-- It is not the name of this machine. -/
  ne_local : host ≠ Host.localName
  /-- None of its labels spells another one. -/
  no_spelling : ∀ label ∈ host.splitOnP (· = '.'), ¬ ['x', 'n', '-', '-'] <+: label

/-- A name that ends in a number is an address. -/
def NumbersFit (host : List Char) : Prop :=
  Dotted.endsInNumber (host.splitOnP (· = '.')) = true →
    Dotted.isAddress (host.splitOnP (· = '.')) = true

/-- The segments of a path as it is written, up to its end. -/
def segmentsOf (path : List Char) : List (List Char) :=
  (path.takeWhile fun c => !endsPath c).splitOnP isSlash

/-- The walk over segments that are not the last ones. -/
def Walk.over (walk : Walk) (segments : List (List Char)) : Walk :=
  segments.foldl (fun walk raw => walk.step false raw) walk

/-- A drive stands at the root: the walk over the segments in front of it is at the root again. -/
def StandsAtRoot (letter : Char) (segments : List (List Char)) : Prop :=
  ∃ before raw after mark,
    segments = before ++ raw :: after ∧
      (Walk.start.over before).entered = [] ∧
      counted raw = [letter, mark] ∧ letter.isAlpha = true ∧ (mark = ':' ∨ mark = '|')

end Specification

section Drives

theorem bounds_of_isAlpha
    {c : Char}
    (h : c.isAlpha = true) :
    0x41 ≤ c.toNat ∧ c.toNat ≤ 0x7A := by
  simp only [Char.isAlpha, Char.isUpper, Char.isLower, Bool.or_eq_true, Bool.and_eq_true,
    decide_eq_true_eq, UInt32.le_iff_toNat_le, ge_iff_le] at h
  rcases h with h | h
  · exact ⟨h.1, h.2.trans (by decide)⟩
  · exact ⟨Nat.le_trans (by decide) h.1, h.2⟩

namespace Segment

/-- A drive is no dots. -/
theorem not_dots_of_isDrive
    {segment : List Char}
    (h : isDrive segment = true) :
    isDot segment = false ∧ isDoubleDot segment = false := by
  obtain ⟨letter, mark, rfl, hletter, hmark⟩ := isDrive_iff.1 h
  have hdot : pastDot? [letter, mark] = none := by
    unfold pastDot?
    split
    · simp_all
    · simp_all
    · simp_all
    · rfl
  simp [isDot, isDoubleDot, hdot]

theorem counted_dropWhile
    (text : List Char) :
    counted (text.dropWhile isPassedOver) = counted text := by
  induction text with
  | nil =>
      rfl
  | cons c rest ih =>
      rw [List.dropWhile_cons]
      split
      · rename_i hc
        rw [ih, counted, counted, List.filter_cons_of_neg (by simp [hc])]
      · rfl

/-- What is broken behind the colon is more than a drive. -/
theorem brokenDrive?_of_isDrive
    {raw : List Char}
    (h : isDrive (counted raw) = true) :
    brokenDrive? raw = none := by
  unfold brokenDrive?
  split
  · rfl
  · rename_i letter rest hraw
    split
    · rename_i next tail hrest
      refine if_neg fun hbroken => ?_
      simp only [Bool.and_eq_true, Bool.not_eq_true', List.isEmpty_eq_false_iff] at hbroken
      obtain ⟨⟨hletter, hnext⟩, htail⟩ := hbroken
      have hcounts : isPassedOver letter = false :=
        isPassedOver_eq_false_of_visible (Nat.lt_of_lt_of_le (by decide)
          (bounds_of_isAlpha hletter).1)
      have hcolon : counted (':' :: next :: tail) = ':' :: counted tail := by
        rw [counted, List.filter_cons_of_pos (by rfl),
          List.filter_cons_of_neg (by simp [hnext]), counted]
      have hwhole : counted raw = letter :: ':' :: counted tail := by
        rw [← counted_dropWhile, hraw, ← hcolon, ← hrest, counted_dropWhile, counted, counted,
          List.filter_cons_of_pos (by simp [hcounts])]
      obtain ⟨c, text, htext⟩ := List.exists_cons_of_ne_nil htail
      rw [hwhole, htext] at h
      cases h
    · rfl

end Segment

namespace Walk

variable {walk : Walk}
variable {letter : Char}
variable {raw : List Char}

/-- A step notes a drive exactly if it is taken from the root over a drive. -/
theorem drive_step
    (walk : Walk)
    (last : Bool)
    (raw : List Char) :
    (walk.step last raw).drive =
      (walk.drive || (walk.entered.isEmpty && Segment.isDrive (counted raw))) := by
  have henter (segment : List Char) :
      (walk.enter last segment).drive =
        (walk.drive || (walk.entered.isEmpty && Segment.isDrive segment)) := by
    unfold enter
    cases hdrive : Segment.isDrive segment with
    | true =>
        have hdots := Segment.not_dots_of_isDrive hdrive
        cases hroot : walk.entered.isEmpty <;> simp [hdots]
    | false =>
        split
        · simp
        · split <;> simp
  unfold step
  split
  · rename_i drive rest hentered hbroken
    have hdrive : Segment.isDrive (counted raw) = false := by
      refine Bool.eq_false_iff.2 fun hdrive => ?_
      rw [Segment.brokenDrive?_of_isDrive hdrive] at hbroken
      cases hbroken
    simp [hdrive]
  · exact henter (counted raw)

theorem walkAll_append
    (walk : Walk)
    (before : List (List Char))
    (raw : List Char)
    (after : List (List Char)) :
    walk.walkAll (before ++ raw :: after) = (walk.over before).walkAll (raw :: after) := by
  induction before generalizing walk with
  | nil =>
      rfl
  | cons first before ih =>
      rw [List.cons_append]
      have hcons (rest : List (List Char)) (hrest : rest ≠ []) :
          walk.walkAll (first :: rest) = (walk.step false first).walkAll rest := by
        cases rest with
        | nil => exact absurd rfl hrest
        | cons => rfl
      rw [hcons _ (by simp), ih]
      rfl

/-- A walk notes a drive exactly where one stands when the walk is at the root. -/
theorem drive_walkAll_iff
    (walk : Walk)
    (segments : List (List Char)) :
    (walk.walkAll segments).drive = true ↔
      walk.drive = true ∨
        ∃ before raw after,
          segments = before ++ raw :: after ∧
            (walk.over before).entered = [] ∧ Segment.isDrive (counted raw) = true := by
  induction segments generalizing walk with
  | nil =>
      simp [walkAll]
  | cons raw rest ih =>
      have hfirst : (walk.walkAll (raw :: rest)).drive =
          ((walk.step false raw).walkAll rest).drive := by
        cases rest with
        | nil => rw [walkAll, walkAll, drive_step, drive_step]
        | cons => rfl
      rw [hfirst, ih, drive_step, Bool.or_eq_true, Bool.and_eq_true, List.isEmpty_iff]
      constructor
      · rintro ((hdrive | ⟨hroot, hdrive⟩) | ⟨before, other, after, rfl, hroot, hdrive⟩)
        · exact Or.inl hdrive
        · exact Or.inr ⟨[], raw, rest, rfl, hroot, hdrive⟩
        · exact Or.inr ⟨raw :: before, other, after, rfl, hroot, hdrive⟩
      · rintro (hdrive | ⟨before, other, after, hsegments, hroot, hdrive⟩)
        · exact Or.inl (Or.inl hdrive)
        · cases before with
          | nil =>
              obtain ⟨rfl, rfl⟩ := List.cons.inj hsegments
              exact Or.inl (Or.inr ⟨hroot, hdrive⟩)
          | cons first before =>
              obtain ⟨rfl, rfl⟩ := List.cons.inj hsegments
              exact Or.inr ⟨before, other, after, rfl, hroot, hdrive⟩

/-- A drive stands at the root of a walk, and the walk knows it. -/
structure KeepsDrive (letter : Char) (walk : Walk) : Prop where
  /-- What stands at the root is a drive. -/
  isLetter : letter.isAlpha = true
  /-- The walk knows of the drive. -/
  drive : walk.drive = true
  /-- The drive is what has been entered first. -/
  entered : walk.entered.getLast? = some [letter, ':']

theorem KeepsDrive.push
    (h : KeepsDrive letter walk)
    (segment : List Char) :
    KeepsDrive letter { walk with entered := segment :: walk.entered } := by
  refine ⟨h.isLetter, h.drive, ?_⟩
  rw [List.getLast?_cons, h.entered]
  rfl

theorem KeepsDrive.close
    (h : KeepsDrive letter walk)
    (last : Bool) :
    KeepsDrive letter { walk with entered := Walk.close last walk.entered } := by
  cases last with
  | false => exact h
  | true => exact h.push []

/-- Two dots do not lead out of a drive at the root. -/
theorem KeepsDrive.leave
    (h : KeepsDrive letter walk) :
    KeepsDrive letter { walk with entered := Walk.leave walk.entered } := by
  refine ⟨h.isLetter, h.drive, ?_⟩
  have hentered := h.entered
  dsimp only
  cases hwalk : walk.entered with
  | nil =>
      rw [hwalk] at hentered
      cases hentered
  | cons top below =>
      rw [hwalk] at hentered
      rw [Walk.leave]
      split
      · exact hentered
      · rename_i htop
        cases below with
        | nil =>
            obtain rfl := Option.some.inj hentered
            exact absurd (by simp [Segment.isDrive, h.isLetter]) htop
        | cons next below =>
            rwa [List.getLast?_cons_cons] at hentered

theorem KeepsDrive.step
    (h : KeepsDrive letter walk)
    (last : Bool)
    (raw : List Char) :
    KeepsDrive letter (walk.step last raw) := by
  have hroot : walk.entered ≠ [] := by
    intro hnil
    have hentered := h.entered
    rw [hnil] at hentered
    cases hentered
  unfold Walk.step
  split
  · contradiction
  · unfold enter
    split
    · exact h.leave.close last
    · split
      · exact h.close last
      · rw [if_neg (by simp [hroot])]
        exact h.push _

/-- A drive at the root is never left. -/
theorem KeepsDrive.walkAll
    (h : KeepsDrive letter walk)
    (segments : List (List Char)) :
    KeepsDrive letter (walk.walkAll segments) := by
  induction segments generalizing walk with
  | nil =>
      exact h
  | cons raw rest ih =>
      cases rest with
      | nil => exact h.step true raw
      | cons => exact ih (h.step false raw)

/-- The drive at the root begins the path. -/
theorem KeepsDrive.exists_path
    (h : KeepsDrive letter walk) :
    ∃ rest, walk.path = 0x2F :: UInt8.ofNat letter.toNat :: 0x3A :: rest := by
  obtain ⟨above, habove⟩ := List.getLast?_eq_some_iff.1 h.entered
  have hreverse : walk.entered.reverse = [letter, ':'] :: above.reverse := by
    rw [habove, List.reverse_append]
    rfl
  have hdrive : Walk.segmentBytes [letter, ':'] =
      [0x2F, UInt8.ofNat letter.toNat, 0x3A] := by
    obtain ⟨hlow, hhigh⟩ := bounds_of_isAlpha h.isLetter
    have hsign : UInt8.ofNat letter.toNat ≠ Percent.sign := by
      intro hsign
      have hcode := congrArg UInt8.toNat hsign
      rw [UInt8.toNat_ofNat'] at hcode
      simp only [Percent.sign, UInt8.reduceToNat] at hcode
      omega
    rw [Walk.segmentBytes, Utf8.encode_cons, Utf8.encodeChar_of_lt (by omega),
      List.singleton_append, Percent.unescape_cons_of_ne _ hsign]
    rfl
  refine ⟨above.reverse.flatMap Walk.segmentBytes, ?_⟩
  rw [Walk.path, hreverse, List.dropWhile_cons_of_neg (by simp)]
  change Walk.segmentBytes [letter, ':'] ++ above.reverse.flatMap Walk.segmentBytes = _
  rw [hdrive]
  rfl

/-- The first step over a drive at the root enters it. -/
theorem keepsDrive_step_of_root
    {mark : Char}
    (hroot : walk.entered = [])
    (hraw : counted raw = [letter, mark])
    (hletter : letter.isAlpha = true)
    (hmark : mark = ':' ∨ mark = '|')
    (last : Bool) :
    KeepsDrive letter (walk.step last raw) := by
  have hdrive : Segment.isDrive (counted raw) = true :=
    Segment.isDrive_iff.2 ⟨letter, mark, hraw, hletter, hmark⟩
  have hdots := Segment.not_dots_of_isDrive hdrive
  have henter : walk.step last raw = walk.enter last (counted raw) := by
    rw [Walk.step, Segment.brokenDrive?_of_isDrive hdrive, hroot]
  rw [henter, enter, if_neg (by simp [hdots.2]), if_neg (by simp [hdots.1]),
    if_pos (by simp [hroot, hdrive]), hraw]
  exact ⟨hletter, rfl, rfl⟩

/-- Where a drive stands at the root, the walk keeps it. -/
theorem keepsDrive_of_standsAtRoot
    {segments : List (List Char)}
    (h : StandsAtRoot letter segments) :
    KeepsDrive letter (start.walkAll segments) := by
  obtain ⟨before, raw, after, mark, rfl, hroot, hraw, hletter, hmark⟩ := h
  rw [walkAll_append]
  cases after with
  | nil => exact keepsDrive_step_of_root hroot hraw hletter hmark true
  | cons => exact (keepsDrive_step_of_root hroot hraw hletter hmark false).walkAll _

/-- Where no drive stands at the root, the walk notes none. -/
theorem drive_eq_false_of_not_standsAtRoot
    {segments : List (List Char)}
    (h : ∀ letter, ¬StandsAtRoot letter segments) :
    (start.walkAll segments).drive = false := by
  refine Bool.eq_false_iff.2 fun hdrive => ?_
  rcases (drive_walkAll_iff start segments).1 hdrive with hstart | ⟨before, raw, after, hroot⟩
  · cases hstart
  · obtain ⟨hsegments, hentered, hraw⟩ := hroot
    obtain ⟨letter, mark, hdrive⟩ := Segment.isDrive_iff.1 hraw
    exact h letter ⟨before, raw, after, mark, hsegments, hentered, hdrive⟩

end Walk

end Drives

section Hosts

variable {host : List Char}

/-- A name with one label is that label. -/
theorem eq_of_splitOnP_eq_singleton
    {label : List Char}
    (h : host.splitOnP (· = '.') = [label]) :
    host = label := by
  have hsplit : host.splitOn '.' = [label] := by
    rw [List.splitOn_eq_splitOnP, ← h]
    simp only [beq_eq_decide]
  rw [← @List.intercalate_splitOn _ host _ _ '.', hsplit]
  simp

/-- A plain name that is not the one of this machine is a host elsewhere, if its numbers fit. -/
theorem Host.read?_of_foreign
    (h : IsForeignName host) :
    (NumbersFit host → Host.read? host = some .elsewhere) ∧
      (¬NumbersFit host → Host.read? host = none) := by
  have hread : Host.read? host = Host.ofLabels? (host.splitOnP (· = '.')) := by
    rw [← Host.readName?_of_isPlain h.plain h.no_spelling]
    unfold Host.read?
    split
    · exact absurd rfl (FileUrl.bounds_of_isPlain (h.plain '[' List.mem_cons_self)).2.2.2.2
    · rfl
  have hlabels : host.splitOnP (· = '.') ≠ [[]] := fun heq =>
    h.ne_nil (eq_of_splitOnP_eq_singleton heq)
  have hlocal : host.splitOnP (· = '.') ≠ [Host.localName] := fun heq =>
    h.ne_local (eq_of_splitOnP_eq_singleton heq)
  rw [hread, Host.ofLabels?, if_neg hlabels, if_neg hlocal, NumbersFit]
  split <;> simp_all

/-- A plain name that is not the one of this machine is taken apart as a host elsewhere, or not at
all. -/
theorem FileUrl.ofAuthority?_of_foreign
    (h : IsForeignName host)
    (path : List Char) :
    (NumbersFit host →
        FileUrl.ofAuthority? (host ++ '/' :: path) = some ⟨.elsewhere, .ofPath path⟩) ∧
      (¬NumbersFit host → FileUrl.ofAuthority? (host ++ '/' :: path) = none) := by
  have hletters : ∀ c ∈ host, FileUrl.endsHost c = false := fun c hc =>
    (FileUrl.bounds_of_isPlain (h.plain c hc)).2.1
  have hcounted : counted host = host := List.filter_eq_self.2 fun c hc => by
    simp [isPassedOver_eq_false_of_visible (FileUrl.bounds_of_isPlain (h.plain c hc)).1]
  have hdrive : Segment.isDrive host = false :=
    Segment.isDrive_eq_false_of_no_mark fun c hc =>
      have hbounds := FileUrl.bounds_of_isPlain (h.plain c hc)
      ⟨hbounds.2.2.1, hbounds.2.2.2.1⟩
  obtain ⟨hfit, hunfit⟩ := Host.read?_of_foreign h
  rw [FileUrl.ofAuthority?_append_slash hletters, hcounted]
  constructor
  · intro hnumbers
    simp [hdrive, h.ne_nil, hfit hnumbers]
  · intro hnumbers
    simp [hdrive, h.ne_nil, hunfit hnumbers]

end Hosts

section Main

/-- The location of a path under the name of a machine. -/
def remote (host rest : List Char) : List Char :=
  fileScheme ++ '/' :: '/' :: (host ++ '/' :: rest)

/-- A drive at the root is named whatever the host, and without it a location elsewhere is
refused. -/
theorem resolve_remote
    {host : List Char}
    (h : IsForeignName host)
    (rest : List Char) :
    (∀ letter,
        NumbersFit host → StandsAtRoot letter (segmentsOf (FileUrl.trimEnd rest)) →
          ∃ path,
            resolve (remote host rest) =
              .ok ⟨0x2F :: UInt8.ofNat letter.toNat :: 0x3A :: path⟩) ∧
      ((NumbersFit host →
          ∀ letter, ¬StandsAtRoot letter (segmentsOf (FileUrl.trimEnd rest))) →
        resolve (remote host rest) = .error (.unsupportedLocation (remote host rest))) := by
  have hvisible : ∀ c ∈ host, 0x20 < c.toNat := fun c hc =>
    (FileUrl.bounds_of_isPlain (h.plain c hc)).1
  have hpath : path? (remote host rest) =
      (FileUrl.ofAuthority? (host ++ '/' :: FileUrl.trimEnd rest)).bind FileUrl.path? := by
    rw [remote, path?_of_file, FileUrl.parse?_of_slashes,
      FileUrl.trimEnd_append_of_visible _ hvisible,
      FileUrl.trimEnd_cons_of_visible _ (by decide)]
  obtain ⟨hfit, hunfit⟩ := FileUrl.ofAuthority?_of_foreign h (FileUrl.trimEnd rest)
  constructor
  · intro letter hnumbers hroot
    have hkeeps : Walk.KeepsDrive letter (.ofPath (FileUrl.trimEnd rest)) :=
      Walk.keepsDrive_of_standsAtRoot hroot
    obtain ⟨tail, htail⟩ := hkeeps.exists_path
    obtain ⟨behind, hbehind⟩ := FileUrl.closeDrive_eq_append
      (Walk.ofPath (FileUrl.trimEnd rest)).path
    rw [htail] at hbehind
    refine ⟨tail ++ behind, ?_⟩
    simp [resolve, hpath, hfit hnumbers, FileUrl.path?, hkeeps.drive, htail, hbehind]
  · intro hnone
    by_cases hnumbers : NumbersFit host
    · have hdrive : (Walk.ofPath (FileUrl.trimEnd rest)).drive = false :=
        Walk.drive_eq_false_of_not_standsAtRoot (hnone hnumbers)
      simp [resolve, hpath, hfit hnumbers, FileUrl.path?, hdrive]
    · simp [resolve, hpath, hunfit hnumbers]

/-- A file URL without a slash behind its scheme is refused. -/
theorem resolve_of_no_slash
    {rest : List Char}
    (h : rest.head? ≠ some '/') :
    resolve (fileScheme ++ rest) = .error (.unsupportedLocation (fileScheme ++ rest)) := by
  have hparse : FileUrl.parse? rest = none := by
    unfold FileUrl.parse?
    split
    · exact absurd rfl h
    · rfl
  simp [resolve, path?_of_file, hparse]

/-- A location that is no file URL is refused for its front or for an authority in it, and is a
path as it stands otherwise. -/
theorem resolve_of_no_file
    {location : List Char}
    (h : ¬fileScheme <+: location) :
    (location = [] ∨ classpathScheme <+: location ∨ authorityMark <:+: location →
        resolve location = .error (.unsupportedLocation location)) ∧
      (¬(location = [] ∨ classpathScheme <+: location ∨ authorityMark <:+: location) →
        resolve location = .ok ⟨Utf8.encode location⟩) := by
  have hfile : fileScheme.isPrefixOf location = false := by
    rwa [Bool.eq_false_iff, Ne, List.isPrefixOf_iff_prefix]
  constructor
  · rintro (rfl | ⟨rest, rfl⟩ | hmark)
    · exact resolve_nil
    · exact resolve_classpath rest
    · rw [← containsToken_iff_infix] at hmark
      exact resolve_of_remote hfile hmark
  · intro hplain
    simp only [not_or] at hplain
    obtain ⟨hne, hclasspath, hmark⟩ := hplain
    refine resolve_of_plain hne ?_ hfile ?_
    · rwa [Bool.eq_false_iff, Ne, List.isPrefixOf_iff_prefix]
    · rwa [Bool.eq_false_iff, Ne, containsToken_iff_infix]

/-- A location elsewhere is refused, unless a drive at the root of its path makes the host
irrelevant: then it names a path on that drive.  A file URL without a slash is refused.  Of what is
no file URL, the empty text, a location on a class path and one with an authority are refused, and
everything else is a path as it stands. -/
theorem foreign_refused_unless_drive
    (host rest location : List Char) :
    (IsForeignName host →
        (∀ letter,
            NumbersFit host → StandsAtRoot letter (segmentsOf (FileUrl.trimEnd rest)) →
              ∃ path,
                resolve (remote host rest) =
                  .ok ⟨0x2F :: UInt8.ofNat letter.toNat :: 0x3A :: path⟩) ∧
          ((NumbersFit host →
              ∀ letter, ¬StandsAtRoot letter (segmentsOf (FileUrl.trimEnd rest))) →
            resolve (remote host rest) = .error (.unsupportedLocation (remote host rest)))) ∧
      (rest.head? ≠ some '/' →
        resolve (fileScheme ++ rest) = .error (.unsupportedLocation (fileScheme ++ rest))) ∧
      (¬fileScheme <+: location →
        (location = [] ∨ classpathScheme <+: location ∨ authorityMark <:+: location →
            resolve location = .error (.unsupportedLocation location)) ∧
          (¬(location = [] ∨ classpathScheme <+: location ∨ authorityMark <:+: location) →
            resolve location = .ok ⟨Utf8.encode location⟩)) :=
  ⟨fun hhost => resolve_remote hhost rest, resolve_of_no_slash, resolve_of_no_file⟩

theorem isForeignName_letter : IsForeignName ['h'] :=
  ⟨by decide, List.all_eq_true.1 (by decide), by decide, by decide⟩

/-- A drive behind two dots that lead back to the root, a number too large for an address, and the
three forms without a host. -/
theorem drive_behind_dots_and_no_address :
    (IsForeignName ['h'] ∧
        ∃ path, resolve (remote ['h'] "x/../C|/a".toList) = .ok ⟨0x2F :: 0x43 :: 0x3A :: path⟩) ∧
      resolve (remote ['2', '.', '2', '5', '6', '.', '0', '.', '0'] "C:/a".toList) =
        .error (.unsupportedLocation (remote ['2', '.', '2', '5', '6', '.', '0', '.', '0']
          "C:/a".toList)) ∧
      resolve (remote ['h'] "a/C:".toList) =
        .error (.unsupportedLocation (remote ['h'] "a/C:".toList)) ∧
      resolve "file:conf".toList = .error (.unsupportedLocation "file:conf".toList) ∧
      resolve "a://b".toList = .error (.unsupportedLocation "a://b".toList) ∧
      resolve "a%41".toList = .ok ⟨[0x61, 0x25, 0x34, 0x31]⟩ := by
  have hdrive := (foreign_refused_unless_drive ['h'] "x/../C|/a".toList []).1 isForeignName_letter
  have haddress := (foreign_refused_unless_drive ['2', '.', '2', '5', '6', '.', '0', '.', '0']
    "C:/a".toList []).1 ⟨by decide, List.all_eq_true.1 (by decide), by decide, by decide⟩
  have hinner := (foreign_refused_unless_drive ['h'] "a/C:".toList []).1 isForeignName_letter
  have hscheme := (foreign_refused_unless_drive [] "conf".toList []).2.1
  have hauthority := (foreign_refused_unless_drive [] [] "a://b".toList).2.2 (by decide)
  have hpath := (foreign_refused_unless_drive [] [] "a%41".toList).2.2 (by decide)
  refine ⟨⟨isForeignName_letter, ?_⟩, ?_, ?_, ?_, ?_, ?_⟩
  · exact hdrive.1 'C' (fun h => by revert h; decide)
      ⟨[['x'], ['.', '.']], ['C', '|'], [['a']], '|', by decide, by decide, by decide, by decide,
        Or.inr rfl⟩
  · exact haddress.2 fun hnumbers => absurd (hnumbers (by decide)) (by decide)
  · exact hinner.2 fun _ letter hroot =>
      absurd (Walk.keepsDrive_of_standsAtRoot hroot).drive (by decide)
  · exact hscheme (by decide)
  · exact hauthority.1 (Or.inr (Or.inr ⟨['a'], ['b'], rfl⟩))
  · refine hpath.2 ?_
    rw [← containsToken_iff_infix]
    decide

/-- The host counts for nothing where a drive stands at the root. -/
theorem drive_erases_host :
    IsForeignName ['h'] ∧
      resolve (remote ['h'] "C:/a".toList) = .ok ⟨[0x2F, 0x43, 0x3A, 0x2F, 0x61]⟩ := by
  have hauthority : FileUrl.ofAuthority? (['h'] ++ '/' :: "C:/a".toList) =
      some ⟨.elsewhere, .ofPath "C:/a".toList⟩ :=
    (FileUrl.ofAuthority?_of_foreign isForeignName_letter _).1 (fun h => by revert h; decide)
  have hparse : FileUrl.parse? ('/' :: '/' :: (['h'] ++ '/' :: "C:/a".toList)) =
      some ⟨.elsewhere, .ofPath "C:/a".toList⟩ :=
    (FileUrl.parse?_of_slashes _).trans hauthority
  refine ⟨isForeignName_letter, ?_⟩
  rw [resolve, remote, path?_of_file, hparse]
  rfl

end Main

end XmlPreamble.Location

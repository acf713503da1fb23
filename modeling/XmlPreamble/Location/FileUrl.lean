import XmlPreamble.Location.Host
import XmlPreamble.Location.Segment

/-!
# File URLs

What follows the scheme of a file URL is a path from the root, or two slashes, a host and such a
path.  In place of the host a drive may stand, which is then the first segment of the path.  Query
and fragment say nothing about the path.

Main statements:

- `trimEnd_cons_of_visible`: only controls and blanks with nothing else behind them are cut off;
- `parse?_of_slashes` and `ofAuthority?_append_slash`: behind two slashes stands an authority, and
  it ends at the next slash.
-/

namespace XmlPreamble.Location

/-- A file URL that has been taken apart. -/
structure FileUrl where
  /-- Where the file lies. -/
  host : Host
  /-- The path, as far as it has been walked. -/
  walk : Walk
  deriving DecidableEq, Repr

namespace FileUrl

/-- A text without the controls and blanks at its end. -/
def trimEnd (text : List Char) : List Char :=
  (text.reverse.dropWhile fun c => c.toNat ≤ 0x20).reverse

/-- Whether a character ends a host. -/
def endsHost (c : Char) : Bool :=
  isSlash c || endsPath c

/-- A path without the slash at its front. -/
def withoutSlash (path : List Char) : List Char :=
  match path with
  | [] => []
  | c :: rest => if isSlash c then rest else c :: rest

/-- Takes apart what follows the two slashes. -/
def ofAuthority? (text : List Char) : Option FileUrl :=
  let host := counted (text.takeWhile fun c => !endsHost c)
  let path := text.dropWhile fun c => !endsHost c
  if Segment.isDrive host then
    some ⟨.here, .ofPath text⟩
  else if host.isEmpty then
    some ⟨.here, .ofPath path⟩
  else
    match Host.read? host with
    | none => none
    | some .here => some ⟨.here, .ofPath path⟩
    | some .elsewhere => some ⟨.elsewhere, .ofPath (withoutSlash path)⟩

/-- Takes apart what follows the scheme.  There has to be a slash at its front. -/
def parse? (text : List Char) : Option FileUrl :=
  match text with
  | '/' :: _ =>
      let rest := (trimEnd text).drop 1
      match rest.dropWhile isPassedOver with
      | [] => some ⟨.here, .ofPath rest⟩
      | c :: authority =>
          if isSlash c then ofAuthority? authority else some ⟨.here, .ofPath rest⟩
  | _ => none

/-- Whether a byte is an ASCII letter. -/
def isLetterByte (byte : UInt8) : Bool :=
  (0x41 ≤ byte && byte ≤ 0x5A) || (0x61 ≤ byte && byte ≤ 0x7A)

/-- A path that ends like a drive gets a slash behind it. -/
def closeDrive (path : Bytes) : Bytes :=
  match path.reverse with
  | mark :: letter :: _ :: _ =>
      if isLetterByte letter && (mark = 0x3A || mark = 0x7C) then path ++ [0x2F] else path
  | _ => path

/-- The path of a file on this machine.  A drive at the root counts more than a host. -/
def path? (url : FileUrl) : Option Bytes :=
  if url.host = .here || url.walk.drive then some (closeDrive url.walk.path) else none

section Laws

@[simp] theorem trimEnd_nil : trimEnd [] = [] := by
  rfl

/-- What is neither a control nor a blank stays, whatever stands behind it. -/
theorem trimEnd_cons_of_visible
    {c : Char}
    (rest : List Char)
    (h : 0x20 < c.toNat) :
    trimEnd (c :: rest) = c :: trimEnd rest := by
  rw [trimEnd, List.reverse_cons, List.dropWhile_append]
  split
  · rename_i hempty
    rw [List.dropWhile_cons_of_neg (by simpa using h), trimEnd, List.isEmpty_iff.1 hempty]
    rfl
  · rw [List.reverse_append]
    rfl

theorem trimEnd_append_of_visible
    {before : List Char}
    (rest : List Char)
    (h : ∀ c ∈ before, 0x20 < c.toNat) :
    trimEnd (before ++ rest) = before ++ trimEnd rest := by
  induction before with
  | nil =>
      rfl
  | cons c before ih =>
      rw [List.cons_append, trimEnd_cons_of_visible _ (h c List.mem_cons_self),
        ih fun d hd => h d (List.mem_cons_of_mem _ hd)]
      rfl

/-- Nothing at the end of a text without controls and blanks is cut off. -/
theorem trimEnd_of_visible
    {text : List Char}
    (h : ∀ c ∈ text, 0x20 < c.toNat) :
    trimEnd text = text := by
  simpa using trimEnd_append_of_visible [] h

/-- Behind two slashes stands an authority. -/
theorem parse?_of_slashes
    (text : List Char) :
    parse? ('/' :: '/' :: text) = ofAuthority? (trimEnd text) := by
  have hslash : isPassedOver '/' = false := rfl
  rw [parse?, trimEnd_cons_of_visible _ (by decide), List.drop_one, List.tail_cons,
    trimEnd_cons_of_visible _ (by decide), List.dropWhile_cons_of_neg (by simp [hslash])]
  rfl

/-- Without a second slash, the path begins with the first one. -/
theorem parse?_of_slash
    {c : Char}
    (text : List Char)
    (hvisible : 0x20 < c.toNat)
    (hslash : isSlash c = false) :
    parse? ('/' :: c :: text) = some ⟨.here, .ofPath (c :: trimEnd text)⟩ := by
  have hcounts : isPassedOver c = false := isPassedOver_eq_false_of_visible hvisible
  rw [parse?, trimEnd_cons_of_visible _ (by decide), List.drop_one, List.tail_cons,
    trimEnd_cons_of_visible _ hvisible, List.dropWhile_cons_of_neg (by simp [hcounts])]
  simp [hslash]

/-- A plain character neither ends a host nor is passed over. -/
theorem bounds_of_isPlain
    {c : Char}
    (h : Name.isPlain c = true) :
    0x20 < c.toNat ∧ endsHost c = false ∧ c ≠ ':' ∧ c ≠ '|' ∧ c ≠ '[' := by
  have hcode := Name.toNat_of_isPlain h
  have hne (d : Char) (hd : d.toNat ≠ c.toNat) : c ≠ d := by
    rintro rfl
    exact hd rfl
  refine ⟨by omega, ?_, hne _ ?_, hne _ ?_, hne _ ?_⟩
  · simp only [endsHost, isSlash, endsPath, Bool.or_eq_false_iff, decide_eq_false_iff_not]
    refine ⟨⟨hne _ ?_, hne _ ?_⟩, hne _ ?_, hne _ ?_⟩ <;>
      simp only [Char.reduceToNat] <;> omega
  all_goals simp only [Char.reduceToNat]
  all_goals omega

/-- An authority ends at the first slash. -/
theorem ofAuthority?_append_slash
    {host : List Char}
    (h : ∀ c ∈ host, endsHost c = false)
    (path : List Char) :
    ofAuthority? (host ++ '/' :: path) =
      if Segment.isDrive (counted host) then some ⟨.here, .ofPath (host ++ '/' :: path)⟩
      else if (counted host).isEmpty then some ⟨.here, .ofPath ('/' :: path)⟩
      else
        match Host.read? (counted host) with
        | none => none
        | some .here => some ⟨.here, .ofPath ('/' :: path)⟩
        | some .elsewhere => some ⟨.elsewhere, .ofPath path⟩ := by
  have hslash : endsHost '/' = true := rfl
  have hletters : ∀ c ∈ host, (!endsHost c) = true := fun c hc => by simp [h c hc]
  have htake : (host ++ '/' :: path).takeWhile (fun c => !endsHost c) = host := by
    rw [List.takeWhile_append_of_pos hletters, List.takeWhile_cons_of_neg (by simp [hslash]),
      List.append_nil]
  have hdrop : (host ++ '/' :: path).dropWhile (fun c => !endsHost c) = '/' :: path := by
    rw [List.dropWhile_append_of_pos hletters, List.dropWhile_cons_of_neg (by simp [hslash])]
  rw [ofAuthority?, htake, hdrop]
  rfl

/-- At most a slash is put behind a path. -/
theorem closeDrive_eq_append
    (path : Bytes) :
    ∃ tail, closeDrive path = path ++ tail := by
  unfold closeDrive
  split
  · split
    · exact ⟨[0x2F], rfl⟩
    · exact ⟨[], (List.append_nil path).symm⟩
  · exact ⟨[], (List.append_nil path).symm⟩

end Laws

end FileUrl

end XmlPreamble.Location

import XmlPreamble.Detection.Error
import XmlPreamble.Location.FileUrl

/-!
# Locations

The text that names a document.  Only files on this machine can be named: by a plain path, which
is taken as it stands, or by a file URL.  Everything else is refused rather than guessed at.

Main statements:

- `resolve_nil` and `resolve_classpath`: the empty text and locations on a class path are refused;
- `resolve_of_plain`: a path is taken as it stands, without any decoding;
- `resolve_of_remote`: a location with an authority of another scheme is refused;
- `path?_of_file`: what names a file behind its scheme is taken apart as a URL.
-/

namespace XmlPreamble

/-- Where a document lies: the path of a file. -/
structure Location where
  /-- The path, as bytes. -/
  path : Bytes
  deriving DecidableEq, Repr

namespace Location

open Detection Text

/-- What a file URL begins with. -/
def fileScheme : List Char := ['f', 'i', 'l', 'e', ':']

/-- What a location on a class path begins with. -/
def classpathScheme : List Char := ['c', 'l', 'a', 's', 's', 'p', 'a', 't', 'h', ':']

/-- What stands between a scheme and an authority. -/
def authorityMark : List Char := [':', '/', '/']

/-- The path of the file that a text names, if it names one on this machine. -/
def path? (text : List Char) : Option Bytes :=
  if text.isEmpty || classpathScheme.isPrefixOf text then none
  else if fileScheme.isPrefixOf text then
    (FileUrl.parse? (text.drop fileScheme.length)).bind FileUrl.path?
  else if containsToken authorityMark text then none
  else some (Utf8.encode text)

/-- The location that a text names. -/
def resolve (text : List Char) : Except Failure Location :=
  match path? text with
  | some path => .ok ⟨path⟩
  | none => .error (.unsupportedLocation text)

section Refused

/-- The empty text names nothing. -/
@[simp] theorem resolve_nil : resolve [] = .error (.unsupportedLocation []) := by
  rfl

/-- What lies on a class path is no file. -/
theorem resolve_classpath
    (rest : List Char) :
    resolve (classpathScheme ++ rest) =
      .error (.unsupportedLocation (classpathScheme ++ rest)) := by
  simp [resolve, path?]

/-- A location of another scheme with an authority lies elsewhere. -/
theorem resolve_of_remote
    {text : List Char}
    (hfile : fileScheme.isPrefixOf text = false)
    (h : containsToken authorityMark text = true) :
    resolve text = .error (.unsupportedLocation text) := by
  simp [resolve, path?, hfile, h]

end Refused

section File

/-- Behind its scheme, a file URL is taken apart as one. -/
theorem path?_of_file
    (rest : List Char) :
    path? (fileScheme ++ rest) = (FileUrl.parse? rest).bind FileUrl.path? := by
  simp [path?, fileScheme, classpathScheme, List.isPrefixOf]

end File

section Plain

/-- A path is taken as it stands. -/
theorem resolve_of_plain
    {text : List Char}
    (hne : text ≠ [])
    (hclasspath : classpathScheme.isPrefixOf text = false)
    (hfile : fileScheme.isPrefixOf text = false)
    (h : containsToken authorityMark text = false) :
    resolve text = .ok ⟨Utf8.encode text⟩ := by
  simp [resolve, path?, hne, hclasspath, hfile, h]

end Plain

end Location

end XmlPreamble

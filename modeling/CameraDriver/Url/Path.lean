/-
Reading paths: a text is cut into segments, and the segments `.` and `..` are
resolved. A drive, which is a letter with a colon or a bar, is not left by
`..`. Where a path of a file begins with a drive, its bar becomes a colon, and
empty segments at its beginning are dropped.
-/
import CameraDriver.Url.Address
import CameraDriver.Url.Basic
import CameraDriver.Url.Percent

namespace CameraDriver.Url

-- ============================================================== segments

/-- A slash, or a backslash, which files and the web treat alike. -/
def isSlash (c : Char) : Bool := c == '/' || c == '\\'

/-- The segment `.`, with the point encoded or not. -/
def isDot (cs : List Char) : Bool := String.ofList (cs.map Char.toLower) ∈ [".", "%2e"]

/-- The segment `..`, with the points encoded or not. -/
def isDoubleDot (cs : List Char) : Bool :=
  String.ofList (cs.map Char.toLower) ∈ ["..", ".%2e", "%2e.", "%2e%2e"]

/-- An ASCII letter. -/
def isLetter (c : Char) : Bool := ('a' ≤ c && c ≤ 'z') || ('A' ≤ c && c ≤ 'Z')

/-- A drive letter and a colon or a bar. -/
def isDrive : List Char → Bool
  | [letter, mark] => isLetter letter && (mark == ':' || mark == '|')
  | _ => false

/-- A drive with a colon, whichever mark it had. -/
def normalDrive (drive : List Char) : List Char := drive.take 1 ++ [':']

-- ================================================================== path

/-- A path without its last segment; a drive stays. The segments are in
reverse. -/
def shorten : List (List Char) → List (List Char)
  | [] => []
  | last :: rest => if isDrive last then last :: rest else rest

/-- Adds segments to a path, resolving dot segments. The path is in reverse;
`drives` says that it is the path of a file. -/
def addSegments (drives : Bool) (path : List (List Char)) :
    List (List Char) → List (List Char)
  | [] => path
  | segment :: rest =>
      let encoded := percentEncode .path segment
      let path :=
        if isDoubleDot encoded then
          if rest.isEmpty then [] :: shorten path else shorten path
        else if isDot encoded then
          if rest.isEmpty then [] :: path else path
        else if drives && path.isEmpty && isDrive encoded then [normalDrive encoded]
        else encoded :: path
      addSegments drives path rest

/-- The segments that a text gives, behind the slash at its front if it has
one. -/
def segmentsOf (kind : SchemeKind) (cs : List Char) : List (List Char) :=
  let slash := if kind = .other then fun c => c == '/' else isSlash
  let cs := match cs with
    | c :: rest => if slash c then rest else c :: rest
    | [] => []
  (addSegments (kind = .file) [] (splitOn slash cs)).reverse

/-- The path begins with a drive. -/
def startsAtDrive (segments : List (List Char)) : Bool :=
  match segments with
  | first :: _ => isDrive first
  | [] => false

/-- A path of a file without empty segments at its beginning. -/
def dropEmpty (segments : List (List Char)) : List (List Char) :=
  match segments.dropWhile List.isEmpty with
  | [] => [[]]
  | kept => kept

end CameraDriver.Url

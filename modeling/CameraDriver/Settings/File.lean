/-
Settings from a file. The ending of the file's name says how it is written;
the text is read as one table, whose members are the assignments. A document
that is no table assigns nothing.
-/
import CameraDriver.Json.Reader
import CameraDriver.Settings.Layer
import CameraDriver.Toml.Document
import CameraDriver.Yaml.Document

namespace CameraDriver.Settings

/-- How a settings file is written. -/
inductive Format where
  | toml
  | json
  | yaml
deriving DecidableEq, Repr

/-- The format of an ending. -/
def Format.ofExtension? : String → Option Format
  | "toml" => some .toml
  | "json" => some .json
  | "yaml" => some .yaml
  | "yml" => some .yaml
  | _ => none

/-- The value that a text in a format holds, or the wording of its fault. -/
def Format.read (text : String) : Format → Except String Json
  | .toml => Toml.parse text
  | .json => (Json.parse (Text.Utf8.encode text)).mapError (·.message)
  | .yaml => Yaml.parse text

/-- A file, by its name relative to the working directory, and its bytes. -/
structure File where
  name : String
  bytes : Bytes
deriving Repr

/-- What a path leads to. -/
inductive Place where
  | nothing
  | file (bytes : Bytes)
  | directory
deriving Repr

namespace File

-- ================================================================== paths

/-- The steps of a path, which slashes separate. -/
def steps (path : String) : List String := (path.toList.splitOn '/').map String.ofList

/-- The parts of a path that lead somewhere. -/
def parts (path : String) : List String :=
  (steps path).filter fun part => part ≠ "" && part ≠ "."

/-- The last part of a path. -/
def baseName (path : String) : String := (parts path).getLast?.getD ""

/-- The ending of a path behind its last point; a point at the front of the
last part begins none. -/
def extension (path : String) : String :=
  let cs := (baseName path).toList
  let ending := (cs.reverse.takeWhile (· ≠ '.')).reverse
  if ending.length + 1 < cs.length then String.ofList ending else ""

/-- What stands at a path below the working directory, among files given by
their paths. A directory stands there if it holds one of them. -/
def standing (files : List (String × Bytes)) (below : List String) : Place :=
  match files.find? fun (name, _) => parts name = below with
  | some (_, bytes) => .file bytes
  | none =>
      if below.isEmpty || files.any fun (name, _) => below.isPrefixOf (parts name) then .directory
      else .nothing

/-- Follows the steps of a path. `above` counts the levels above the working
directory, where nothing but directories on the way up is known. -/
def follow (files : List (String × Bytes)) (above : Nat) (below : List String) :
    List String → Place
  | [] => if above = 0 then standing files below else .directory
  | step :: steps =>
      match if above = 0 then standing files below else .directory with
      | .directory =>
          if step = "." || step = "" then follow files above below steps
          else if step = ".." then
            if below.isEmpty then follow files (above + 1) [] steps
            else follow files above below.dropLast steps
          else if above = 0 then follow files 0 (below ++ [step]) steps
          else .nothing
      | _ => .nothing

/-- What a path leads to among some files. Of what lies outside the working
directory only the directories above it are known. -/
def place (files : List (String × Bytes)) (path : String) : Place :=
  if path = "" then .nothing
  else follow files (if path.startsWith "/" then 1 else 0) [] (steps path)

/-- The file beside a directory whose name is that of the directory with one
of the known endings. -/
def beside? (files : List (String × Bytes)) (path : String) : Option File :=
  if (parts path).isEmpty || baseName path = ".." then none
  else ["toml", "json", "yaml", "yml"].findSome? fun ending =>
    let name := "/".intercalate (parts path) ++ "." ++ ending
    match place files name with
    | .file bytes => some ⟨name, bytes⟩
    | _ => none

/-- The file that a path leads to, if there is one. A directory leads to the
file beside it. -/
def find? (files : List (String × Bytes)) (path : String) : Except String (Option File) :=
  match place files path with
  | .nothing => .ok none
  | .file bytes => .ok (some ⟨path, bytes⟩)
  | .directory =>
      match beside? files path with
      | some f => .ok (some f)
      | none => .error ("configuration file \"" ++ path ++ "\" not found")

-- ================================================================ contents

/-- The name that messages show. -/
def shownName (f : File) : String := "/".intercalate (parts f.name)

/-- The assignments that a file makes, or the wording of its fault. -/
def layer (f : File) : Except String Layer :=
  match Format.ofExtension? (extension f.name), Text.Utf8.decode? f.bytes with
  | none, _ =>
      .error ("configuration file \"" ++ f.name ++ "\" is not of a registered file format")
  | some _, none => .error "stream did not contain valid UTF-8"
  | some format, some text => do
      let value ← (format.read text).mapError (· ++ " in " ++ f.shownName)
      return (Tree.ofJson (some (.file f.shownName)) value).members

end File

end CameraDriver.Settings

/-
Reading URLs.

Blanks and controls at the ends of the text are dropped, and tabs and line
ends anywhere in it. What is left must begin with a scheme. On the web any
number of slashes may stand before the host, which is required; elsewhere
exactly two do, and a host is not. Slashes and backslashes are alike in files
and on the web. Every part is percent-encoded where its characters need it.
-/
import CameraDriver.Text.Blank
import CameraDriver.Url.Domain
import CameraDriver.Url.Path

namespace CameraDriver.Url

open Number

/-- Why a text is not a URL. -/
inductive Fault where
  /-- It does not begin with a scheme. -/
  | relative
  | emptyHost
  | invalidPort
  | invalidIpv4
  | invalidIpv6
  /-- A host name without an ASCII form. -/
  | invalidName
  /-- A host of an unknown scheme holds a character that no host may hold. -/
  | invalidHostCharacter
deriving DecidableEq, Repr

/-- The wording of a fault. -/
def Fault.message : Fault → String
  | .relative => "relative URL without a base"
  | .emptyHost => "empty host"
  | .invalidPort => "invalid port number"
  | .invalidIpv4 => "invalid IPv4 address"
  | .invalidIpv6 => "invalid IPv6 address"
  | .invalidName => "invalid international domain name"
  | .invalidHostCharacter => "invalid domain character"

-- ============================================================ characters

/-- The text without blanks and controls at its ends, and without tabs and
line ends. -/
def clean (cs : List Char) : List Char :=
  (Text.stripChars (fun c => c.toNat ≤ 32) cs).filter fun c => c ≠ '\t' && c ≠ '\n' && c ≠ '\r'

/-- The end of the authority. -/
def endsAuthority (kind : SchemeKind) (c : Char) : Bool :=
  c == '/' || c == '?' || c == '#' || (kind ≠ .other && c == '\\')

/-- Cuts a text behind its longest front whose characters have a property. -/
def cutWhile (p : Char → Bool) (cs : List Char) : List Char × List Char :=
  (cs.takeWhile p, cs.dropWhile p)

-- ================================================================ scheme

/-- A scheme in lower case, and what follows its colon. -/
def cutScheme : List Char → Option (List Char × List Char)
  | [] => none
  | first :: rest =>
      if !isLetter first then none
      else
        match cutWhile (fun c => isLetter c || isDigit c || "+-.".toList.contains c) rest with
        | (name, ':' :: after) => some ((first :: name).map Char.toLower, after)
        | _ => none

-- ============================================================= authority

/-- Cuts the host off before the colon of a port; a colon in brackets
belongs to the host. -/
def cutHost : (bracketed : Bool) → List Char → List Char × List Char
  | _, [] => ([], [])
  | bracketed, c :: rest =>
      if c = ':' ∧ !bracketed then ([], c :: rest)
      else
        let bracketed := if c = '[' then true else if c = ']' then false else bracketed
        let (host, after) := cutHost bracketed rest
        (c :: host, after)

/-- An address in brackets. -/
def bracketed (cs : List Char) : Except Fault Host :=
  if cs.getLast? = some ']' then
    match ipv6? cs.dropLast with
    | some groups => .ok (.ipv6 groups)
    | none => .error .invalidIpv6
  else .error .invalidIpv6

/-- The host that a text gives on the web or in a file. -/
def webHost (cs : List Char) : Except Fault Host :=
  match cs with
  | '[' :: rest => bracketed rest
  | _ =>
      match Domain.toAscii? (percentDecode cs) with
      | none => .error .invalidName
      | some [] => .error .emptyHost
      | some name =>
          if endsInNumber name then
            match ipv4? name with
            | some address => .ok (.ipv4 address)
            | none => .error .invalidIpv4
          else .ok (.name name)

/-- Whether no host may hold a character, wherever it is. -/
def isForbiddenInHost (c : Char) : Bool :=
  c.toNat = 0 || "\t\n\r #/:<>?@[\\]^|".toList.contains c

/-- The host that a text gives anywhere else. -/
def otherHost (cs : List Char) : Except Fault Host :=
  match cs with
  | '[' :: rest => bracketed rest
  | _ =>
      if cs.any isForbiddenInHost then .error .invalidHostCharacter
      else .ok (.name (percentEncode .control cs))

/-- The number of a port, if it has digits, and the text behind it. -/
def portOf (cs : List Char) : Except Fault (Option Nat × List Char) :=
  let (digits, rest) := cutWhile isDigit cs
  if 65535 < digitsValue digits then .error .invalidPort
  else if rest.isEmpty || rest.head? = some '\\' then
    .ok (if digits.isEmpty then none else some (digitsValue digits), rest)
  else .error .invalidPort

/-- The part before the last at sign, if there is one, and the part after
it. -/
def cutUserinfo (authority : List Char) : Option (List Char) × List Char :=
  let after := (authority.reverse.takeWhile (· ≠ '@')).reverse
  if after.length = authority.length then (none, authority)
  else (some (authority.take (authority.length - after.length - 1)), after)

/-- User name and password: the first colon stands between them. -/
def credentialsOf (cs : List Char) : List Char × List Char :=
  let name := cs.takeWhile (· ≠ ':')
  (percentEncode .userinfo name, percentEncode .userinfo (cs.drop (name.length + 1)))

/-- The authority behind two slashes, and the text behind it. -/
def authorityOf (kind : SchemeKind) (cs : List Char) : Except Fault (Authority × List Char) := do
  let (text, after) := cutWhile (fun c => !endsAuthority kind c) cs
  let (userinfo, hostAndPort) := cutUserinfo text
  if userinfo = some [] ∧ hostAndPort.isEmpty ∧ !after.isEmpty then throw .emptyHost
  let (hostText, portText) := cutHost false hostAndPort
  if hostText.isEmpty ∧ (kind ≠ .other ∨ !portText.isEmpty) then throw .emptyHost
  let host ← if kind = .other then otherHost hostText else webHost hostText
  let (port, rest) ← portOf (portText.drop 1)
  let (username, password) := credentialsOf (userinfo.getD [])
  if hostText.isEmpty ∧ !(username.isEmpty && password.isEmpty) then throw .emptyHost
  let own := match kind with
    | .web port => some port
    | _ => none
  return ({ username, password, host, port := port.filter (some · ≠ own) }, rest ++ after)

-- ================================================================= place

/-- Where a URL leads, and its query and fragment, which are still to be
read. -/
structure Place where
  authority : Option Authority
  path : Path
  tail : List Char

/-- Cuts a path off before a query or a fragment. -/
def cutPath (cs : List Char) : List Char × List Char := cutWhile (fun c => c ≠ '?' && c ≠ '#') cs

/-- The place on the web: any slashes, an authority and a path. -/
def webPlace (kind : SchemeKind) (cs : List Char) : Except Fault Place := do
  let (authority, rest) ← authorityOf kind (cs.dropWhile isSlash)
  let (path, tail) := cutPath rest
  return { authority, path := .segments (segmentsOf kind path), tail }

/-- The host of a file, and the text behind it. Two slashes stand before it;
a drive is none, and `localhost` need not be named. -/
def fileHost (cs : List Char) : Except Fault (Host × List Char) :=
  match cs with
  | a :: b :: rest =>
      let (text, after) := cutWhile (fun c => !endsAuthority .file c) rest
      if !(isSlash a && isSlash b) then .ok (.name [], cs)
      else if isDrive text then .ok (.name [], rest)
      else if text.isEmpty then .ok (.name [], after)
      else do
        let host ← webHost text
        return (if host = .name "localhost".toList then .name [] else host, after)
  | _ => .ok (.name [], cs)

/-- The place of a file. A path that begins with a drive belongs to no host. -/
def filePlace (cs : List Char) : Except Fault Place := do
  let (host, rest) ← fileHost cs
  let (path, tail) := cutPath rest
  let segments := segmentsOf .file path
  return {
    authority := some { host := if startsAtDrive segments then .name [] else host }
    path := .segments (dropEmpty segments)
    tail }

/-- The place of any other URL. An authority stands behind two slashes; without
one, a path that no slash precedes has no segments. -/
def otherPlace (cs : List Char) : Except Fault Place := do
  match cs with
  | '/' :: '/' :: rest =>
      let (authority, rest) ← authorityOf .other rest
      let (path, tail) := cutPath rest
      let segments := if path.isEmpty then [] else segmentsOf .other path
      return { authority, path := .segments segments, tail }
  | _ =>
      let (path, tail) := cutPath cs
      let path :=
        if path.head? = some '/' then .segments (segmentsOf .other path)
        else .bare (percentEncode .control path)
      return { authority := none, path, tail }

-- =================================================================== URL

/-- Reads a URL. -/
def parse (text : String) : Except Fault Url :=
  match cutScheme (clean text.toList) with
  | none => .error .relative
  | some (scheme, rest) => do
      let kind := SchemeKind.ofScheme scheme
      let place ← match kind with
        | .web _ => webPlace kind rest
        | .file => filePlace rest
        | .other => otherPlace rest
      let (query, fragment) := cutWhile (· ≠ '#') place.tail
      let encodeQuery := percentEncode (if kind = .other then .query else .webQuery)
      return {
        scheme
        authority := place.authority
        path := place.path
        query := query.tail?.map encodeQuery
        fragment := fragment.tail?.map (percentEncode .fragment) }

end CameraDriver.Url

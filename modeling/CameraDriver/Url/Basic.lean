/-
Absolute URLs: the parts of one, each in its encoded form, and the text that
the parts make up.

# The scheme

The scheme decides how the rest is read. The schemes of the web need a host
and have a port of their own; files may have a host, but no port and no user;
any other URL may do without all of these, and then its path need not be one
of segments.

# The host

A host is a name, an IPv4 address or an IPv6 address. The text of an IPv6
address is in brackets, with its longest run of two or more zero groups (the
first of them, if several are longest) written as `::`.
-/
import CameraDriver.Number.Layout
import CameraDriver.Text.Hex

namespace CameraDriver

open Number

namespace Url

/-- What the scheme of a URL decides. -/
inductive SchemeKind where
  /-- A scheme of the web, with its own port. -/
  | web (port : Nat)
  | file
  | other
deriving DecidableEq, Repr

/-- The kind of a scheme, which is in lower case. -/
def SchemeKind.ofScheme (scheme : List Char) : SchemeKind :=
  match String.ofList scheme with
  | "http" | "ws" => .web 80
  | "https" | "wss" => .web 443
  | "ftp" => .web 21
  | "file" => .file
  | _ => .other

/-- The host of a URL. -/
inductive Host where
  /-- A name: in lower case and in ASCII, unless the scheme is of another
  kind. It may be empty, except on the web. -/
  | name (text : List Char)
  /-- An IPv4 address, as one number of 32 bits. -/
  | ipv4 (address : Nat)
  /-- An IPv6 address, as eight groups of 16 bits. -/
  | ipv6 (groups : List Nat)
deriving DecidableEq, Repr

/-- Who is asked: the part of a URL behind two slashes. -/
structure Authority where
  username : List Char := []
  password : List Char := []
  host : Host
  /-- The port, unless it is the scheme's own. -/
  port : Option Nat := none
deriving DecidableEq, Repr

/-- What is asked for. -/
inductive Path where
  /-- Segments; each is preceded by a slash. -/
  | segments (list : List (List Char))
  /-- A text without segments, which no slash precedes. -/
  | bare (text : List Char)
deriving DecidableEq, Repr

end Url

/-- An absolute URL. -/
structure Url where
  /-- The name of the scheme, in lower case. -/
  scheme : List Char
  authority : Option Url.Authority
  path : Url.Path
  query : Option (List Char)
  fragment : Option (List Char)
deriving DecidableEq, Repr

namespace Url

-- ============================================================== the host

/-- The four octets of an IPv4 address, with points between them. -/
def ipv4Text (address : Nat) : List Char :=
  digitsOf (address / 16777216) ++ '.' :: digitsOf (address / 65536 % 256)
    ++ '.' :: digitsOf (address / 256 % 256) ++ '.' :: digitsOf (address % 256)

/-- How many zero groups stand at the front. -/
def zeroRun (groups : List Nat) : Nat := (groups.takeWhile (· = 0)).length

/-- Where the longest run of zero groups starts and how long it is; of
several longest the first. -/
def longestZeroRun : (start : Nat) → List Nat → Nat × Nat
  | start, [] => (start, 0)
  | start, g :: rest =>
      let here := zeroRun (g :: rest)
      let later := longestZeroRun (start + 1) rest
      if later.2 ≤ here then (start, here) else later

/-- Groups in hexadecimal, with colons between them. -/
def groupsText : List Nat → List Char
  | [] => []
  | [g] => Text.Hex.digits g
  | g :: rest => Text.Hex.digits g ++ ':' :: groupsText rest

/-- The text of an IPv6 address, without brackets. -/
def ipv6Text (groups : List Nat) : List Char :=
  let (start, length) := longestZeroRun 0 groups
  if length < 2 then groupsText groups
  else groupsText (groups.take start) ++ [':', ':'] ++ groupsText (groups.drop (start + length))

/-- The text of a host. -/
def Host.chars : Host → List Char
  | .name text => text
  | .ipv4 address => ipv4Text address
  | .ipv6 groups => '[' :: ipv6Text groups ++ [']']

-- ============================================================== the text

/-- A part behind its mark, if there is one. -/
def marked (mark : Char) : Option (List Char) → List Char
  | some part => mark :: part
  | none => []

/-- User name and password before the host. -/
def Authority.credentials (a : Authority) : List Char :=
  if a.username.isEmpty && a.password.isEmpty then []
  else a.username ++ (if a.password.isEmpty then [] else ':' :: a.password) ++ ['@']

/-- The text of an authority, without the slashes. -/
def Authority.chars (a : Authority) : List Char :=
  a.credentials ++ a.host.chars ++ marked ':' (a.port.map digitsOf)

/-- The text of a path. -/
def Path.chars : Path → List Char
  | .segments list => list.flatMap ('/' :: ·)
  | .bare text => text

/-- The authority and the path. Behind no authority, a path that begins with
two slashes is kept from looking like one. -/
def placeChars (u : Url) : List Char :=
  match u.authority, u.path with
  | some a, path => '/' :: '/' :: a.chars ++ path.chars
  | none, .segments ([] :: next :: rest) =>
      '/' :: '.' :: (Path.segments ([] :: next :: rest)).chars
  | none, path => path.chars

/-- The characters of a URL. -/
def chars (u : Url) : List Char :=
  u.scheme ++ ':' :: u.placeChars ++ marked '?' u.query ++ marked '#' u.fragment

/-- The text of a URL. -/
def text (u : Url) : String := String.ofList u.chars

-- ============================================================ the scheme

/-- A URL that is fetched without encryption. -/
def isHttp (u : Url) : Bool := u.scheme == "http".toList

/-- A URL that is fetched with encryption. -/
def isHttps (u : Url) : Bool := u.scheme == "https".toList

end Url

end CameraDriver

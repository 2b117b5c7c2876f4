import MockKeeper.Text.Utf8

/-! Request targets and URLs. A URI is read as an absolute path, an authority, an
asterisk, or a scheme with an authority and a path; a fragment is dropped.

This is the grammar of the `http` library that hyper 1.5 uses, with its limits of 65534 bytes
for a URI and 64 for a scheme. It takes more than the standards do, and where they differ the
library is followed. -/

namespace MockKeeper

inductive UriError
  | invalidCharacter
  | invalidAuthority
  | invalidFormat
  | tooLong
  | schemeTooLong
  | empty
deriving DecidableEq, Repr

namespace UriError

def message : UriError → String
  | .invalidCharacter => "invalid uri character"
  | .invalidAuthority => "invalid authority"
  | .invalidFormat => "invalid format"
  | .tooLong => "uri too long"
  | .schemeTooLong => "scheme too long"
  | .empty => "empty string"

end UriError

def ascii (text : String) : Bytes := text.toList.map fun c => UInt8.ofNat c.toNat

structure PathAndQuery where
  path : Bytes
  query : Option Bytes
deriving DecidableEq, Repr

/-- A URI in its parts. Without a scheme there is an authority or a path, not both. -/
structure Uri where
  scheme : Option Bytes
  authority : Bytes
  pathAndQuery : PathAndQuery
deriving DecidableEq, Repr

namespace PathAndQuery

def none : PathAndQuery := ⟨[], .none⟩

/-- A byte that may stand in a path. Some that ought to be escaped are let through. -/
def isPathByte (byte : UInt8) : Bool :=
  byte == 0x21 || byte == 0x22 || (0x24 ≤ byte && byte ≤ 0x3B) || byte == 0x3D ||
    (0x40 ≤ byte && byte ≤ 0x5F) || (0x61 ≤ byte && byte ≤ 0x7E) || 0x80 ≤ byte

def isQueryByte (byte : UInt8) : Bool :=
  byte == 0x21 || (0x24 ≤ byte && byte ≤ 0x3B) || byte == 0x3D || (0x3F ≤ byte && byte ≤ 0x7E) ||
    0x80 ≤ byte

def withoutFragment (bytes : Bytes) : Bytes := bytes.takeWhile (· != 0x23)

/-- Reads a path, a query and a fragment. Bytes beyond ASCII have to be UTF-8. -/
def ofBytes (bytes : Bytes) : Except UriError PathAndQuery :=
  let kept := withoutFragment bytes
  let path := kept.takeWhile (· != 0x3F)
  let rest := kept.dropWhile (· != 0x3F)
  if !path.all isPathByte || !(rest.drop 1).all isQueryByte then .error .invalidCharacter
  else if (kept.any (0x80 ≤ ·)) && (Utf8.decode? kept).isNone then .error .invalidCharacter
  else .ok ⟨path, rest.head?.map fun _ => rest.drop 1⟩

/-- Path and query as one text; an empty one stands for the root. -/
def text (target : PathAndQuery) : Bytes :=
  let written := target.path ++ (match target.query with
    | some query => 0x3F :: query
    | .none => [])
  if written.isEmpty then [0x2F] else written

end PathAndQuery

namespace Uri

def maxLength : Nat := 65534

def maxSchemeLength : Nat := 64

def isSchemeByte (byte : UInt8) : Bool :=
  (0x30 ≤ byte && byte ≤ 0x39) || (0x41 ≤ byte && byte ≤ 0x5A) || (0x61 ≤ byte && byte ≤ 0x7A) ||
    byte == 0x2B || byte == 0x2D || byte == 0x2E

def isAuthorityByte (byte : UInt8) : Bool :=
  byte == 0x21 || byte == 0x23 || byte == 0x24 || (0x26 ≤ byte && byte ≤ 0x3B) || byte == 0x3D ||
    byte == 0x3F || (0x40 ≤ byte && byte ≤ 0x5B) || byte == 0x5D || byte == 0x5F ||
    (0x61 ≤ byte && byte ≤ 0x7A) || byte == 0x7E

def endsAuthority (byte : UInt8) : Bool := byte == 0x2F || byte == 0x3F || byte == 0x23

structure AuthorityScan where
  colons : Nat := 0
  opened : Bool := false
  closed : Bool := false
  percent : Bool := false
  endsWithAt : Bool := false

/-- More colons than this cannot belong to an address in brackets. -/
def maxColons : Nat := 8

/-- Reads one byte of an authority. User information and a bracketed address may
hold colons and percent signs, so these are forgotten where one ends. -/
def AuthorityScan.step (scan : AuthorityScan) (byte : UInt8) : Except UriError AuthorityScan :=
  let scan' := { scan with endsWithAt := byte == 0x40 }
  if byte == 0x3A then
    if maxColons ≤ scan.colons then .error .invalidAuthority
    else .ok { scan' with colons := scan.colons + 1 }
  else if byte == 0x5B then
    if scan.percent || scan.opened then .error .invalidAuthority
    else .ok { scan' with opened := true }
  else if byte == 0x5D then
    if !scan.opened || scan.closed then .error .invalidAuthority
    else .ok { scan' with closed := true, colons := 0, percent := false }
  else if byte == 0x40 then .ok { scan' with colons := 0, percent := false }
  else if byte == 0x25 then .ok { scan' with percent := true }
  else if isAuthorityByte byte then .ok scan'
  else .error .invalidCharacter

def AuthorityScan.finish (scan : AuthorityScan) : Except UriError Unit :=
  if scan.opened != scan.closed || 1 < scan.colons || scan.endsWithAt || scan.percent then
    .error .invalidAuthority
  else .ok ()

/-- The authority at the front, which may be empty, and what follows it. -/
def splitAuthority (bytes : Bytes) : Except UriError (Bytes × Bytes) := do
  let authority := bytes.takeWhile fun byte => !endsAuthority byte
  let scan ← authority.foldlM AuthorityScan.step {}
  scan.finish
  .ok (authority, bytes.dropWhile fun byte => !endsAuthority byte)

def lowerByte (byte : UInt8) : UInt8 := if 0x41 ≤ byte && byte ≤ 0x5A then byte + 0x20 else byte

/-- The scheme at the front and what follows the two slashes. The two schemes of
the web are known in any case; another one keeps its case. -/
def splitScheme (bytes : Bytes) : Except UriError (Option (Bytes × Bytes)) :=
  let opening := (bytes.take 8).map lowerByte
  if opening.take 7 == ascii "http://" then .ok (some (ascii "http", bytes.drop 7))
  else if opening == ascii "https://" then .ok (some (ascii "https", bytes.drop 8))
  else
    let scheme := bytes.takeWhile isSchemeByte
    let rest := bytes.drop scheme.length
    if 3 < bytes.length && rest.take 3 == ascii "://" then
      if maxSchemeLength < scheme.length then .error .schemeTooLong
      else .ok (some (scheme, rest.drop 3))
    else .ok none

def ofFull (bytes : Bytes) : Except UriError Uri := do
  match ← splitScheme bytes with
  | none =>
    let (authority, rest) ← splitAuthority bytes
    if rest.isEmpty then .ok ⟨none, authority, .none⟩ else .error .invalidFormat
  | some (scheme, after) =>
    let (authority, rest) ← splitAuthority after
    if authority.isEmpty then .error .invalidFormat
    else .ok ⟨some scheme, authority, ← PathAndQuery.ofBytes rest⟩

def ofBytes (bytes : Bytes) : Except UriError Uri :=
  if maxLength < bytes.length then .error .tooLong
  else
    match bytes with
    | [] => .error .empty
    | [0x2A] => .ok ⟨none, [], ⟨[0x2A], none⟩⟩
    | [byte] =>
      if byte == 0x2F then .ok ⟨none, [], ⟨[0x2F], none⟩⟩
      else do
        let (authority, rest) ← splitAuthority [byte]
        if rest.isEmpty then .ok ⟨none, authority, .none⟩ else .error .invalidCharacter
    | byte :: _ =>
      if byte == 0x2F then do .ok ⟨none, [], ← PathAndQuery.ofBytes bytes⟩
      else ofFull bytes

/-- Whether the URI has a path: an authority alone has none. -/
def hasPath (uri : Uri) : Bool := uri.scheme.isSome || uri.authority.isEmpty

/-- Path and query as text, unless the URI is an authority alone. -/
def pathAndQuery? (uri : Uri) : Option Bytes :=
  if uri.hasPath then some uri.pathAndQuery.text else none

/-- The path; that of a URI with a scheme is at least a slash. -/
def path (uri : Uri) : Bytes :=
  if !uri.hasPath then []
  else if uri.pathAndQuery.path.isEmpty then [0x2F]
  else uri.pathAndQuery.path

def query (uri : Uri) : Option Bytes := uri.pathAndQuery.query

/-- The host: the authority without user information and port. -/
def host (uri : Uri) : Bytes :=
  let after := ((uri.authority.reverse).takeWhile (· != 0x40)).reverse
  if after.head? == some 0x5B then after.takeWhile (· != 0x5D) ++ [0x5D]
  else after.takeWhile (· != 0x3A)

/-- A decimal number of sixteen bits, a plus sign allowed. -/
def portNumber? (digits : Bytes) : Option Nat :=
  let plain := if digits.head? == some 0x2B then digits.drop 1 else digits
  if plain.isEmpty || !plain.all (fun byte => 0x30 ≤ byte && byte ≤ 0x39) then none
  else
    let value := plain.foldl (fun total byte => total * 10 + (byte.toNat - 0x30)) 0
    if value ≤ 65535 then some value else none

def port (uri : Uri) : Option Nat :=
  if uri.authority.contains 0x3A then
    portNumber? ((uri.authority.reverse).takeWhile (· != 0x3A)).reverse
  else none

def render (uri : Uri) : Bytes :=
  (match uri.scheme with
    | some scheme => scheme ++ ascii "://"
    | none => []) ++ uri.authority ++ uri.path ++
  (match uri.query with
    | some query => 0x3F :: query
    | none => [])

end Uri

end MockKeeper

import MockKeeper.Http.Uri
import MockKeeper.Proxy.Error

/-! Where a client's request goes: the base URL of the upstream with the path and
query of the request behind it, one slash between them. -/

namespace MockKeeper.Proxy

def dropTrailingSlashes (bytes : Bytes) : Bytes :=
  (bytes.reverse.dropWhile (· == 0x2F)).reverse

def dropLeadingSlashes (bytes : Bytes) : Bytes := bytes.dropWhile (· == 0x2F)

/-- The path and query a request asks for; an authority alone asks for the root. -/
def requestTarget (uri : Uri) : Bytes := uri.pathAndQuery?.getD [0x2F]

def joinedText (base : Bytes) (uri : Uri) : Bytes :=
  dropTrailingSlashes base ++ 0x2F :: dropLeadingSlashes (requestTarget uri)

def refusal? (uri : Uri) : Option String :=
  match uri.scheme with
  | none => some "missing scheme"
  | some scheme =>
    if scheme != ascii "http" && scheme != ascii "https" then
      some ("unsupported scheme '" ++ Utf8.lossy scheme ++ "'")
    else if uri.authority.isEmpty then some "missing host"
    else none

def joinUri (base : String) (uri : Uri) : Except Failure Uri :=
  let invalid (reason : String) : Failure :=
    .upstreamUri base (Utf8.lossy (requestTarget uri)) reason
  match Uri.ofBytes (joinedText (Utf8.encode base) uri) with
  | .error error => .error (invalid error.message)
  | .ok joined =>
    match refusal? joined with
    | some reason => .error (invalid reason)
    | none => .ok joined

end MockKeeper.Proxy

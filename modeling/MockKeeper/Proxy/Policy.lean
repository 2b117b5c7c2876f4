import MockKeeper.Http.Header

/-! Which headers cross the proxy, and which are kept in a recording. The two
lists are apart on purpose: caching headers do cross, but mean nothing once an
exchange has been captured. -/

namespace MockKeeper.Proxy

/-- Names that are never forwarded: those that concern one connection only, and the
one that would let the engine compress a body nobody here can read. -/
def hopByHopNames : List HeaderName :=
  ["accept-encoding", "connection", "keep-alive", "proxy-authenticate", "proxy-authorization",
    "te", "trailers", "transfer-encoding", "upgrade"].map HeaderName.mk

/-- Names of caching headers, which are left out of recordings. -/
def unrecordableNames : List HeaderName :=
  ["accept-ranges", "age", "cache-control", "content-length", "date", "etag", "expires",
    "last-modified", "server", "vary"].map HeaderName.mk

/-- The name of the header that the outbound client sets by itself. -/
def hostName : HeaderName := ⟨"host"⟩

inductive Direction
  | clientToUpstream
  | upstreamToClient
deriving DecidableEq, Repr

def isHopByHop (name : HeaderName) : Bool := hopByHopNames.contains name

def isUnrecordable (name : HeaderName) : Bool := unrecordableNames.contains name

def forwards (direction : Direction) (name : HeaderName) : Bool :=
  !isHopByHop name && !(direction == .clientToUpstream && name == hostName)

def records (name : HeaderName) : Bool := !isHopByHop name && !isUnrecordable name

/-- Adds every header of a map that crosses the proxy to another map. -/
def filterInto (direction : Direction) (source destination : HeaderMap) : HeaderMap :=
  destination.appendAll (source.toList.filter fun pair => forwards direction pair.1)

/-- The headers of a captured exchange that are worth keeping. -/
def recordable (source : HeaderMap) : HeaderMap :=
  HeaderMap.empty.appendAll (source.toList.filter fun pair => records pair.1)

end MockKeeper.Proxy

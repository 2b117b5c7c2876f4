import MockKeeper.Proxy.Exchange
import MockKeeper.Proxy.Join

/-! One request through the proxy: it is read, sent on, answered, shown to the observer
and only then answered to the client. Whatever goes wrong, the client gets a response. -/

namespace MockKeeper.Proxy

/-- A client's request. Its body may turn out to be unreadable. -/
structure ClientRequest where
  method : Method
  uri : Uri
  headers : HeaderMap
  body : Except String Bytes

structure UpstreamRequest where
  method : Method
  uri : Uri
  headers : HeaderMap
  body : Bytes

/-- What comes of a request sent on: nothing, or a response whose body may break off. -/
inductive UpstreamReply
  | failed (reason : String)
  | answered (status : Status) (headers : HeaderMap) (body : Except String Bytes)

/-- How an upstream behaves: what it replies, and how long that takes in all. -/
abbrev Upstream := UpstreamRequest → UpstreamReply × Elapsed

inductive Deed
  | sent (request : UpstreamRequest)
  | observed (exchange : Exchange)
  | replied (response : Response)

structure Handled where
  deeds : List Deed
  log : Log

namespace Handled

def response? (handled : Handled) : Option Response :=
  handled.deeds.findSome? fun deed =>
    match deed with
    | .replied response => some response
    | _ => none

def sent (handled : Handled) : List UpstreamRequest :=
  handled.deeds.filterMap fun deed =>
    match deed with
    | .sent request => some request
    | _ => none

def observed (handled : Handled) : List Exchange :=
  handled.deeds.filterMap fun deed =>
    match deed with
    | .observed exchange => some exchange
    | _ => none

end Handled

def upstreamRequest (base : String) (request : ClientRequest) : Except Failure UpstreamRequest :=
  match request.body with
  | .error reason => .error (.requestBody reason)
  | .ok body =>
    match joinUri base request.uri with
    | .error failure => .error failure
    | .ok uri =>
      .ok { method := request.method, uri, body
            headers := filterInto .clientToUpstream request.headers .empty }

/-- The exchange that a reply completes, if it comes in time and whole. -/
def exchange (request : ClientRequest) (sent : UpstreamRequest) (limit : Option Elapsed)
    (reply : UpstreamReply × Elapsed) : Except Failure Exchange :=
  match limit.filter fun limit => limit.nanoseconds < reply.2.nanoseconds with
  | some limit => .error (.timeout limit)
  | none =>
    match reply.1 with
    | .failed reason => .error (.upstream reason)
    | .answered _ _ (.error reason) => .error (.responseBody reason)
    | .answered status headers (.ok body) =>
      .ok { method := request.method
            path := Utf8.lossy request.uri.path
            requestHeaders := request.headers
            requestBody := sent.body
            status
            responseHeaders := headers
            responseBody := body
            latency := reply.2 }

/-- The client's response to a completed exchange, if it can be put together. -/
def clientResponse (exchange : Exchange) : Except Failure Response :=
  let builder := ({} : ResponseBuilder).setStatus (.ok exchange.status)
  let builder := builder.changeHeaders (filterInto .upstreamToClient exchange.responseHeaders)
  (builder.finish exchange.responseBody).mapError .response

def title (request : ClientRequest) : String :=
  request.method.text ++ " " ++ Utf8.lossy request.uri.render

def refuse (request : ClientRequest) (before : List Deed) (failure : Failure) : Handled :=
  { deeds := before ++ [.replied (errorResponse failure.status failure.message)]
    log := [.error (title request ++ ": " ++ failure.message)] }

def handle (upstream : Upstream) (base : String) (limit : Option Elapsed) (request : ClientRequest) :
    Handled :=
  match upstreamRequest base request with
  | .error failure => refuse request [] failure
  | .ok sent =>
    let reply := upstream sent
    match exchange request sent limit reply with
    | .error failure => refuse request [.sent sent] failure
    | .ok exchange =>
      match clientResponse exchange with
      | .error failure => refuse request [.sent sent, .observed exchange] failure
      | .ok response =>
        { deeds := [.sent sent, .observed exchange, .replied response]
          log := [.info (s!"proxied {title request} to upstream [status: {exchange.status.code}, " ++
            s!"body {exchange.responseBody.length} bytes] in {reply.2.render}")] }

end MockKeeper.Proxy

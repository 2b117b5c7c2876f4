import MockKeeper.Http.Message
import MockKeeper.Text.Elapsed
import MockKeeper.Text.JsonString

/-! What can go wrong with one exchange, and the response the client gets for it. -/

namespace MockKeeper.Proxy

inductive Failure
  | requestBody (reason : String)
  | upstreamUri (base path reason : String)
  | upstream (reason : String)
  | timeout (limit : Elapsed)
  | responseBody (reason : String)
  | response (reason : String)
deriving DecidableEq, Repr

namespace Failure

def message : Failure → String
  | .requestBody reason => s!"error reading request body: {reason}"
  | .upstreamUri base path reason =>
    s!"failed to build upstream URL from '{base}' and '{path}': {reason}"
  | .upstream reason => s!"upstream request failed: {reason}"
  | .timeout limit => "upstream did not respond within " ++ limit.render
  | .responseBody reason => s!"error reading upstream response body: {reason}"
  | .response reason => s!"error writing response: {reason}"

def status : Failure → Status
  | .requestBody _ => .badRequest
  | .upstreamUri .. => .badGateway
  | .upstream _ => .badGateway
  | .timeout _ => .badGateway
  | .responseBody _ => .badGateway
  | .response _ => .internalServerError

end Failure

def jsonHeaders : HeaderMap :=
  HeaderMap.empty.append ⟨"content-type"⟩ ⟨Utf8.encode "application/json"⟩

def errorResponse (status : Status) (message : String) : Response :=
  { status, headers := jsonHeaders
    body := Utf8.encode ("\x7b\"error\":" ++ Text.jsonString message ++ "\x7d") }

end MockKeeper.Proxy

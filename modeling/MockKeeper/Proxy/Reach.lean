import MockKeeper.Os.Error
import MockKeeper.Proxy.Handle

/-! Reaching an upstream. The client of the proxy speaks plain HTTP only. -/

namespace MockKeeper.Proxy

inductive ReachFailure
  | notHttp
  | system (error : OsError)
deriving DecidableEq, Repr

namespace ReachFailure

def message : ReachFailure → String
  | .notHttp => "client error (Connect): invalid URL, scheme is not http"
  | .system error => "client error (Connect): tcp connect error: " ++ error.message

end ReachFailure

/-- What keeps a request from its upstream, in a network that may refuse connections. -/
def reachFailure? (refusal : Option OsError) (uri : Uri) : Option ReachFailure :=
  if uri.scheme != some (ascii "http") then some .notHttp else refusal.map .system

/-- An upstream behind a network that may refuse connections. -/
def behind (refusal : Option OsError) (upstream : Upstream) : Upstream := fun request =>
  match reachFailure? refusal request.uri with
  | some failure => (.failed failure.message, ⟨0⟩)
  | none => upstream request

end MockKeeper.Proxy

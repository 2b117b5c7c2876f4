import MockKeeper.Config.Pool

/-! Settings of the recording proxy. -/

namespace MockKeeper

structure ProxySettings where
  upstream : String
  port : Nat
  pool : PoolSettings := {}
deriving DecidableEq, Repr

inductive UpstreamError
  | malformed (upstream : String)
  | unsupported (scheme : String)
deriving DecidableEq, Repr

namespace UpstreamError

def message : UpstreamError → String
  | .malformed upstream => "Invalid upstream URL (expected scheme://host[:port]): " ++ upstream
  | .unsupported scheme =>
    s!"Unsupported upstream protocol '{scheme}'. Currently supported: http, https"

end UpstreamError

/-- The scheme of a URL and what follows it, taken apart at the first separator. -/
def splitScheme? : List Char → Option (List Char × List Char)
  | ':' :: '/' :: '/' :: rest => some ([], rest)
  | c :: rest => (splitScheme? rest).map fun (scheme, after) => (c :: scheme, after)
  | [] => none

namespace ProxySettings

/-- Whether the upstream can be used: a supported scheme, and something after it. -/
def validate (settings : ProxySettings) : Except UpstreamError Unit :=
  match splitScheme? settings.upstream.toList with
  | none | some (_, []) => .error (.malformed settings.upstream)
  | some (scheme, _ :: _) =>
    if scheme = "http".toList ∨ scheme = "https".toList then .ok ()
    else .error (.unsupported (String.ofList scheme))

structure Draft where
  upstream : Option String := none
  port : Option Nat := none
  pool : PoolSettings := {}

open Yaml.Decoder in
def decoder : Yaml.Decoder ProxySettings :=
  record "ProxyConfig" [
    field "upstream" (text "a string") fun draft upstream => { draft with upstream := some upstream },
    field "port" (natural (Nat.pow 2 16) "u16") fun draft port => { draft with port := some port },
    field "connection_pool" PoolSettings.decoder fun draft pool => { draft with pool }]
    ({} : Draft) fun draft =>
      match draft.upstream, draft.port with
      | none, _ => missing "upstream"
      | some _, none => missing "port"
      | some upstream, some port => .ok { upstream, port, pool := draft.pool }

end ProxySettings

end MockKeeper

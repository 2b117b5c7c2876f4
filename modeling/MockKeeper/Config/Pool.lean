import MockKeeper.Log
import MockKeeper.Yaml.Decode

/-! Settings of the proxy's connections to the engine. -/

namespace MockKeeper

structure PoolSettings where
  maxIdlePerHost : Nat := 10
  idleTimeoutSeconds : Nat := 30
  keepaliveSeconds : Nat := 60
  connectTimeoutSeconds : Nat := 5
  /-- The longest a proxied request may take; zero means there is no limit. -/
  requestTimeoutSeconds : Nat := 0
deriving DecidableEq, Repr

namespace PoolSettings

def requestTimeout? (pool : PoolSettings) : Option Nat :=
  if 0 < pool.requestTimeoutSeconds then some pool.requestTimeoutSeconds else none

open Yaml.Decoder in
/-- Reads the settings. What is not given keeps its default. -/
def decoder : Yaml.Decoder PoolSettings :=
  let word := natural (Nat.pow 2 64) "u64"
  record "ConnectionPoolConfig" [
    field "max_idle_per_host" (natural (Nat.pow 2 64) "usize") fun pool n => { pool with maxIdlePerHost := n },
    field "idle_timeout_secs" word fun pool n => { pool with idleTimeoutSeconds := n },
    field "keepalive_timeout_secs" word fun pool n => { pool with keepaliveSeconds := n },
    field "connect_timeout_secs" word fun pool n => { pool with connectTimeoutSeconds := n },
    field "request_timeout_secs" word fun pool n => { pool with requestTimeoutSeconds := n }]
    ({} : PoolSettings) .ok

def logLine (pool : PoolSettings) : LogLine :=
  let limit := match pool.requestTimeout? with
    | some seconds => s!"{seconds}s"
    | none => "none"
  .debug (s!"Connection pool configured: max_idle={pool.maxIdlePerHost}, " ++
    s!"idle_timeout={pool.idleTimeoutSeconds}s, keepalive={pool.keepaliveSeconds}s, " ++
    s!"request_timeout={limit}")

end PoolSettings

end MockKeeper

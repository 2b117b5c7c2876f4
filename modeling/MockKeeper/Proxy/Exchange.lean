import MockKeeper.Log
import MockKeeper.Proxy.Policy
import MockKeeper.Http.Message
import MockKeeper.Text.Elapsed

/-! A completed exchange, and what is logged of it. -/

namespace MockKeeper.Proxy

structure Exchange where
  method : Method
  path : String
  requestHeaders : HeaderMap
  requestBody : Bytes
  status : Status
  responseHeaders : HeaderMap
  responseBody : Bytes
  /-- Time spent waiting for the upstream. -/
  latency : Elapsed

namespace Exchange

def summary (exchange : Exchange) : LogLine :=
  .info (exchange.method.text ++ " " ++ exchange.path ++ " -> " ++ toString exchange.status.code ++
    " (" ++ toString exchange.responseBody.length ++ " bytes in " ++ exchange.latency.render ++ ")")

/-- The summary, and a line for each response header worth recording. -/
def logLines (exchange : Exchange) : Log :=
  exchange.summary :: (recordable exchange.responseHeaders).toList.map fun (name, value) =>
    .debug ("  " ++ name.text ++ ": " ++ value.visible?.getD "<binary>")

end Exchange

end MockKeeper.Proxy

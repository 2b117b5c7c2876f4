import MockKeeper.Log

/-! What the recording proxy logs of itself. -/

namespace MockKeeper.Proxy

def openingLines (address upstream : String) : Log :=
  [.info ("Listening on http://" ++ address), .info ("Proxying to " ++ upstream)]

def closingLine (address : String) : LogLine := .info s!"Proxy on {address} shutting down"

end MockKeeper.Proxy

import MockKeeper.Config.Choices

/-! Names and addresses that follow from the launch options. -/

namespace MockKeeper

def imageName (version : String) : String := "outofcoffee/imposter:" ++ version

def engineUrl (port : Nat) : String := s!"http://localhost:{port}"

def statusUrl (port : Nat) : String := engineUrl port ++ "/system/status"

end MockKeeper

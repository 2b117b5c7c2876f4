import MockKeeper.Stop.Station

/-! Several stop channels reached through handles. A handle names a station, and
clones of a handle name the same one; receivers are named across all of them. -/

namespace MockKeeper

/-- The stations, and for each handle the station behind it. -/
structure StopHub where
  stations : List StopStation := []
  handles : List Nat := []
deriving DecidableEq, Repr

namespace StopHub

/-- Opens handles in order: each one a new channel, or a clone of an earlier handle. -/
def ofHandles (requests : List (Option Nat)) : StopHub :=
  requests.foldl (fun hub request =>
    match request.bind (hub.handles[·]?) with
    | some station => { hub with handles := hub.handles ++ [station] }
    | none =>
      { stations := hub.stations ++ [{}], handles := hub.handles ++ [hub.stations.length] }) {}

def same (hub : StopHub) (first second : Nat) : Bool :=
  hub.handles[first]? == hub.handles[second]?

def call (hub : StopHub) (handle : Nat) (request : StationCall) : StationAnswer × StopHub :=
  match hub.handles[handle]? with
  | none => (.unknown, hub)
  | some place =>
    match hub.stations[place]? with
    | none => (.unknown, hub)
    | some station =>
      let (answer, after) := station.step request
      (answer, { hub with stations := hub.stations.set place after })

/-- Queues one event for each of the ids `prefix<i>`, and counts those accepted. -/
def flood (hub : StopHub) (handle : Nat) (ids : List String) : Nat × StopHub :=
  ids.foldl (fun (accepted, hub) id =>
    match hub.call handle (.notify ⟨id, none⟩) with
    | (.flag true, after) => (accepted + 1, after)
    | (_, after) => (accepted, after)) (0, hub)

def drain (hub : StopHub) (handle : Nat) : List StopEvent × StopHub :=
  let waiting := match hub.handles[handle]? >>= (hub.stations[·]?) with
    | some station => station.channel.pending
    | none => 0
  (List.range waiting).foldl (fun (events, hub) _ =>
    match hub.call handle .tryReceive with
    | (.taken (some event), after) => (events ++ [event], after)
    | (_, after) => (events, after)) ([], hub)

def stationOf? (hub : StopHub) (name : String) : Option Nat :=
  hub.stations.findIdx? fun station => (station.receiver? name).isSome

def callNamed (hub : StopHub) (name : String) (request : StationCall) :
    StationAnswer × StopHub :=
  match hub.stationOf? name with
  | none => (.unknown, hub)
  | some place =>
    match hub.stations[place]? with
    | none => (.unknown, hub)
    | some station =>
      let (answer, after) := station.step request
      (answer, { hub with stations := hub.stations.set place after })

def drop (hub : StopHub) (name : String) : Bool × StopHub :=
  match hub.callNamed name (.drop name) with
  | (.flag existed, after) => (existed, after)
  | (_, after) => (false, after)

def poll (hub : StopHub) (name : String) : StationAnswer × StopHub :=
  hub.callNamed name (.poll name)

/-- Creates a receiver in place of any other of its name, and polls it once. -/
def receive (hub : StopHub) (name : String) (handle : Nat) : StationAnswer × StopHub :=
  let (_, cleared) := hub.drop name
  let (_, created) := cleared.call handle (.create name)
  created.call handle (.poll name)

def pending (hub : StopHub) : List Nat :=
  hub.handles.map fun place =>
    match hub.stations[place]? with
    | some station => station.channel.pending
    | none => 0

def woken (hub : StopHub) : List String :=
  (hub.stations.flatMap StopStation.woken).mergeSort fun first second => decide (first ≤ second)

end StopHub

end MockKeeper

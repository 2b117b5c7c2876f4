import MockKeeper.Command.Failure
import MockKeeper.Command.Program
import MockKeeper.Command.Up
import MockKeeper.Config.Choices
import MockKeeper.Config.Directory
import MockKeeper.Config.Error
import MockKeeper.Config.Launch
import MockKeeper.Config.Load
import MockKeeper.Config.Names
import MockKeeper.Config.Pool
import MockKeeper.Config.Settings
import MockKeeper.Config.Upstream
import MockKeeper.Engine.Basic
import MockKeeper.Engine.Container
import MockKeeper.Engine.Error
import MockKeeper.Engine.Instance
import MockKeeper.Engine.Probe
import MockKeeper.Engine.Process
import MockKeeper.Files.Change
import MockKeeper.Files.Path
import MockKeeper.Files.Tree
import MockKeeper.Http.Header
import MockKeeper.Http.Message
import MockKeeper.Http.Uri
import MockKeeper.Log
import MockKeeper.Log.Filter
import MockKeeper.Loop.Basic
import MockKeeper.Loop.Session
import MockKeeper.Loop.Watched
import MockKeeper.Main
import MockKeeper.Options.Error
import MockKeeper.Options.Invocation
import MockKeeper.Options.Parse
import MockKeeper.Options.Spec
import MockKeeper.Os.Error
import MockKeeper.Proofs.ContainerLife
import MockKeeper.Proofs.EngineAttempts
import MockKeeper.Proofs.EngineCalls
import MockKeeper.Proofs.EngineLaunches
import MockKeeper.Proofs.EngineMoves
import MockKeeper.Proofs.EngineReleases
import MockKeeper.Proofs.EngineRoster
import MockKeeper.Proofs.EngineRuns
import MockKeeper.Proofs.HeaderMaps
import MockKeeper.Proofs.InstanceLife
import MockKeeper.Proofs.Lookup
import MockKeeper.Proofs.LoopLedger
import MockKeeper.Proofs.LoopTraces
import MockKeeper.Proofs.ProxyHandling
import MockKeeper.Proofs.SessionAccounts
import MockKeeper.Proofs.SessionBalance
import MockKeeper.Proofs.SessionCalls
import MockKeeper.Proofs.SessionFreshness
import MockKeeper.Proofs.SessionHolding
import MockKeeper.Proofs.SessionMoves
import MockKeeper.Proofs.SessionOrder
import MockKeeper.Proofs.SessionOrphans
import MockKeeper.Proofs.SessionSettling
import MockKeeper.Proofs.StopAccounts
import MockKeeper.Proofs.StopAnswers
import MockKeeper.Proofs.StopDelivery
import MockKeeper.Proofs.StopLedger
import MockKeeper.Proofs.StopOrder
import MockKeeper.Proofs.StopReports
import MockKeeper.Proofs.StopRegistration
import MockKeeper.Proofs.StopWakeups
import MockKeeper.Proofs.Traces
import MockKeeper.Proofs.WatchedFreshness
import MockKeeper.Proxy.Error
import MockKeeper.Proxy.Exchange
import MockKeeper.Proxy.Handle
import MockKeeper.Proxy.Join
import MockKeeper.Proxy.Policy
import MockKeeper.Proxy.Reach
import MockKeeper.Proxy.Server
import MockKeeper.Simulation.Command
import MockKeeper.Simulation.Conduct
import MockKeeper.Simulation.Counting
import MockKeeper.Simulation.Host
import MockKeeper.Simulation.Rehearsal
import MockKeeper.Simulation.Scene
import MockKeeper.Simulation.Script
import MockKeeper.Simulation.Stage
import MockKeeper.Simulation.Supervised
import MockKeeper.Simulation.Turn
import MockKeeper.Simulation.UpRun
import MockKeeper.Simulation.Watching
import MockKeeper.Stop.Channel
import MockKeeper.Stop.Hub
import MockKeeper.Stop.Station
import MockKeeper.Text.Binary64
import MockKeeper.Text.Blank
import MockKeeper.Text.Capitals
import MockKeeper.Text.Elapsed
import MockKeeper.Text.Integer
import MockKeeper.Text.JsonString
import MockKeeper.Text.Quoted
import MockKeeper.Text.Unprintable
import MockKeeper.Text.Utf8
import MockKeeper.Watch.Debounce
import MockKeeper.Watch.Places
import MockKeeper.Watch.Stream
import MockKeeper.Yaml.Block
import MockKeeper.Yaml.Cursor
import MockKeeper.Yaml.Decode
import MockKeeper.Yaml.Event
import MockKeeper.Yaml.Fault
import MockKeeper.Yaml.Gap
import MockKeeper.Yaml.Meaning
import MockKeeper.Yaml.Node
import MockKeeper.Yaml.Plain
import MockKeeper.Yaml.Quoted
import MockKeeper.Yaml.Tag
import MockKeeper.Yaml.Token
import MockKeeper.Yaml.TokenQueue
import MockKeeper.Proofs.LoopInterrupts
import MockKeeper.Proofs.InterruptLedger
import MockKeeper.Proofs.LoopEndings
import MockKeeper.Proofs.InstanceObservers
import MockKeeper.Proofs.InstanceNotices
import MockKeeper.Proofs.StopOrigins
import MockKeeper.Proofs.EngineRemoval
import MockKeeper.Proofs.HeaderCopies
import MockKeeper.Proofs.Utf8Texts
import MockKeeper.Proofs.UriReading
import MockKeeper.Proofs.UpstreamJoining
import MockKeeper.Proofs.UpstreamUse
import MockKeeper.Proofs.InstanceEndings
import MockKeeper.Proofs.ContainerTermination
import MockKeeper.Proofs.ProcessTermination
import MockKeeper.Proofs.Terminations
import MockKeeper.Proofs.ProbePacing
import MockKeeper.Proofs.LossyNames
import MockKeeper.Proofs.ConfigDirectories
import MockKeeper.Proofs.WatcherTraces
import MockKeeper.Proofs.DebounceTiming
import MockKeeper.Proofs.DebounceEndings
import MockKeeper.Proofs.WakeupInterleaving
import MockKeeper.Proofs.Debouncing
import MockKeeper.Proofs.BurstReports
import MockKeeper.Proofs.StopRepeats

import AgentNucleus.Runtime.Cancellation
import AgentNucleus.Runtime.DispatchSafety
import AgentNucleus.Runtime.OrphanedWaiters
import AgentNucleus.Runtime.ResourceLedger
import AgentNucleus.Top.ReleaseRace
import AgentNucleus.Top.ContextIsolation
import AgentNucleus.Top.ContextCounters
import AgentNucleus.Top.ContextLeases
import AgentNucleus.Top.SwapTransparency
import AgentNucleus.Runtime.InvocationProtocol
import AgentNucleus.Runtime.ControlRoundTrip
import AgentNucleus.Top.KvRuns
import AgentNucleus.Top.TrustedParentage
import AgentNucleus.Top.StoreRuns
import AgentNucleus.Runtime.AttemptBounds
import AgentNucleus.Runtime.FailedCalls
import AgentNucleus.Runtime.DispatchChoice
import AgentNucleus.Runtime.CascadeReach
import AgentNucleus.Runtime.CompletionOrder
import AgentNucleus.Runtime.ReceivedReferences
import AgentNucleus.Runtime.IdleVerdicts
import AgentNucleus.Runtime.MemoryAdmission
import AgentNucleus.Runtime.OutputPrefix
import AgentNucleus.Runtime.ModelIsolation
import AgentNucleus.Library.LeastRecentlyUsed
import AgentNucleus.Top.FailedAcquire
import AgentNucleus.Top.SequenceLayout
import AgentNucleus.Top.PrefixCache
import AgentNucleus.Top.UnansweredRefusals
import AgentNucleus.Runtime.StopBarrier
import AgentNucleus.Top.Restart
import AgentNucleus.Top.DefaultContext
import AgentNucleus.Top.FailedTurns
import AgentNucleus.Top.PayloadReader
import AgentNucleus.Runtime.ServerDescriptors
import AgentNucleus.Runtime.DecoderBounds
import AgentNucleus.Runtime.LaunchBarrier
import AgentNucleus.Runtime.PublishedResults
import AgentNucleus.Top.ListedAgents
import AgentNucleus.Top.KvLedger
import AgentNucleus.Top.KvTransfers
import AgentNucleus.Top.ModelUse
import AgentNucleus.Top.ReadyQueue
import AgentNucleus.Top.BatchIndependence
import AgentNucleus.Runtime.ControlCalls
import AgentNucleus.Runtime.Overtaking
import AgentNucleus.Top.AgentRegistry
import AgentNucleus.Top.QueueWaiters
import AgentNucleus.Top.ChatTranscript
import AgentNucleus.Top.TextBuffers
import AgentNucleus.Runtime.SealedResults

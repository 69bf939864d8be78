import Dagens.Actor.RestartWindow
import Dagens.Agents.FixedSplits
import Dagens.Agents.GlobalBalancing
import Dagens.Agents.RoutePriority
import Dagens.Archive.PrunedRows
import Dagens.Coordination.BarrierOpening
import Dagens.Coordination.BarrierParticipants
import Dagens.Coordination.MutexExclusion
import Dagens.Coordination.SemaphorePermits
import Dagens.Graph.EdgeConditions
import Dagens.Graph.FinishSearch
import Dagens.Graph.LocalOrder
import Dagens.Graph.StageOrder
import Dagens.Graph.WatchedState
import Dagens.Hitl.AnswerDelivery
import Dagens.Hitl.AnswerKept
import Dagens.Hitl.CallbackWindow
import Dagens.Hitl.CheckpointConservation
import Dagens.Hitl.ResumeOnce
import Dagens.Hitl.RetryBackoff
import Dagens.Registry.CacheConvergence
import Dagens.Remote.AuthorityFence
import Dagens.Resilience.ProbeVerdict
import Dagens.Resilience.Readmission
import Dagens.Runtime.CacheSize
import Dagens.Runtime.ModelCalls
import Dagens.Runtime.PluginOrder
import Dagens.Runtime.ToolGate
import Dagens.Scheduler.AffinitySelection
import Dagens.Scheduler.CapacityReports
import Dagens.Scheduler.Continuity
import Dagens.Scheduler.DispatchFleet
import Dagens.Scheduler.DurableSequences
import Dagens.Scheduler.ExclusiveDispatch
import Dagens.Scheduler.FollowerReplay
import Dagens.Scheduler.OwnExecution
import Dagens.Scheduler.ReplayOrder
import Dagens.Scheduler.ReplayableLog
import Dagens.Scheduler.ReplayedHistory
import Dagens.Scheduler.ResumeCompletion
import Dagens.Scheduler.Retention
import Dagens.Scheduler.SlotAccounting
import Dagens.Scheduler.SubmittedTasks
import Dagens.Scheduler.TaskRetry

import AnimateService.BarrierRelease
import AnimateService.BarrierSafety
import AnimateService.Exhaustion
import AnimateService.Pipeline
import AnimateService.Departures
import AnimateService.Deliveries
import AnimateService.PendingClient
import AnimateService.HandleMap
import AnimateService.FailedRequests
import AnimateService.RoundRobin
import AnimateService.WakeUps
import AnimateService.LockStepLimit
import AnimateService.Chunks
import AnimateService.Reconnections
import AnimateService.ParsedNumbers
import AnimateService.UsersFile
import AnimateService.LeavingOrder
import AnimateService.ReleasedCalls
import AnimateService.HeldRecords
import AnimateService.DestroyedOnce
import AnimateService.DeadHandles
import AnimateService.CanvasHandles
import AnimateService.GeneratedFrames
import AnimateService.RequestSteps
import AnimateService.Quiescence
import AnimateService.PoolFootprint
import AnimateService.Shutdown
import AnimateService.BoundedWaiting
import AnimateService.Display
import AnimateService.ServerBook
import AnimateService.AnsweredLines
import AnimateService.FrameStreams
import AnimateService.HandshakeProgress

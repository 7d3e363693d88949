import IotMedia.Camera.BufferOwnership
import IotMedia.Camera.HalErrors
import IotMedia.Camera.ResultTransport
import IotMedia.Camera.RequestQueue
import IotMedia.Camera.SettingsCache
import IotMedia.Camera.SubmitRollback
import IotMedia.Camera.InternalPause
import IotMedia.Camera.Locks
import IotMedia.Camera.IdleTracking
import IotMedia.Camera.ConfigureRuns
import IotMedia.Camera.LastFrameNumber
import IotMedia.Camera.MonitorRuns
import IotMedia.Camera.StreamGuard
import IotMedia.Camera.ConfigureTransaction
import IotMedia.Daemon.VideoBuffers
import IotMedia.Camera.UnknownStreams
import IotMedia.Camera.StreamObjects
import IotMedia.Camera.StreamIds
import IotMedia.Camera.PreparedStreams
import IotMedia.Camera.ReturnedBuffers
import IotMedia.Camera.StreamRemovals
import IotMedia.Camera.ResultStreams
import IotMedia.Camera.CallRuns
import IotMedia.Camera.FullResults
import IotMedia.Camera.ErrorState
import IotMedia.Camera.RequestIds
import IotMedia.Camera.CancelRequest
import IotMedia.Daemon.VideoControl
import IotMedia.Daemon.ControlRoundTrip
import IotMedia.Framework.Unwinding
import IotMedia.Daemon.ControlReads
import IotMedia.Framework.CopyBack
import IotMedia.Daemon.ControlUpdates
import IotMedia.Camera.ThreadHelper
import IotMedia.Daemon.CameraSession
import IotMedia.Daemon.AudioStream
import IotMedia.Daemon.AudioWakeup
import IotMedia.Qmedia.HdmiHandshake
import IotMedia.Qmedia.HdmiQueue
import IotMedia.Camera.ShutterOrder
import IotMedia.Camera.PartialResults
import IotMedia.Camera.TableMoves
import IotMedia.Camera.BuffersMap
import IotMedia.Camera.SlotHandles
import IotMedia.Camera.AllocBalance
import IotMedia.Camera.PrepareLoop
import IotMedia.Camera.PrepareActive
import IotMedia.Camera.HandlerThread
import IotMedia.Camera.BatchPause
import IotMedia.Camera.StateWaits
import IotMedia.Camera.SubmittedRequests
import IotMedia.Camera.ConfiguredStream
import IotMedia.Camera.OpenCamera
import IotMedia.Camera.BlobSize
import IotMedia.Camera.PlaneLayout
import IotMedia.Daemon.SubmittedSizes
import IotMedia.Daemon.MappedBuffers
import IotMedia.Daemon.ControlArithmetic
import IotMedia.Daemon.AudioRecorder
import IotMedia.Camera.VendorTags
import IotMedia.Framework.GridTiling
import IotMedia.Qmedia.CompositionGrid
import IotMedia.Qmedia.DecoderFeed
import IotMedia.Framework.RunningFlags
import IotMedia.Qmedia.StopFlags
import IotMedia.Camera.PauseTransitions
import IotMedia.Daemon.AudioDelivery
import IotMedia.Framework.CheckedCounter
import IotMedia.Qmedia.VideoComposer
import IotMedia.Daemon.SettingsDelivery
import IotMedia.Qmedia.MuxerSession
import IotMedia.Camera.BufferReturns
import IotMedia.Framework.WaitedObject
import IotMedia.Daemon.MessageQueue
import IotMedia.Framework.FlagMap
import IotMedia.Camera.AllocFlags
import IotMedia.Qmedia.CameraBase
import IotMedia.Qmedia.CameraCallbacks
import IotMedia.Qmedia.CameraLock
import IotMedia.Qmedia.CameraSessions
import IotMedia.Camera.BufferAccounts
import IotMedia.Daemon.BufferCircuit
import IotMedia.Daemon.CircuitRuns

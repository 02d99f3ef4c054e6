import Corstone.Lib.VersionHistory
import Corstone.MqttAgent.AgentTask
import Corstone.Ota.AntiRollback
import Corstone.Ota.BlockCounter
import Corstone.Ota.DataBuffers
import Corstone.Ota.DownloadChain
import Corstone.Ota.FailedUpdate
import Corstone.Ota.FinishedJob
import Corstone.Ota.ImageIntegrity
import Corstone.Ota.JobDocumentHandOff
import Corstone.Ota.JobIdentity
import Corstone.Ota.JobVersions
import Corstone.Ota.MqttHelpers
import Corstone.Ota.OpenFile
import Corstone.Ota.OtaHooks
import Corstone.Ota.PublishContent
import Corstone.Ota.RedeliveredJob
import Corstone.Ota.SignatureGate
import Corstone.Ota.StreamSubscription
import Corstone.Ota.SuccessReport
import Corstone.Ota.Suspension
import Corstone.KeywordDetection.InferenceControl
import Corstone.KeywordDetection.SlidingWindow
import Corstone.KeywordDetection.AudioBlocks
import Corstone.KeywordDetection.FeatureCache
import Corstone.SpeechRecognition.DspMl
import Corstone.KeywordDetection.CodeVerifyKey
import Corstone.Isp.Cdma
import Corstone.Isp.ScatterGather
import Corstone.Lib.LinkedQueue
import Corstone.Isp.TaskletQueue
import Corstone.Connectivity.SocketDiscipline
import Corstone.MqttAgent.ConnectLoop
import Corstone.Lib.BoundedSet
import Corstone.MqttAgent.PublishFanOut
import Corstone.MqttAgent.SubscriptionSet
import Corstone.MqttAgent.Resubscribe
import Corstone.MqttAgent.CommandPool
import Corstone.MqttAgent.SessionLoop
import Corstone.ObjectDetection.DisplayGate
import Corstone.ObjectDetection.BorderTile
import Corstone.Lib.PrefixTable
import Corstone.Ota.ComponentRouting
import Corstone.Ota.PalCalls
import Corstone.Ota.LocalCopies
import Corstone.Ota.BlockRequests
import Corstone.Ota.JobFiles
import Corstone.Sntp.SystemClock
import Corstone.Sntp.ClockDiscipline
import Corstone.Sntp.SntpTask
import Corstone.Sntp.PollPeriod
import Corstone.Sntp.TaskSurvival
import Corstone.Sntp.ServerAuth
import Corstone.Sntp.AuthContext
import Corstone.Sntp.Pkcs11Sessions
import Corstone.Tls.Context
import Corstone.Tls.SessionLifeCycle
import Corstone.Tls.PartialWrites
import Corstone.Logging.PrintfCommon
import Corstone.Logging.LoggedLength
import Corstone.Logging.LoggingTask
import Corstone.KeywordDetection.TensorRows
import Corstone.KeywordDetection.KeywordReports
import Corstone.Isp.UartRing
import Corstone.Isp.CdmaSetup
import Corstone.ObjectDetection.InferenceResults
import Corstone.ObjectDetection.CoherentDma
import Corstone.Provisioning.DestroyObjects
import Corstone.Tools.FrmConverter
import Corstone.Lib.Memory
import Corstone.Lib.Segment
import Corstone.SpeechRecognition.GenericNodes
import Corstone.SpeechRecognition.Scheduler
import Corstone.SpeechRecognition.AudioWindows
import Corstone.SpeechRecognition.AudioSource
import Corstone.Bsp.SaiDriver
import Corstone.Lib.Heap
import Corstone.Lib.HexText
import Corstone.Provisioning.ConsoleHex
import Corstone.Provisioning.ExportPublicKey
import Corstone.Provisioning.ImportObjects
import Corstone.Provisioning.ProvisionDevice
import Corstone.Provisioning.ProvisionedBoots
import Corstone.Provisioning.SuccessfulRun

import EdgeLink.ForStd.Pod
import EdgeLink.ForStd.PrefixFree
import EdgeLink.ForStd.CText
import EdgeLink.ForStd.Padding
import EdgeLink.ForStd.LetterCase
import EdgeLink.ForStd.TextInput
import EdgeLink.ForStd.UnixAddress
import EdgeLink.ForStd.JsonTokens
import EdgeLink.ForStd.Json
import EdgeLink.ForStd.BinaryFloat
import EdgeLink.ForStd.PrintfG
import EdgeLink.ForStd.SessionTrace
import EdgeLink.ForStd.History
import EdgeLink.ForStd.CappedDoubling
import EdgeLink.ForStd.DescriptorTrace
import EdgeLink.ForStd.AutoincrementTable
import EdgeLink.ForStd.TableHistory
import EdgeLink.ForStd.UnorderedMap
import EdgeLink.ForStd.WordBits
import EdgeLink.ForStd.CheckedUInt64
import EdgeLink.ForStd.TimerFd
import EdgeLink.ForStd.EventFd
import EdgeLink.ForStd.TransitionSystem
import EdgeLink.Native.Message
import EdgeLink.Native.IpcMessageCodec
import EdgeLink.Native.SharedMemoryMessageBridge
import EdgeLink.Native.SocketCanTransport
import EdgeLink.Native.SocketCanPlugin
import EdgeLink.Native.SharedMemoryBuffer
import EdgeLink.Native.SharedMemoryContents
import EdgeLink.Native.MessageBus
import EdgeLink.Native.BusServices
import EdgeLink.Native.StorageService
import EdgeLink.Native.StorageObject
import EdgeLink.Native.IpcHistory
import EdgeLink.Native.StreamFormat
import EdgeLink.Native.SystemMonitor
import EdgeLink.Native.SystemdNotifier
import EdgeLink.Native.MqttPayload
import EdgeLink.Native.MqttService
import EdgeLink.Native.DeviceManager
import EdgeLink.Native.DeviceConnectionStateMachine
import EdgeLink.Native.ReconnectBackoff
import EdgeLink.Native.ModbusPlugin
import EdgeLink.Native.ModbusRtuTransport
import EdgeLink.Native.ModbusPluginObject
import EdgeLink.Native.ThreadPool
import EdgeLink.Native.PluginManager
import EdgeLink.Native.EventLoop
import EdgeLink.Native.EventLoopRun
import EdgeLink.Native.EventLoopStop
import EdgeLink.Native.EventFdNotifier
import EdgeLink.Native.DeviceScheduler
import EdgeLink.Native.TimerEvents
import EdgeLink.Native.SocketServer
import EdgeLink.Native.TcpServer
import EdgeLink.Native.UnixDomainServer
import EdgeLink.Native.ControlCommandProcessor
import EdgeLink.Native.ControlSocketPath
import EdgeLink.Spec.IpcMessageCodecCorrect
import EdgeLink.Spec.SharedMemoryMessageBridgeCorrect
import EdgeLink.Spec.SharedMemoryOwnership
import EdgeLink.Spec.SharedMemoryContentsCorrect
import EdgeLink.Spec.SharedMemoryCoherence
import EdgeLink.Spec.SocketCanTransportCorrect
import EdgeLink.Spec.CanBusDelivery
import EdgeLink.Spec.MessageBusCorrect
import EdgeLink.Spec.DetachSafety
import EdgeLink.Spec.StorageServiceCorrect
import EdgeLink.Spec.StorageObjectCorrect
import EdgeLink.Spec.IpcHistoryCorrect
import EdgeLink.Spec.StoredValueValidation
import EdgeLink.Spec.SystemMonitorCorrect
import EdgeLink.Spec.SystemdNotifierCorrect
import EdgeLink.Spec.MqttServiceSteps
import EdgeLink.Spec.MqttReplayThread
import EdgeLink.Spec.MqttOutboxSafety
import EdgeLink.Spec.MqttBacklog
import EdgeLink.Spec.MqttForwardOrder
import EdgeLink.Spec.MqttClientLifetime
import EdgeLink.Spec.MqttTopics
import EdgeLink.Spec.MqttPayloadCorrect
import EdgeLink.Spec.MqttPayloadNumbers
import EdgeLink.Spec.MqttPathAgreement
import EdgeLink.Spec.MqttReplayPass
import EdgeLink.Spec.DeviceConnectionStateMachineCorrect
import EdgeLink.Spec.CommunicationTimeout
import EdgeLink.Spec.ReconnectBackoffCorrect
import EdgeLink.Spec.ReconnectBackoffQueries
import EdgeLink.Spec.ModbusPluginSteps
import EdgeLink.Spec.ModbusPluginCorrect
import EdgeLink.Spec.ModbusPollResult
import EdgeLink.Spec.ModbusRetrySchedule
import EdgeLink.Spec.ModbusRtuTransportCorrect
import EdgeLink.Spec.ModbusContextLifetime
import EdgeLink.Spec.ThreadPoolCorrect
import EdgeLink.Spec.PluginManagerCorrect
import EdgeLink.Spec.PluginStartAll
import EdgeLink.Spec.EventLoopCorrect
import EdgeLink.Spec.EventDelivery
import EdgeLink.Spec.EventLoopStopCorrect
import EdgeLink.Spec.EventFdNotifierCorrect
import EdgeLink.Spec.DeviceSchedulerCorrect
import EdgeLink.Spec.TimerEventsCorrect
import EdgeLink.Spec.SocketServerCorrect
import EdgeLink.Spec.TcpServerCorrect
import EdgeLink.Spec.UnixDomainServerCorrect
import EdgeLink.Spec.ControlCommandProcessorCorrect
import EdgeLink.Spec.ControlHalfClose
import EdgeLink.Spec.DescriptorBookkeeping
import EdgeLink.Spec.ControlSocketExclusivity

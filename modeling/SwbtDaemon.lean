import SwbtDaemon.Domain.Proofs.OwnershipProofs
import SwbtDaemon.Switch.Proofs.SubcommandProofs
import SwbtDaemon.Ipc.Proofs.AdapterProofs
import SwbtDaemon.Ipc.Proofs.FramingProofs
import SwbtDaemon.Ipc.Proofs.ServerProofs
import SwbtDaemon.Ipc.Proofs.DecodeProofs
import SwbtDaemon.Ipc.Proofs.InsertionProofs
import SwbtDaemon.Ipc.Proofs.MalformedProofs
import SwbtDaemon.Ipc.Proofs.IsolationProofs
import SwbtDaemon.Control.Proofs.DirectProofs
import SwbtDaemon.Api.Proofs.CApiProofs
import SwbtDaemon.Ipc.Proofs.FidelityProofs
import SwbtDaemon.Client.Proofs.RoundTripProofs
import SwbtDaemon.Bridge.Proofs.ReplyQueueProofs
import SwbtDaemon.Bridge.Proofs.OutputReportProofs
import SwbtDaemon.Bridge.Proofs.SchedulerProofs
import SwbtDaemon.Bridge.Proofs.ReportLoopProofs
import SwbtDaemon.Bridge.Proofs.DeliveryProofs
import SwbtDaemon.Bridge.Proofs.RegistrationProofs
import SwbtDaemon.Bridge.Proofs.HoldoffProofs
import SwbtDaemon.Bridge.Proofs.PunctualProofs
import SwbtDaemon.Daemon.Proofs.IpcRunnerProofs
import SwbtDaemon.Daemon.Proofs.HeartbeatProofs
import SwbtDaemon.Daemon.Proofs.ShutdownProofs
import SwbtDaemon.Daemon.Proofs.ProductionProofs
import SwbtDaemon.Daemon.Proofs.MainProofs
import SwbtDaemon.Daemon.Proofs.PortedProcessProofs
import SwbtDaemon.Daemon.Proofs.SwitchAddressProofs
import SwbtDaemon.Daemon.Proofs.ReconnectOutcomeProofs
import SwbtDaemon.Daemon.Proofs.ReconnectProofs
import SwbtDaemon.Ipc.Proofs.StatusProofs
import SwbtDaemon.Ipc.Proofs.OwnerIdProofs
import SwbtDaemon.Daemon.Proofs.EnvironmentProofs
import SwbtDaemon.Daemon.Proofs.ConfigFileProofs
import SwbtDaemon.Domain.Proofs.TickProofs
import SwbtDaemon.Bridge.Proofs.UsbAdapterLocationProofs
import SwbtDaemon.Daemon.Proofs.LaunchOptionsProofs
import SwbtDaemon.Daemon.Proofs.RepliesProofs
import SwbtDaemon.Daemon.Proofs.StatusProofs
import SwbtDaemon.Daemon.Proofs.AdapterProofs
import SwbtDaemon.Daemon.Proofs.InstallationProofs
import SwbtDaemon.Client.Proofs.SessionOutcomeProofs

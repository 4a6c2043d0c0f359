import HilRig.Api.Compatibility
import HilRig.Api.RequestedTimes
import HilRig.Api.ScheduleViews
import HilRig.Foundations.EffectReachability
import HilRig.Foundations.OrderedDict
import HilRig.Foundations.DecimalContext
import HilRig.Evaluation.ExactVoltages
import HilRig.Evaluation.Verdicts
import HilRig.Evaluation.ReportedErrors
import HilRig.ExactTiming
import HilRig.Models.Execution
import HilRig.Protocol.BuilderBinding
import HilRig.Protocol.ExactLowering
import HilRig.Protocol.OrderIndependence
import HilRig.Protocol.RefusedRequests
import HilRig.Protocol.ResultLimit
import HilRig.Protocol.SerialInput
import HilRig.Protocol.SerialOutput
import HilRig.Protocol.SessionConfirmation
import HilRig.Protocol.UploadAbandonment
import HilRig.Results.Ordinals
import HilRig.Results.TickEvidence
import HilRig.Results.Rejection
import HilRig.Results.Shutdown
import HilRig.Results.JsonEncoding
import HilRig.Results.SnapshotCreation
import HilRig.Foundations.JsonText
import HilRig.Evaluation.Reporting
import HilRig.Foundations.CsvText
import HilRig.Foundations.OrderedQueries
import HilRig.Protocol.HeldUpload
import HilRig.Protocol.SendUpload
import HilRig.Results.CommunicationQueries
import HilRig.Results.CsvExports
import HilRig.Results.SnapshotText
import HilRig.CapturedSession
import HilRig.Evaluation.MoreEvidence
import HilRig.Exporters.ArchivedUpload
import HilRig.Exporters.Manifest
import HilRig.Exporters.Workbook
import HilRig.Protocol.PortLifetime

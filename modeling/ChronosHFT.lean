import ChronosHFT.Oms.WorstCase
import ChronosHFT.Oms.FillAtomicity
import ChronosHFT.Oms.ReplaySpec
import ChronosHFT.Oms.Attribution
import ChronosHFT.Oms.TruthSpec
import ChronosHFT.Oms.AttributionRun
import ChronosHFT.Oms.WellFormed
import ChronosHFT.Oms.Recoverability
import ChronosHFT.Oms.RecoverabilityRun
import ChronosHFT.Oms.OrderLifecycle
import ChronosHFT.Oms.GuardRecovery
import ChronosHFT.Oms.PositionConvergence
import ChronosHFT.Journal.Checkpoints
import ChronosHFT.Sidecar.Restart
import ChronosHFT.Sidecar.Verification
import ChronosHFT.Sidecar.StoreAtomicity
import ChronosHFT.Sidecar.RestoredIdentity
import ChronosHFT.Sidecar.LossBaselines
import ChronosHFT.Migration.SidecarMigration
import ChronosHFT.Admin.AtMostOnce
import ChronosHFT.Admin.RearmRun
import ChronosHFT.Evidence.FormatDrift
import ChronosHFT.Sidecar.CashFlowRun
import ChronosHFT.MarketData.Synchronization
import ChronosHFT.MarketData.PublicationOrder
import ChronosHFT.Supervision.OmsHealth
import ChronosHFT.Funding.FundingWindows
import ChronosHFT.Risk.KillVerification
import ChronosHFT.Risk.LossLimitsRun
import ChronosHFT.Gateway.TransportFencing
import ChronosHFT.Oms.TaskAdmission
import ChronosHFT.Event.Lifecycle
import ChronosHFT.Gateway.SharedWeight
import ChronosHFT.Oms.LedgerConservation
import ChronosHFT.Oms.OutboundTraffic
import ChronosHFT.Oms.CalibrationLoss
import ChronosHFT.Oms.ExchangeSnapshot
import ChronosHFT.Oms.TradeBackfill
import ChronosHFT.Risk.VenueGuards
import ChronosHFT.Strategy.QuoteControl
import ChronosHFT.Strategy.RpiRun
import ChronosHFT.MarketData.TopOfBook
import ChronosHFT.Strategy.ExposureAccounting
import ChronosHFT.Risk.MarketFreshness
import ChronosHFT.Strategy.Runtime
import ChronosHFT.Oms.CancelVerification
import ChronosHFT.Lib.ExponentialWeights
import ChronosHFT.Alpha.RpiIntensity
import ChronosHFT.Alpha.RpiIntensityFit
import ChronosHFT.Lib.Interleaving
import ChronosHFT.Oms.SubmissionTransaction
import ChronosHFT.Oms.SubmissionLeases
import ChronosHFT.Lib.FirstDue
import ChronosHFT.Oms.OrderMonitor
import ChronosHFT.Lib.FifoLock
import ChronosHFT.Gateway.RequestThrottle
import ChronosHFT.Gateway.EmergencyRelease
import ChronosHFT.Sidecar.SnapshotWorker
import ChronosHFT.Sidecar.SnapshotProtocol
import ChronosHFT.Lib.Drawdown
import ChronosHFT.Lib.Chronicle
import ChronosHFT.Evidence.OosPerformance
import ChronosHFT.Evidence.OosExactness

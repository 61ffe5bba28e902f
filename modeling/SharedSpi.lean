import SharedSpi.Bench.Firmware
import SharedSpi.Bench.Recorder
import SharedSpi.Iio.Adis16505
import SharedSpi.Iio.Demo
import SharedSpi.Proofs.Batches
import SharedSpi.Proofs.BoardSimulation
import SharedSpi.Proofs.ByteFlow
import SharedSpi.Proofs.ConfigurationAttempts
import SharedSpi.Proofs.DelayRequests
import SharedSpi.Proofs.EagerDevices
import SharedSpi.Proofs.EagerReference
import SharedSpi.Proofs.EmptyOperations
import SharedSpi.Proofs.ErrorSources
import SharedSpi.Proofs.ExactDelays
import SharedSpi.Proofs.Exchanges
import SharedSpi.Proofs.FailedTransactions
import SharedSpi.Proofs.FaithfulTable
import SharedSpi.Proofs.FirmwareRefinement
import SharedSpi.Proofs.Framing
import SharedSpi.Proofs.OwnController
import SharedSpi.Proofs.OwnSettings
import SharedSpi.Proofs.Quantization
import SharedSpi.Proofs.Removals
import SharedSpi.Proofs.RequestBounds
import SharedSpi.Proofs.SeparateControllers
import SharedSpi.Proofs.ServiceRuns
import SharedSpi.Proofs.SharedControllers
import SharedSpi.Proofs.SingleMessages
import SharedSpi.Proofs.SlicedWaits
import SharedSpi.Proofs.StaleDevices
import SharedSpi.Proofs.Standings
import SharedSpi.Proofs.TimingWrites
import SharedSpi.Proofs.Turns
import SharedSpi.Proofs.Twins
import SharedSpi.Session

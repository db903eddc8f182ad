import VmBridge.RegistryScript
import VmBridge.Session
import VmBridge.Proofs.PositionalNotation
import VmBridge.Proofs.BridgeEnsures
import VmBridge.Proofs.WorldHistory
import VmBridge.Proofs.MockContextSteps
import VmBridge.Proofs.MockContextService
import VmBridge.Proofs.FrameRequests
import VmBridge.Proofs.ExecutionSteps
import VmBridge.Proofs.MockContextHistory
import VmBridge.Proofs.ExecutionTermination
import VmBridge.Proofs.SurvivingChanges
import VmBridge.Proofs.BalanceConservation
import VmBridge.Proofs.ParkedFaults
import VmBridge.Proofs.StaticMode
import VmBridge.Proofs.FirstFault
import VmBridge.Proofs.NestedRollback
import VmBridge.Proofs.GasMeter
import VmBridge.Proofs.GasAccounting
import VmBridge.Proofs.Authority
import VmBridge.Proofs.MachineInterpreter
import VmBridge.Proofs.MachineAgreement
import VmBridge.Proofs.InterpreterSafety
import VmBridge.Proofs.AssembledCode
import VmBridge.Proofs.RegistryHistory
import VmBridge.Proofs.CallbackOutcomes
import VmBridge.Proofs.ExecutionMoments
import VmBridge.Proofs.RegistryScoping
import VmBridge.Proofs.LoadingSteps
import VmBridge.Proofs.Configurations
import VmBridge.Proofs.InstanceLifecycle
import VmBridge.Proofs.AlikeContexts
import VmBridge.Proofs.PairedRuns
import VmBridge.Proofs.VerbosityIndependence
import VmBridge.Proofs.CreationAddresses
import VmBridge.Proofs.CreationNonces
import VmBridge.Proofs.CreationHistories
import VmBridge.Proofs.NullBuffers
import VmBridge.Proofs.OversizedLogs
import VmBridge.Proofs.BlockHashes
import VmBridge.Proofs.CheckedContext
import VmBridge.Proofs.FaultOrigins
import VmBridge.Proofs.RunFaults
import VmBridge.Proofs.StorageWrites
import VmBridge.Proofs.CallCommands
import VmBridge.Proofs.StatusBytes
import VmBridge.Proofs.NamedStatuses
import VmBridge.Proofs.CreationOutcomes
import VmBridge.Proofs.CodeWindows
import VmBridge.Proofs.WordNumbers
import VmBridge.Proofs.CreateSymbols
import VmBridge.Proofs.MessageCrossings
import VmBridge.Proofs.ForwardedMessages
import VmBridge.Proofs.ResultCrossings

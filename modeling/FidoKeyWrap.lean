import FidoKeyWrap.Lib.Bytes
import FidoKeyWrap.Lib.Cbor
import FidoKeyWrap.Lib.Framing
import FidoKeyWrap.Lib.PrefixCode
import FidoKeyWrap.Lib.Program
import FidoKeyWrap.Lib.Triple
import FidoKeyWrap.Lib.Sum
import FidoKeyWrap.Lib.Order
import FidoKeyWrap.Lib.Path
import FidoKeyWrap.Lib.Reach
import FidoKeyWrap.Lib.Threads
import FidoKeyWrap.Lib.BinarySearch
import FidoKeyWrap.Policy
import FidoKeyWrap.Transcript
import FidoKeyWrap.Envelope
import FidoKeyWrap.EnvelopeCodec
import FidoKeyWrap.Environment
import FidoKeyWrap.Vector
import FidoKeyWrap.Crypto
import FidoKeyWrap.ContextBinding
import FidoKeyWrap.EnvelopeMac
import FidoKeyWrap.Tool.Storage
import FidoKeyWrap.Tool.Destination
import FidoKeyWrap.Tool.AtomicCreate
import FidoKeyWrap.Tool.Container
import FidoKeyWrap.Tool.Vector
import FidoKeyWrap.Tool.SecretFile
import FidoKeyWrap.KeySeparation
import FidoKeyWrap.Protector
import FidoKeyWrap.Admission
import FidoKeyWrap.Unlock
import FidoKeyWrap.Custody
import FidoKeyWrap.Transaction
import FidoKeyWrap.Session
import FidoKeyWrap.FactorOrder
import FidoKeyWrap.Recovery
import FidoKeyWrap.History
import FidoKeyWrap.Tool.Application
import FidoKeyWrap.Tool.Sealing
import FidoKeyWrap.Tool.Survival
import FidoKeyWrap.Native.Ffi
import FidoKeyWrap.Native.Device
import FidoKeyWrap.Native.Assertion
import FidoKeyWrap.Native.Inventory
import FidoKeyWrap.Native.Managed
import FidoKeyWrap.Native.Vector
import FidoKeyWrap.Native.TouchSelection
import FidoKeyWrap.Native.SecretRelease
import FidoKeyWrap.Native.Retirement
import FidoKeyWrap.Native.Credential
import FidoKeyWrap.Native.Rejection
import FidoKeyWrap.Config
import FidoKeyWrap.Backend
import FidoKeyWrap.NativeBackend
import FidoKeyWrap.NativeEnrollment
import FidoKeyWrap.FakeBackend
import FidoKeyWrap.FakeStore
import FidoKeyWrap.FakeEnrollment
import FidoKeyWrap.FakeAuthenticator
import FidoKeyWrap.FakeInventory
import FidoKeyWrap.CredentialRemoval
import FidoKeyWrap.Lib.Failure
import FidoKeyWrap.Lib.Attempts
import FidoKeyWrap.Totality
import FidoKeyWrap.Convergence
import FidoKeyWrap.Rewrap
import FidoKeyWrap.Staging
import FidoKeyWrap.Lib.Inventory
import FidoKeyWrap.Platform.Outcomes
import FidoKeyWrap.Platform.Refinement
import FidoKeyWrap.Platform.LinuxThreads
import FidoKeyWrap.Platform.LinuxAgreement
import FidoKeyWrap.Platform.MacosThreads
import FidoKeyWrap.Identity
import FidoKeyWrap.NativeAdmission
import FidoKeyWrap.Native.Selection
import FidoKeyWrap.AuthenticatorSelection
import FidoKeyWrap.Hardware
import FidoKeyWrap.HardwareInventory
import FidoKeyWrap.HardwareRetirement
import FidoKeyWrap.FakeRetirement
import FidoKeyWrap.RetirementPrediction
import FidoKeyWrap.Deployment
import FidoKeyWrap.FakePrf
import FidoKeyWrap.NativePrf
import FidoKeyWrap.CredentialLedger
import FidoKeyWrap.NativeLedger
import FidoKeyWrap.Native.Diagnostic
import FidoKeyWrap.Diagnostic
import FidoKeyWrap.Interruption
import FidoKeyWrap.NativeInterruption

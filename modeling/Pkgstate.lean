import Pkgstate.Base.Bytes
import Pkgstate.Base.Comparison
import Pkgstate.Base.Completion
import Pkgstate.Base.Confined
import Pkgstate.Base.Consumed
import Pkgstate.Base.Decoder
import Pkgstate.Base.Keyed
import Pkgstate.Base.Less
import Pkgstate.Base.Linearization
import Pkgstate.Base.LockedUpdate
import Pkgstate.Base.MachineReader
import Pkgstate.Base.MapEdit
import Pkgstate.Base.Observed
import Pkgstate.Base.PrefixCode
import Pkgstate.Base.Reordered
import Pkgstate.Base.SelfDelimiting
import Pkgstate.Base.Sha256
import Pkgstate.Base.Signed
import Pkgstate.Base.Slot
import Pkgstate.CanonicalRecord
import Pkgstate.CanonicalStore
import Pkgstate.CodecLimits
import Pkgstate.ConstructorErrors
import Pkgstate.DecoderErrors
import Pkgstate.DeltaOrder
import Pkgstate.Digest
import Pkgstate.DigestText
import Pkgstate.Error
import Pkgstate.Fixtures
import Pkgstate.GenerationCodec
import Pkgstate.InstallationReceipt
import Pkgstate.InstalledControl
import Pkgstate.Model
import Pkgstate.Normalization
import Pkgstate.OwnedEntry
import Pkgstate.PackagePath
import Pkgstate.PackageSourceRecord
import Pkgstate.PathComponents
import Pkgstate.PathRelations
import Pkgstate.PublicationCodec
import Pkgstate.PublicationConflict
import Pkgstate.PublicationDiff
import Pkgstate.PublicationIdentity
import Pkgstate.PublicationOwnership
import Pkgstate.PublicationPaths
import Pkgstate.PublicationProjection
import Pkgstate.PublicationReceipt
import Pkgstate.PublicationReceiptCodec
import Pkgstate.PublicationRequest
import Pkgstate.PublicationRequestCodec
import Pkgstate.PublicationRetry
import Pkgstate.PublicationUndo
import Pkgstate.ReaderSafety
import Pkgstate.ReceiptCoherence
import Pkgstate.RecordFormats
import Pkgstate.RecordFraming
import Pkgstate.RecordReplay
import Pkgstate.RecordStreams
import Pkgstate.SignedTimestamps
import Pkgstate.Snapshot
import Pkgstate.SnapshotOwnership
import Pkgstate.SortUnique
import Pkgstate.StateIdentity
import Pkgstate.StateTargetBinding
import Pkgstate.StoreAudit
import Pkgstate.StoreConcurrency
import Pkgstate.StoreHistory
import Pkgstate.StoreLinearization
import Pkgstate.StoreRefinement
import Pkgstate.StoreRivals
import Pkgstate.ValueOrders
import Pkgstate.WriterSessions

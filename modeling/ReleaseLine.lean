import ReleaseLine.Main
import ReleaseLine.Proofs.AuditTrail
import ReleaseLine.Proofs.Delivery
import ReleaseLine.Proofs.Verdict
import ReleaseLine.Proofs.Bytes
import ReleaseLine.Proofs.Reading
import ReleaseLine.Proofs.Marks
import ReleaseLine.Proofs.Decoding
import ReleaseLine.Proofs.Escape
import ReleaseLine.Proofs.Segments
import ReleaseLine.Proofs.ReleasePath
import ReleaseLine.Proofs.CommandRun
import ReleaseLine.Proofs.Overlay
import ReleaseLine.Proofs.Publication
import ReleaseLine.Proofs.VersionAgreement
import ReleaseLine.Proofs.ReleaseSteps
import ReleaseLine.Proofs.Deadlines
import ReleaseLine.Proofs.Handover
import ReleaseLine.Proofs.Credentials
import ReleaseLine.Proofs.VersionText
import ReleaseLine.Proofs.VersionOrder
import ReleaseLine.Proofs.VersionSort
import ReleaseLine.Proofs.VersionRegister
import ReleaseLine.Proofs.LatestRelease
import ReleaseLine.Proofs.Query
import ReleaseLine.Proofs.RepositoryPath
import ReleaseLine.Proofs.FirstRequest
import ReleaseLine.Proofs.Diagnostic
import ReleaseLine.Proofs.Placeholders
import ReleaseLine.Proofs.Replacement
import ReleaseLine.Proofs.Reception
import ReleaseLine.Proofs.ResponseRecord

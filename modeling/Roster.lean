import Roster.Api.Recorder
import Roster.Json.Pointer
import Roster.Log
import Roster.Main
import Roster.Manifest.Definition
import Roster.Object.Shape
import Roster.Proofs.Balance
import Roster.Proofs.Cloning
import Roster.Proofs.ConditionHistory
import Roster.Proofs.Confinement
import Roster.Proofs.Duplicates
import Roster.Proofs.Excused
import Roster.Proofs.Failures
import Roster.Proofs.Gate
import Roster.Proofs.Lagging
import Roster.Proofs.Ledger
import Roster.Proofs.Naming
import Roster.Proofs.Quiescence
import Roster.Proofs.Quorum
import Roster.Proofs.Releases
import Roster.Proofs.Removal
import Roster.Proofs.Rewriting
import Roster.Proofs.RoundTrip
import Roster.Proofs.Selector
import Roster.Proofs.SizeBounds
import Roster.Proofs.Summary
import Roster.Proofs.Thoroughness
import Roster.Proofs.Undoing
import Roster.Proofs.Unordered
import Roster.Reconcile
import Roster.Sample
import Roster.Store.Rehearsal
import Roster.Transcript
import Roster.Yaml

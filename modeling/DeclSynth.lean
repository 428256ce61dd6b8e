import DeclSynth.Config.Record
import DeclSynth.Expander.Record
import DeclSynth.Proofs.Argument.Verdict
import DeclSynth.Proofs.ArgumentOrder
import DeclSynth.Proofs.AsyncPeer.Parentheses
import DeclSynth.Proofs.AsyncPeer.Scope
import DeclSynth.Proofs.AsyncPeer.Verdict
import DeclSynth.Proofs.CasePredicates
import DeclSynth.Proofs.Config.Suffix
import DeclSynth.Proofs.Continuation
import DeclSynth.Proofs.Naming.Boundaries
import DeclSynth.Proofs.Naming.Conversion
import DeclSynth.Proofs.Naming.Remainder
import DeclSynth.Proofs.Panics
import DeclSynth.Proofs.Sealed.Exposure
import DeclSynth.Proofs.Sealed.Shadows
import DeclSynth.Proofs.Sealed.Verdict
import DeclSynth.Proofs.Store.Readers
import DeclSynth.Proofs.Store.RoundTrip
import DeclSynth.Proofs.StoredFields.Accessors
import DeclSynth.Proofs.StoredFields.Comparison
import DeclSynth.Proofs.StoredFields.Construction
import DeclSynth.Proofs.StoredFields.Copying
import DeclSynth.Proofs.StoredFields.Marks
import DeclSynth.Proofs.StoredFields.Names
import DeclSynth.Proofs.StoredFields.Partition

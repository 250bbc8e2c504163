import TypeGraph.Choice
import TypeGraph.Edit
import TypeGraph.Name.Given
import TypeGraph.Validation
import TypeGraph.Proofs.Reach
import TypeGraph.Proofs.SubtypeOrder
import TypeGraph.Proofs.TypeMap
import TypeGraph.Proofs.Unmodified
import TypeGraph.Proofs.Certified
import TypeGraph.Proofs.Silence
import TypeGraph.Proofs.Possible
import TypeGraph.Proofs.Substitution
import TypeGraph.Proofs.Separation
import TypeGraph.Proofs.OneVerdict
import TypeGraph.Proofs.OwnNodes
import TypeGraph.Proofs.Reports
import TypeGraph.Proofs.Pointing
import TypeGraph.Proofs.Bare
import TypeGraph.Proofs.Findings
import TypeGraph.Proofs.Locality
import TypeGraph.Proofs.Annotations
import TypeGraph.Proofs.EnumValues
import TypeGraph.Proofs.PhaseOrder
import TypeGraph.Proofs.Provenance
import TypeGraph.Proofs.LegacyNames
import TypeGraph.Proofs.FirstReach
import TypeGraph.Proofs.Obligations
import TypeGraph.Proofs.FirstOccurrence
import TypeGraph.Proofs.FieldNodes
import TypeGraph.Proofs.WrittenTwice
import TypeGraph.Proofs.Implementers
import TypeGraph.Proofs.SameType
import TypeGraph.Proofs.NamePositions
import TypeGraph.Proofs.ExactLocator
import TypeGraph.Proofs.Rendering
import TypeGraph.Proofs.Rounds
import TypeGraph.Proofs.Permanent

import GraphQL.Json.Reader
import GraphQL.Node.Equality
import GraphQL.Node.View
import GraphQL.Proofs.Fragments
import GraphQL.Proofs.Outcomes
import GraphQL.Proofs.Scalars
import GraphQL.Report.Json
import GraphQL.Report.Rendering
import GraphQL.Source.Window
import GraphQL.Proofs.Reading
import GraphQL.Proofs.Acceptance
import GraphQL.Proofs.Canonical
import GraphQL.Proofs.Relocation
import GraphQL.Proofs.RoundTrip
import GraphQL.Proofs.FirstFault
import GraphQL.Proofs.Resolution
import GraphQL.Proofs.Printing
import GraphQL.Proofs.LineNumbers
import GraphQL.Proofs.Congruence
import GraphQL.Proofs.Provenance
import GraphQL.Proofs.Edits
import GraphQL.Proofs.Registries
import GraphQL.Proofs.Conflicts
import GraphQL.Proofs.LineEnds
import GraphQL.Proofs.BuiltReports
import GraphQL.Proofs.Replacement
import GraphQL.Proofs.RegistrationOrder
import GraphQL.Proofs.PositionOrder
import GraphQL.Proofs.Concatenation
import GraphQL.Proofs.Boundaries
import GraphQL.Proofs.CheckedRendering
import GraphQL.Proofs.ChildKinds
import GraphQL.Proofs.Labels
import GraphQL.Proofs.ExcerptLayout
import GraphQL.Proofs.CaretPlacement
import GraphQL.Proofs.ResponseForm
import GraphQL.Proofs.Windows
import GraphQL.Proofs.Views
import GraphQL.Proofs.LineJoining
import GraphQL.Proofs.TypeReferences

import QueryTemplates.Proofs.Definitions.Order
import QueryTemplates.Proofs.Definitions.Provenance
import QueryTemplates.Proofs.Manager.Refinement
import QueryTemplates.Proofs.Processor.Structure
import QueryTemplates.Proofs.Rendering.Failures
import QueryTemplates.Proofs.Rendering.Parameters
import QueryTemplates.Proofs.Template.Scanner
import QueryTemplates.Proofs.Text.Delimiter
import QueryTemplates.Server.Basic
import QueryTemplates.Value.Equality
import QueryTemplates.Proofs.Definitions.Identifiers
import QueryTemplates.Proofs.Server.Segments
import QueryTemplates.Proofs.Rendering.Unknown
import QueryTemplates.Proofs.Server.Reachability
import QueryTemplates.Proofs.Pattern.Faults
import QueryTemplates.Proofs.Files.Listing
import QueryTemplates.Proofs.Manager.Failures
import QueryTemplates.Proofs.Definitions.Grammar
import QueryTemplates.Proofs.Definitions.Writing
import QueryTemplates.Proofs.Definitions.Loading
import QueryTemplates.Proofs.Json.Values
import QueryTemplates.Proofs.Server.Agreement
import QueryTemplates.Proofs.Template.Mentions
import QueryTemplates.Proofs.Template.Printing
import QueryTemplates.Proofs.Rendering.Substitution
import QueryTemplates.Proofs.Manager.Stages
import QueryTemplates.Proofs.Template.LineByLine
import QueryTemplates.Proofs.Definitions.Joining
import QueryTemplates.Proofs.Files.Discovery
import QueryTemplates.Proofs.Rendering.Defaults
import QueryTemplates.Proofs.Processor.Support
import QueryTemplates.Proofs.Processor.Sets
import QueryTemplates.Proofs.Manager.LineStyle
import QueryTemplates.Proofs.Text.Unwrapping
import QueryTemplates.Proofs.Manager.Files

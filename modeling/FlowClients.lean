import FlowClients.FileTree
import FlowClients.Main
import FlowClients.Proofs.Success
import FlowClients.Proofs.Naming
import FlowClients.Proofs.Sorted
import FlowClients.Proofs.Pool.Declarations
import FlowClients.Proofs.Pool.Members
import FlowClients.Proofs.Pool.References
import FlowClients.Proofs.Pool.Checked
import FlowClients.Proofs.Accepted
import FlowClients.Proofs.Catalog.History
import FlowClients.Proofs.Extraction
import FlowClients.Proofs.Imports
import FlowClients.Proofs.FlowTypes
import FlowClients.Proofs.ReferenceResolution
import FlowClients.Proofs.Mentions
import FlowClients.Proofs.ClosedModule
import FlowClients.Proofs.Script.Evaluation
import FlowClients.Proofs.Script.Types
import FlowClients.Proofs.Script.Fields
import FlowClients.Proofs.Script.RoundTrip
import FlowClients.Proofs.Script.Soundness
import FlowClients.Proofs.ExtractedConverters
import FlowClients.Proofs.OwnNames
import FlowClients.Proofs.Answer
import FlowClients.Proofs.OutputNames
import FlowClients.Proofs.CompleteOutlines
import FlowClients.Proofs.FieldOrder
import FlowClients.Proofs.Exports
import FlowClients.Proofs.DateFields
import FlowClients.Proofs.DateImports
import FlowClients.Proofs.Pool.Reordering
import FlowClients.Proofs.FileOrder
import FlowClients.Proofs.LetterCase
import FlowClients.Proofs.Pool.FoldedNames
import FlowClients.Proofs.RequestPaths
import FlowClients.Proofs.MemberNames
import FlowClients.Proofs.CanonicalNames
import FlowClients.Proofs.ClassText
import FlowClients.Proofs.CallNames
import FlowClients.Proofs.ClassMembers
import FlowClients.Proofs.ExportNames
import FlowClients.Proofs.Files.Locations
import FlowClients.Proofs.Files.Changes
import FlowClients.Proofs.Files.Runs
import FlowClients.Proofs.Arguments
import FlowClients.Proofs.GenerateCommand
import FlowClients.Proofs.Confinement
import FlowClients.Proofs.Abandonment
import FlowClients.Proofs.ByteOrder
import FlowClients.Proofs.ImportList
import FlowClients.Proofs.Specifiers
import FlowClients.Proofs.RelativeSpecifiers
import FlowClients.Proofs.Catalog.Continuation
import FlowClients.Proofs.Layout
import FlowClients.Proofs.Parameters.Reading
import FlowClients.Proofs.Parameters.Laws
import FlowClients.Proofs.Json.Printing
import FlowClients.Proofs.Catalog.Decoding
import FlowClients.Proofs.Catalog.Decoding

import ApiShapes.Main
import ApiShapes.JsonApi.Builder
import ApiShapes.TypeSpec.Strict
import ApiShapes.Proofs.Text.JoinedLines
import ApiShapes.Proofs.Json.LiteralReading
import ApiShapes.Proofs.Text.Occurrence
import ApiShapes.Proofs.TypeSpec.Literals
import ApiShapes.Proofs.TypeSpec.ServiceBlock
import ApiShapes.Proofs.TypeSpec.RenderedLine
import ApiShapes.Proofs.TypeSpec.Legible
import ApiShapes.Proofs.TypeSpec.NamespaceMerge
import ApiShapes.Proofs.TypeSpec.SourceReading
import ApiShapes.Proofs.TypeSpec.ServiceReading
import ApiShapes.Proofs.TypeSpec.Comments
import ApiShapes.Proofs.TypeSpec.BlockReading
import ApiShapes.Proofs.TypeSpec.Roundtrip
import ApiShapes.Proofs.TypeSpec.Descriptions
import ApiShapes.Proofs.TypeSpec.ReadLine
import ApiShapes.Proofs.TypeSpec.Rereading
import ApiShapes.Proofs.TypeSpec.ServiceRoundtrip
import ApiShapes.Proofs.TypeSpec.OpenBlocks
import ApiShapes.Proofs.TypeSpec.Ownership
import ApiShapes.Proofs.Document.StepResults
import ApiShapes.Proofs.Document.PlainData
import ApiShapes.Proofs.Conversion.TolerantReading
import ApiShapes.Proofs.JsonApi.StrictReading
import ApiShapes.Proofs.Conversion.StrictAndTolerant
import ApiShapes.Proofs.Name.ModelName
import ApiShapes.Proofs.TypeExpr.LiteralUnion
import ApiShapes.Proofs.Conversion.SchemaRoundTrip
import ApiShapes.Proofs.Document.FieldLookup
import ApiShapes.Proofs.Document.FaultPaths
import ApiShapes.Proofs.Document.DumpedFields
import ApiShapes.Proofs.JsonApi.DumpReading
import ApiShapes.Proofs.Conversion.PropertyAccount
import ApiShapes.Proofs.Conversion.ForeignKind
import ApiShapes.Proofs.TypeSpec.FirstOfEachName
import ApiShapes.Proofs.Conversion.MemberAccount
import ApiShapes.Proofs.Conversion.Accounting
import ApiShapes.Proofs.Conversion.SilentReading
import ApiShapes.Proofs.OpenApi.Outline
import ApiShapes.Proofs.OpenApi.Components
import ApiShapes.Proofs.OpenApi.LoweredTypes
import ApiShapes.Proofs.OpenApi.RequiredMembers
import ApiShapes.Proofs.OpenApi.DocumentReferences
import ApiShapes.Proofs.OpenApi.MissingTargets
import ApiShapes.Proofs.Conversion.ThroughSource
import ApiShapes.Proofs.OpenApi.OperationPaths
import ApiShapes.Proofs.Files.SavedSchemas
import ApiShapes.Proofs.Codec.DecodeFaults
import ApiShapes.Proofs.Files.Detection
import ApiShapes.Proofs.Conversion.ArrayMembers
import ApiShapes.Proofs.OpenApi.RequiredNames
import ApiShapes.Proofs.CommandLine.WrittenFiles
import ApiShapes.Proofs.TypeSpec.DecoratorLines
import ApiShapes.Proofs.TypeSpec.JoinedSources
import ApiShapes.Proofs.Name.WordBoundaries
import ApiShapes.Proofs.OpenApi.TypeGrammar
import ApiShapes.Proofs.OpenApi.ReferenceWalk
import ApiShapes.Proofs.TypeSpec.BraceBalance
import ApiShapes.Proofs.JsonApi.BuiltSerializers
import ApiShapes.Proofs.TypeSpec.Layout
import ApiShapes.Proofs.TypeSpec.LineVisits
import ApiShapes.Proofs.TypeSpec.Changes
import ApiShapes.Proofs.TypeSpec.WellFormedReading
import ApiShapes.Proofs.Conversion.UnknownKinds
import ApiShapes.Proofs.Document.StructuralFaults
import ApiShapes.Proofs.JsonApi.UncheckedRecords
import ApiShapes.Proofs.JsonApi.CheckSteps
import ApiShapes.Proofs.JsonApi.CheckAnswers

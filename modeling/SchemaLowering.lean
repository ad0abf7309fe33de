import SchemaLowering.Json.Writer
import SchemaLowering.Session
import SchemaLowering.Main
import SchemaLowering.Proofs.Preparation
import SchemaLowering.Proofs.Declaration
import SchemaLowering.Proofs.Registration
import SchemaLowering.Proofs.Pass
import SchemaLowering.Proofs.LoweringSimulation
import SchemaLowering.Proofs.DeclarationSimulation
import SchemaLowering.Proofs.PassSimulation
import SchemaLowering.Proofs.OrderIndependence
import SchemaLowering.Proofs.AliasTransparency
import SchemaLowering.Proofs.DerivedDeclarations
import SchemaLowering.Proofs.InheritedMembers
import SchemaLowering.Proofs.CollectedMembers
import SchemaLowering.Proofs.FieldShapes
import SchemaLowering.Proofs.DerivedClauses
import SchemaLowering.Proofs.WrittenNames
import SchemaLowering.Proofs.DerivedNames
import SchemaLowering.Proofs.FailureReports
import SchemaLowering.Proofs.KnownSymbols
import SchemaLowering.Proofs.RelationInputs
import SchemaLowering.Proofs.WrittenTexts
import SchemaLowering.Proofs.WrittenBlocks
import SchemaLowering.Proofs.Framing
import SchemaLowering.Proofs.Acceptance
import SchemaLowering.Proofs.FieldNames
import SchemaLowering.Proofs.UnionMembers
import SchemaLowering.Proofs.DocumentGrammar
import SchemaLowering.Proofs.DocumentReading
import SchemaLowering.Proofs.AcceptedDocuments
import SchemaLowering.Proofs.DocumentWriting
import SchemaLowering.Proofs.RegisteredNames
import SchemaLowering.Proofs.FileTrees
import SchemaLowering.Proofs.FileFaults
import SchemaLowering.Proofs.SchemaFiles
import SchemaLowering.Proofs.BatchRuns
import SchemaLowering.Proofs.BatchFiles
import SchemaLowering.Proofs.RunHazards
import SchemaLowering.Proofs.BatchIsolation
import SchemaLowering.Proofs.OverriddenMembers
import SchemaLowering.Proofs.FieldClauses
import SchemaLowering.Proofs.SkippedFiles
import SchemaLowering.Proofs.NameCollisions
import SchemaLowering.Proofs.ExpressionDepth
import SchemaLowering.Proofs.UnionOutcomes
import SchemaLowering.Proofs.InterfaceBodies
import SchemaLowering.Proofs.TagLookups
import SchemaLowering.Proofs.WriteAgreement

import CatalogIngest.Artifact.CatalogNode
import CatalogIngest.Artifact.Documents
import CatalogIngest.Artifact.ManifestNode
import CatalogIngest.Artifact.Merge
import CatalogIngest.Artifact.RunResult
import CatalogIngest.Catalog.Client
import CatalogIngest.Catalog.Identifier
import CatalogIngest.Catalog.Snapshot
import CatalogIngest.Catalog.Store
import CatalogIngest.Cli.Command
import CatalogIngest.Cli.Help
import CatalogIngest.Cli.Listing
import CatalogIngest.Cli.Options
import CatalogIngest.Column
import CatalogIngest.DataModel
import CatalogIngest.DataType
import CatalogIngest.DataType.Reader
import CatalogIngest.Entity
import CatalogIngest.Entity.Kind
import CatalogIngest.EntityLink
import CatalogIngest.Failure
import CatalogIngest.Ingest.Context
import CatalogIngest.Ingest.Ingestion
import CatalogIngest.Ingest.Lineage
import CatalogIngest.Ingest.Model
import CatalogIngest.Ingest.Outcome
import CatalogIngest.Ingest.Owner
import CatalogIngest.Ingest.Run
import CatalogIngest.Ingest.Sequence
import CatalogIngest.Ingest.TestMapping
import CatalogIngest.Ingest.TestSetup
import CatalogIngest.Json.DecodeError
import CatalogIngest.Json.Decoder
import CatalogIngest.Json.Document
import CatalogIngest.Json.Fields
import CatalogIngest.Json.Numeral
import CatalogIngest.Json.Printer
import CatalogIngest.Json.Tagged
import CatalogIngest.Json.Token
import CatalogIngest.Json.Value
import CatalogIngest.Name.Dotted
import CatalogIngest.Name.Request
import CatalogIngest.Name.TableAddress
import CatalogIngest.Number.Reading
import CatalogIngest.Number.Shortest
import CatalogIngest.Project.Artifacts
import CatalogIngest.Project.Config
import CatalogIngest.Project.Environment
import CatalogIngest.Project.Files
import CatalogIngest.Project.Path
import CatalogIngest.Report
import CatalogIngest.SortedMap
import CatalogIngest.TestRequest
import CatalogIngest.TestResult
import CatalogIngest.Text.Alphanumeric
import CatalogIngest.Text.Blank
import CatalogIngest.Text.Casing
import CatalogIngest.Text.Casing.Table
import CatalogIngest.Text.CodeRange
import CatalogIngest.Text.Glob
import CatalogIngest.Text.Printable
import CatalogIngest.Text.Quoted
import CatalogIngest.Text.Split
import CatalogIngest.Time.Calendar
import CatalogIngest.Time.Instant
import CatalogIngest.Time.Timestamp
import CatalogIngest.Toml.Quoted
import CatalogIngest.Toml.Reader
import CatalogIngest.Toml.Scalar
import CatalogIngest.Toml.Tree
import CatalogIngest.Toml.Value
import CatalogIngest.Main
import CatalogIngest.Proofs.Catalog.Growth
import CatalogIngest.Proofs.Catalog.Sharing
import CatalogIngest.Proofs.Ingest.Consumption
import CatalogIngest.Proofs.Ingest.SetupPass
import CatalogIngest.Proofs.Catalog.CaseName
import CatalogIngest.Proofs.Ingest.Forwarding
import CatalogIngest.Proofs.Ingest.InMemory
import CatalogIngest.Proofs.Ingest.Delivery
import CatalogIngest.Proofs.Ingest.ModelCoverage
import CatalogIngest.Proofs.Ingest.Settlement
import CatalogIngest.Proofs.Ingest.FailureStage
import CatalogIngest.Proofs.Ingest.Accounting
import CatalogIngest.Proofs.Catalog.Registration
import CatalogIngest.Proofs.Ingest.Undisturbed
import CatalogIngest.Proofs.Ingest.LineageEdges
import CatalogIngest.Proofs.Ingest.SetupNames
import CatalogIngest.Proofs.Ingest.CaseRequests
import CatalogIngest.Proofs.Ingest.Execution
import CatalogIngest.Proofs.Ingest.Correspondence
import CatalogIngest.Proofs.Ingest.Isolation
import CatalogIngest.Proofs.Ingest.Preparation
import CatalogIngest.Proofs.Ingest.Completeness
import CatalogIngest.Proofs.Catalog.SnapshotText
import CatalogIngest.Proofs.Ingest.Reingestion
import CatalogIngest.Proofs.Cli.IngestCommand
import CatalogIngest.Proofs.Name.UniqueReading
import CatalogIngest.Proofs.Text.FirstOccurrence
import CatalogIngest.Proofs.Catalog.LinkText
import CatalogIngest.Proofs.Json.Recovery
import CatalogIngest.Proofs.Json.Records
import CatalogIngest.Proofs.Ingest.FixedAnswers
import CatalogIngest.Proofs.Ingest.NodeIndependence
import CatalogIngest.Proofs.Text.LowerCase
import CatalogIngest.Proofs.DataType.Reading
import CatalogIngest.Proofs.DataType.Arguments
import CatalogIngest.Proofs.DataType.Display
import CatalogIngest.Proofs.Ingest.SetupDue
import CatalogIngest.Proofs.Ingest.SetupRequests
import CatalogIngest.Proofs.Text.Expansion
import CatalogIngest.Proofs.Ingest.OwnerChoice
import CatalogIngest.Proofs.Ingest.CallLog
import CatalogIngest.Proofs.Ingest.RecordedResult
import CatalogIngest.Proofs.Ingest.ResultClasses
import CatalogIngest.Proofs.Ingest.CasePolling
import CatalogIngest.Proofs.Ingest.CaseBatches
import CatalogIngest.Proofs.Artifact.Merging
import CatalogIngest.Proofs.Ingest.ColumnOrder
import CatalogIngest.Proofs.Ingest.ColumnDocumentation
import CatalogIngest.Proofs.Ingest.ResolvedModels
import CatalogIngest.Proofs.Catalog.DisplayName
import CatalogIngest.Proofs.Ingest.ColumnLinks
import CatalogIngest.Proofs.Ingest.EdgeCounts
import CatalogIngest.Proofs.Ingest.ResultPerCase
import CatalogIngest.Proofs.Time.Agreement
import CatalogIngest.Proofs.Catalog.SnapshotRoundTrip
import CatalogIngest.Proofs.Ingest.Draining
import CatalogIngest.Proofs.DataType.Nesting

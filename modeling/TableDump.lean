import TableDump.Main
import TableDump.Json.Printer
import TableDump.Proofs.Config.HiddenPassword
import TableDump.Proofs.Export.ReadableDocument
import TableDump.Proofs.Export.ExcludedTables
import TableDump.Proofs.Export.RefusedModels
import TableDump.Proofs.Export.ExtractionFaults
import TableDump.Proofs.Export.RespelledExport
import TableDump.Proofs.Export.WholeDocument
import TableDump.Proofs.Export.HierarchyOrder
import TableDump.Proofs.Export.BrokenCatalog
import TableDump.Proofs.CommandLine.ExitCodes
import TableDump.Proofs.Schema.RecursiveTraversal
import TableDump.Proofs.Export.RowCap
import TableDump.Proofs.Value.TemporalText
import TableDump.Proofs.Export.DiscoveredTables
import TableDump.Proofs.Model.ResolvedColumn
import TableDump.Proofs.Model.RelationDeclarations
import TableDump.Proofs.Schema.ImportReads
import TableDump.Proofs.Schema.TableNumbers
import TableDump.Proofs.Model.EntityLookup
import TableDump.Proofs.Export.LostStreams
import TableDump.Proofs.Export.RowElements
import TableDump.Proofs.Model.ModelViolations
import TableDump.Proofs.Model.WrittenModels
import TableDump.Proofs.Config.ReloadedManager
import TableDump.Proofs.Config.ConnectionReading
import TableDump.Proofs.Schema.TraversalMoves
import TableDump.Proofs.Export.AllowedSpellings

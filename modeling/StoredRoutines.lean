import StoredRoutines.Files.Glob
import StoredRoutines.Files.System
import StoredRoutines.Json.Reader
import StoredRoutines.Json.Writer
import StoredRoutines.Number.Double
import StoredRoutines.Number.Spelled
import StoredRoutines.Text.Letters
import StoredRoutines.Text.Numeral
import StoredRoutines.Text.Utf8
import StoredRoutines.Loader
import StoredRoutines.Sql.Connection
import StoredRoutines.Sql.Identifier
import StoredRoutines.Routine.Annotations
import StoredRoutines.Record.Store
import StoredRoutines.Command.Run
import StoredRoutines.Main
import StoredRoutines.Proofs.Runs
import StoredRoutines.Proofs.Traces
import StoredRoutines.Proofs.Harmless
import StoredRoutines.Proofs.Tables
import StoredRoutines.Proofs.Grouping
import StoredRoutines.Proofs.HandedOver
import StoredRoutines.Proofs.ConnectionLoss
import StoredRoutines.Proofs.Making
import StoredRoutines.Proofs.Retries
import StoredRoutines.Proofs.Preparing
import StoredRoutines.Proofs.Rounding
import StoredRoutines.Proofs.Doubles
import StoredRoutines.Proofs.JsonNumbers
import StoredRoutines.Proofs.JsonRoundTrip
import StoredRoutines.Proofs.StoredRecords
import StoredRoutines.Proofs.StoreFile
import StoredRoutines.Proofs.ScalarBuilds
import StoredRoutines.Proofs.ScalarBatches
import StoredRoutines.Proofs.Repeating
import StoredRoutines.Proofs.Pieces
import StoredRoutines.Proofs.Reloading
import StoredRoutines.Proofs.Updates
import StoredRoutines.Proofs.Plans
import StoredRoutines.Proofs.RoundTrips
import StoredRoutines.Proofs.Protocol
import StoredRoutines.Proofs.Accounts
import StoredRoutines.Proofs.DryRuns
import StoredRoutines.Proofs.Forecasts
import StoredRoutines.Proofs.Isolation
import StoredRoutines.Proofs.CleaningUp
import StoredRoutines.Proofs.Obsolete
import StoredRoutines.Proofs.Consistency
import StoredRoutines.Proofs.Checking
import StoredRoutines.Proofs.Connections
import StoredRoutines.Proofs.StoreFaults
import StoredRoutines.Proofs.Keeping
import StoredRoutines.Proofs.Printing
import StoredRoutines.Proofs.ExitCodes
import StoredRoutines.Proofs.AnnotationLines
import StoredRoutines.Proofs.AtomicWrites
import StoredRoutines.Proofs.Declarations
import StoredRoutines.Proofs.DesignationForms
import StoredRoutines.Proofs.TemporaryTables
import StoredRoutines.Proofs.LongestKeys
import StoredRoutines.Proofs.HeaderSpellings
import StoredRoutines.Proofs.RecordedValues
import StoredRoutines.Proofs.ColumnTokens
import StoredRoutines.Proofs.Cursors
import StoredRoutines.Proofs.Literals
import StoredRoutines.Proofs.AskedSources
import StoredRoutines.Proofs.LayerFailures
import StoredRoutines.Proofs.Merging
import StoredRoutines.Proofs.Documenting
import StoredRoutines.Proofs.CommentWords
import StoredRoutines.Proofs.PathOrder
import StoredRoutines.Proofs.LineEnds
import StoredRoutines.Proofs.ConstantFiles
import StoredRoutines.Proofs.QuotedNames
import StoredRoutines.Proofs.Discovery

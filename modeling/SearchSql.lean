import SearchSql.Builder.Sending
import SearchSql.Config
import SearchSql.Execution.Watched
import SearchSql.Json.Document
import SearchSql.Json.Reader
import SearchSql.Record
import SearchSql.Proofs.CallChanges
import SearchSql.Proofs.CheckedNames
import SearchSql.Proofs.ConditionText
import SearchSql.Proofs.BuilderRuns
import SearchSql.Proofs.CompileOutcome
import SearchSql.Proofs.FailedCalls
import SearchSql.Proofs.FreshBuilders
import SearchSql.Proofs.NumeralChars
import SearchSql.Proofs.StringScan
import SearchSql.Proofs.BoundValues
import SearchSql.Proofs.PhraseLayers
import SearchSql.Proofs.LiteralReader
import SearchSql.Proofs.SentStatements
import SearchSql.Proofs.FilterClauses
import SearchSql.Proofs.WrittenRows
import SearchSql.Proofs.EscapeRoundTrip
import SearchSql.Proofs.CallOrder
import SearchSql.Proofs.ColumnLists
import SearchSql.Proofs.SelectClauses
import SearchSql.Proofs.BoundedLog
import SearchSql.Proofs.FetchedRecords
import SearchSql.Proofs.RepeatedNames
import SearchSql.Proofs.MonitorDelivery
import SearchSql.Proofs.WatchedRuns
import SearchSql.Proofs.NumeralText
import SearchSql.Proofs.NearestDoubles
import SearchSql.Proofs.RangeBounds
import SearchSql.Proofs.IntegerRanges
import SearchSql.Proofs.ConditionEdits
import SearchSql.Proofs.KeyedPairs
import SearchSql.Proofs.Parentheses
import SearchSql.Proofs.FieldLists
import SearchSql.Proofs.OutputNames
import SearchSql.Proofs.NumericReaders
import SearchSql.Proofs.IndexLists
import SearchSql.Proofs.TakenCells
import SearchSql.Proofs.RowDocuments
import SearchSql.Proofs.SwappedBounds
import SearchSql.Proofs.PredicateRules
import SearchSql.Proofs.ConditionNesting
import SearchSql.Proofs.JsonText
import SearchSql.Proofs.LongestStarts
import SearchSql.Proofs.MonitorLeaves

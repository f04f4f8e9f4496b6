import SqlWeave.Json.Reader
import SqlWeave.Query.Call
import SqlWeave.Router.Operation
import SqlWeave.Router.Scripted
import SqlWeave.Router.Transaction
import SqlWeave.Sql.Write
import SqlWeave.Proofs.Refusals
import SqlWeave.Proofs.Placeholder.Interpolation
import SqlWeave.Proofs.Placeholder.Carries
import SqlWeave.Proofs.Placeholder.Names
import SqlWeave.Proofs.Correspondence.Basic
import SqlWeave.Proofs.Correspondence.Clauses
import SqlWeave.Proofs.Correspondence.Select
import SqlWeave.Proofs.Correspondence.Write
import SqlWeave.Proofs.Correspondence.Calls
import SqlWeave.Proofs.Correspondence.Steps
import SqlWeave.Proofs.Correspondence.Rows
import SqlWeave.Proofs.Correspondence.Run
import SqlWeave.Proofs.ValueIndependence
import SqlWeave.Proofs.Placeholder.Inlining
import SqlWeave.Proofs.Placeholder.Weaving
import SqlWeave.Proofs.BindingOrder
import SqlWeave.Router.Session
import SqlWeave.Proofs.Pinning
import SqlWeave.Proofs.Bracketing
import SqlWeave.Proofs.UnfinishedTransactions
import SqlWeave.Proofs.ReadWriteSplit
import SqlWeave.Proofs.Families
import SqlWeave.Proofs.UnionRedirection
import SqlWeave.Proofs.WellFormed
import SqlWeave.Proofs.CallOrder.Agreement
import SqlWeave.Proofs.CallOrder.Runs
import SqlWeave.Proofs.CallOrder.Swaps
import SqlWeave.Proofs.CallOrder.Reordering
import SqlWeave.Proofs.UnionArms.Fragments
import SqlWeave.Proofs.UnionArms.Layout
import SqlWeave.Proofs.UnionArms.Parentheses
import SqlWeave.Proofs.UnionArms.Apart
import SqlWeave.Proofs.PredicateStructure
import SqlWeave.Proofs.Routing.Sending
import SqlWeave.Proofs.Routing.Muted
import SqlWeave.Proofs.RoutingInvariant
import SqlWeave.Proofs.StatementLog
import SqlWeave.Proofs.Routing.Turns
import SqlWeave.Proofs.RoundRobin
import SqlWeave.Proofs.KeyedInsertions
import SqlWeave.Proofs.EarlyRefusals
import SqlWeave.Proofs.Portability.SharedStyles
import SqlWeave.Proofs.Portability.Twins
import SqlWeave.Proofs.Portability.Programs
import SqlWeave.Proofs.Portability.Runs
import SqlWeave.Proofs.DialectAgreement
import SqlWeave.Proofs.Writable
import SqlWeave.Proofs.UnionAggregate
import SqlWeave.Proofs.Placeholder.Opaque
import SqlWeave.Proofs.Placeholder.Comparisons
import SqlWeave.Proofs.Placeholder.Operators
import SqlWeave.Proofs.SelectedSubqueries
import SqlWeave.Proofs.Placeholder.Filling
import SqlWeave.Proofs.Qualifiers
import SqlWeave.Proofs.SchemaNames
import SqlWeave.Proofs.RowMatching
import SqlWeave.Proofs.Reading.Names
import SqlWeave.Proofs.Reading.DocumentPaths
import SqlWeave.Proofs.Reconnecting
import SqlWeave.Proofs.RepeatedNames
import SqlWeave.Proofs.NodeNames
import SqlWeave.Proofs.InferredDialect
import SqlWeave.Proofs.ServerPages.Texts
import SqlWeave.Proofs.ServerPages.Places
import SqlWeave.Proofs.BuiltParts
import SqlWeave.Proofs.ServerPages.Statements
import SqlWeave.Proofs.BindingTable
import SqlWeave.Proofs.AliasSplitting
import SqlWeave.Proofs.DocumentAssignments
import SqlWeave.Proofs.Phrases
import SqlWeave.Proofs.Shortening

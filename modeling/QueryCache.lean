import QueryCache.Cache.Mutation
import QueryCache.Proofs.AliasedOrder
import QueryCache.Proofs.Backend
import QueryCache.Proofs.Binary64.Arithmetic
import QueryCache.Proofs.Binary64.Encoding
import QueryCache.Proofs.Binary64.Nearest
import QueryCache.Proofs.Binary64.Rounding
import QueryCache.Proofs.ChangedRows
import QueryCache.Proofs.ConcurrentChanges
import QueryCache.Proofs.DistinctRows
import QueryCache.Proofs.Fields
import QueryCache.Proofs.Filter.AliasStarts
import QueryCache.Proofs.Filter.Entries
import QueryCache.Proofs.Filter.Groups
import QueryCache.Proofs.Filter.Members
import QueryCache.Proofs.Filter.Negation
import QueryCache.Proofs.Filter.Pieces
import QueryCache.Proofs.Filter.Quoted
import QueryCache.Proofs.Filter.Regrouped
import QueryCache.Proofs.Filter.Resolved
import QueryCache.Proofs.Filter.Restricted
import QueryCache.Proofs.Filter.ThreeValued
import QueryCache.Proofs.Filter.Tree
import QueryCache.Proofs.HintedRelations
import QueryCache.Proofs.IndependentChanges
import QueryCache.Proofs.IntegerFilters
import QueryCache.Proofs.Invisible
import QueryCache.Proofs.Key.Collisions
import QueryCache.Proofs.OrderedRows
import QueryCache.Proofs.PageFlags
import QueryCache.Proofs.PageSizes
import QueryCache.Proofs.PatchedLists
import QueryCache.Proofs.Pattern.Like
import QueryCache.Proofs.Pattern.Machines
import QueryCache.Proofs.Pattern.Marks
import QueryCache.Proofs.Projection
import QueryCache.Proofs.QualifyingRows
import QueryCache.Proofs.Refetch
import QueryCache.Proofs.RegularPages
import QueryCache.Proofs.RelationRules
import QueryCache.Proofs.Remembered
import QueryCache.Proofs.ReplayedChanges
import QueryCache.Proofs.Reshape.Built
import QueryCache.Proofs.Reshape.Columns
import QueryCache.Proofs.Reshape.Flattened
import QueryCache.Proofs.Reshape.Gathered
import QueryCache.Proofs.Reshape.LastWritten
import QueryCache.Proofs.Reshape.Level
import QueryCache.Proofs.Reshape.OutputPaths
import QueryCache.Proofs.Reshape.Projected
import QueryCache.Proofs.Reshape.Reordered
import QueryCache.Proofs.Reshape.Routes
import QueryCache.Proofs.Reshape.Slots
import QueryCache.Proofs.ReshapedRows
import QueryCache.Proofs.RowFrame
import QueryCache.Proofs.SameComparison
import QueryCache.Proofs.Sameness
import QueryCache.Proofs.Select.Canonical
import QueryCache.Proofs.Select.Chains
import QueryCache.Proofs.Select.Grammar
import QueryCache.Proofs.Select.Named
import QueryCache.Proofs.Select.Parsed
import QueryCache.Proofs.Select.Plain
import QueryCache.Proofs.Select.Progress
import QueryCache.Proofs.Select.Reading
import QueryCache.Proofs.Select.Written
import QueryCache.Proofs.SelectedColumns
import QueryCache.Proofs.SingleRows
import QueryCache.Proofs.SortKinds
import QueryCache.Proofs.SortOrder
import QueryCache.Proofs.Statement.Accepted
import QueryCache.Proofs.Statement.Again
import QueryCache.Proofs.Statement.Bare
import QueryCache.Proofs.Statement.Declared
import QueryCache.Proofs.Statement.Emitted
import QueryCache.Proofs.Statement.Inserted
import QueryCache.Proofs.Statement.Laid
import QueryCache.Proofs.Statement.Leaves
import QueryCache.Proofs.Statement.Levels
import QueryCache.Proofs.Statement.Merged
import QueryCache.Proofs.Statement.Names
import QueryCache.Proofs.Statement.Needed
import QueryCache.Proofs.Statement.Numbered
import QueryCache.Proofs.Statement.ReadBack
import QueryCache.Proofs.Statement.Rebuilt
import QueryCache.Proofs.Statement.Regrown
import QueryCache.Proofs.Statement.ResponseKeys
import QueryCache.Proofs.Statement.Shown
import QueryCache.Proofs.Statement.Stars
import QueryCache.Proofs.Statement.Table
import QueryCache.Proofs.Statement.Tree
import QueryCache.Proofs.Statement.Walked
import QueryCache.Proofs.StoreCalls
import QueryCache.Proofs.StoreRuns
import QueryCache.Proofs.TaskOrder
import QueryCache.Proofs.Text
import QueryCache.Proofs.TotalOrder
import QueryCache.Proofs.UnpatchableKeys
import QueryCache.Proofs.Verbatim
import QueryCache.Proofs.WildcardRows
import QueryCache.Reshape.Merge

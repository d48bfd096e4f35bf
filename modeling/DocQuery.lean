import DocQuery.Collation.Key
import DocQuery.CommandLine.FileTree
import DocQuery.Main
import DocQuery.Options.Changes
import DocQuery.Proofs.Collation.Accents
import DocQuery.Proofs.Collation.Beginnings
import DocQuery.Proofs.Collation.Equality
import DocQuery.Proofs.Collation.Groups
import DocQuery.Proofs.Collation.Key
import DocQuery.Proofs.Collation.Numbers
import DocQuery.Proofs.Collation.Sameness
import DocQuery.Proofs.Collation.Sorting
import DocQuery.Proofs.CommandLine.LineNumbers
import DocQuery.Proofs.Json.ReadBack
import DocQuery.Proofs.Options.Counts
import DocQuery.Proofs.Selector.Acceptance
import DocQuery.Proofs.Selector.Canonical
import DocQuery.Proofs.Selector.Conjunction
import DocQuery.Proofs.Selector.Expansion
import DocQuery.Proofs.Selector.FieldValues
import DocQuery.Proofs.Selector.Indistinct
import DocQuery.Proofs.Selector.PathTexts
import DocQuery.Proofs.Selector.Refusal
import DocQuery.Proofs.Selector.Remainder
import DocQuery.Proofs.Selector.Reparse
import DocQuery.Proofs.Selector.Zeros
import DocQuery.Proofs.View.BoundValues
import DocQuery.Proofs.View.Consistency
import DocQuery.Proofs.View.Dependence
import DocQuery.Proofs.View.DocumentBounds
import DocQuery.Proofs.View.DocumentKinds
import DocQuery.Proofs.View.KeyForms
import DocQuery.Proofs.View.KeyLists
import DocQuery.Proofs.View.KeyRange
import DocQuery.Proofs.View.Limits
import DocQuery.Proofs.View.RangeAdvice
import DocQuery.Proofs.View.ReducedRows
import DocQuery.Selector.Decode

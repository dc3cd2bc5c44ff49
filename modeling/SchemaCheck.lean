import SchemaCheck.CommandLine.Directory
import SchemaCheck.Main
import SchemaCheck.Proofs.Json.DistinctKeys
import SchemaCheck.Proofs.Json.Members
import SchemaCheck.Proofs.Json.Nesting
import SchemaCheck.Proofs.Json.Order
import SchemaCheck.Proofs.Json.Parsed
import SchemaCheck.Proofs.Binary64.Exact
import SchemaCheck.Proofs.Binary64.Nearest
import SchemaCheck.Proofs.Binary64.Multiples
import SchemaCheck.Proofs.Decimal.Shortest
import SchemaCheck.Proofs.Pointer
import SchemaCheck.Proofs.Json.Location
import SchemaCheck.Proofs.Json.SameValue
import SchemaCheck.Proofs.Json.Numerals
import SchemaCheck.Proofs.Json.Spelling
import SchemaCheck.Proofs.Json.Lexing
import SchemaCheck.Proofs.Json.Rereading
import SchemaCheck.Proofs.Validator.Children
import SchemaCheck.Proofs.Validator.Evaluation
import SchemaCheck.Proofs.Validator.Acceptance
import SchemaCheck.Proofs.Validator.Defaults
import SchemaCheck.Proofs.Validator.WellFormed
import SchemaCheck.Proofs.Validator.ObjectOutput
import SchemaCheck.Proofs.Validator.Steady
import SchemaCheck.Proofs.Validator.Issues
import SchemaCheck.Proofs.Validator.IssuePlaces
import SchemaCheck.Proofs.Validator.Appending
import SchemaCheck.Proofs.Validator.Export
import SchemaCheck.Proofs.Schema.Result
import SchemaCheck.Proofs.Schema.Form
import SchemaCheck.Proofs.Schema.Children
import SchemaCheck.Proofs.Schema.Context
import SchemaCheck.Proofs.Schema.Congruence
import SchemaCheck.Proofs.Schema.Calls
import SchemaCheck.Proofs.Schema.Cycles
import SchemaCheck.Proofs.Schema.Depth
import SchemaCheck.Proofs.Schema.Rules
import SchemaCheck.Proofs.Schema.Reading
import SchemaCheck.Proofs.Schema.ExactReading
import SchemaCheck.Proofs.Schema.Plain
import SchemaCheck.Proofs.Schema.PlainForms
import SchemaCheck.Proofs.Schema.PlainCompile
import SchemaCheck.Proofs.Schema.DistinctRules
import SchemaCheck.Proofs.Schema.Parts
import SchemaCheck.Proofs.Schema.WellFormed
import SchemaCheck.Proofs.Schema.Height
import SchemaCheck.Proofs.Schema.Reread
import SchemaCheck.Proofs.Schema.Restore
import SchemaCheck.Proofs.Schema.Merging
import SchemaCheck.Proofs.Schema.MergedUnion
import SchemaCheck.Proofs.Schema.Outcome
import SchemaCheck.Proofs.Schema.Agreement
import SchemaCheck.Proofs.Schema.Modifiers
import SchemaCheck.Proofs.Schema.Recompile
import SchemaCheck.Proofs.Schema.RecompileUntyped
import SchemaCheck.Proofs.Schema.Kept
import SchemaCheck.Proofs.Schema.RoundTrip
import SchemaCheck.Proofs.Schema.TypeLists
import SchemaCheck.Proofs.Schema.TypeUnion
import SchemaCheck.Proofs.Schema.TypedEnums
import SchemaCheck.Proofs.Schema.ArrayAlternatives
import SchemaCheck.Proofs.Schema.Strict
import SchemaCheck.Proofs.Schema.SelfContained
import SchemaCheck.Proofs.Schema.Canonical
import SchemaCheck.Proofs.Schema.CanonicalForms
import SchemaCheck.Proofs.Schema.CanonicalRoundTrip
import SchemaCheck.Proofs.Schema.NullSpellings
import SchemaCheck.Proofs.Schema.Keywords
import SchemaCheck.Proofs.Schema.OtherDocuments
import SchemaCheck.Proofs.Schema.Unread
import SchemaCheck.Proofs.Schema.Embedding
import SchemaCheck.Proofs.Schema.Required
import SchemaCheck.Proofs.Schema.Inlining
import SchemaCheck.Proofs.Schema.Transparency
import SchemaCheck.Proofs.Schema.Independence
import SchemaCheck.Proofs.Schema.AdditionalKeys
import SchemaCheck.Proofs.Schema.IntegerNodes
import SchemaCheck.Proofs.Schema.Asking
import SchemaCheck.Proofs.Schema.ErrorPlaces
import SchemaCheck.Proofs.CommandLine.Surroundings
import SchemaCheck.Proofs.CommandLine.Runs
import SchemaCheck.Proofs.Json.Paths
import SchemaCheck.Proofs.Schema.Moves
import SchemaCheck.Proofs.Format.Scanners
import SchemaCheck.Proofs.Format.Calendar

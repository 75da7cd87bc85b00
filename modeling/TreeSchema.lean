import TreeSchema.Definition.OfText
import TreeSchema.Files.Tree
import TreeSchema.Main
import TreeSchema.Proofs.Matching.Equations
import TreeSchema.Proofs.Matching.Openings
import TreeSchema.Proofs.Json.Height
import TreeSchema.Proofs.Matching.Conformance
import TreeSchema.Proofs.Query.References
import TreeSchema.Proofs.Definition.Groups
import TreeSchema.Proofs.Matching.Compositions
import TreeSchema.Proofs.Definition.Meaning
import TreeSchema.Proofs.Entries
import TreeSchema.Proofs.Json.Keyed
import TreeSchema.Proofs.Schema.Keyed
import TreeSchema.Proofs.Definition.Carries
import TreeSchema.Proofs.Schema.Flawless
import TreeSchema.Proofs.Definition.Keyed
import TreeSchema.Proofs.Registry.History
import TreeSchema.Proofs.Registry.Reach
import TreeSchema.Proofs.Matching.Widening
import TreeSchema.Proofs.Query.Locality
import TreeSchema.Proofs.Binary64.Integral
import TreeSchema.Proofs.Json.Alike
import TreeSchema.Proofs.Matching.Goals
import TreeSchema.Proofs.Matching.Likeness
import TreeSchema.Proofs.Matching.Termination
import TreeSchema.Proofs.Matching.Depth
import TreeSchema.Proofs.Matching.Simulation
import TreeSchema.Proofs.Query.Inheritance
import TreeSchema.Proofs.Matching.OpenWorld
import TreeSchema.Proofs.Registry.Import
import TreeSchema.Proofs.Definition.References
import TreeSchema.Proofs.Query.Inline
import TreeSchema.Proofs.Definition.Defects
import TreeSchema.Proofs.Query.Ancestry
import TreeSchema.Proofs.Pattern
import TreeSchema.Proofs.EcmaScript.Nodes
import TreeSchema.Proofs.Regex.Search
import TreeSchema.Proofs.EcmaScript.Tags
import TreeSchema.Proofs.Regex.Words
import TreeSchema.Proofs.Definition.Normal
import TreeSchema.Proofs.Json.Equivalence
import TreeSchema.Proofs.Traversal
import TreeSchema.Proofs.Regex.FullMatch
import TreeSchema.Proofs.Binary64.Value
import TreeSchema.Proofs.Json.Numbers
import TreeSchema.Proofs.Schema.Bounds
import TreeSchema.Proofs.Registry.Outcomes
import TreeSchema.Proofs.Query.Overwriting
import TreeSchema.Proofs.Matching.Relaxation
import TreeSchema.Proofs.Matching.Rearrangement
import TreeSchema.Proofs.Schema.Places
import TreeSchema.Proofs.Query.Dangling
import TreeSchema.Proofs.Definition.Indifferent
import TreeSchema.Proofs.Definition.Kept
import TreeSchema.Proofs.Registry.KeptReferences
import TreeSchema.Proofs.Query.Discriminants
import TreeSchema.Proofs.Schema.FirstFlaw
import TreeSchema.Proofs.Definition.Errors
import TreeSchema.Proofs.Definition.Rewording
import TreeSchema.Proofs.Registry.Texts
import TreeSchema.Proofs.Text.Lines
import TreeSchema.Proofs.Text.Split
import TreeSchema.Proofs.Text.Decimal
import TreeSchema.Proofs.Json.Pointers
import TreeSchema.Proofs.Files.Tree
import TreeSchema.Proofs.CommandLine.Preparation
import TreeSchema.Proofs.CommandLine.Documents
import TreeSchema.Proofs.CommandLine.Counting
import TreeSchema.Proofs.Matching.Trail
import TreeSchema.Proofs.Definition.Writing
import TreeSchema.Proofs.Definition.Completeness
import TreeSchema.Proofs.Json.Writing
import TreeSchema.Proofs.Registry.Exporting
import TreeSchema.Proofs.EcmaScript.Source

import Assay.Config.File
import Assay.Fixture
import Assay.Sample
import Assay.Sample.Walk
import Assay.Script
import Assay.Version
import Assay.Proofs.Matching.Path
import Assay.Proofs.Matching.Search
import Assay.Proofs.Matching.Placement
import Assay.Proofs.Matching.Augmentation
import Assay.Proofs.Matching.Greedy
import Assay.Proofs.Matching.Rounds
import Assay.Proofs.Matching.Optimality
import Assay.Proofs.Matching.Order
import Assay.Proofs.Matching.Verdict
import Assay.Proofs.Matching.Account
import Assay.Proofs.Difference.Script
import Assay.Proofs.Difference.Alignment
import Assay.Proofs.Markup.Scan
import Assay.Proofs.Markup.Roundtrip
import Assay.Proofs.Lexing.Place
import Assay.Proofs.Lexing.Scan
import Assay.Proofs.Lexing.Lines
import Assay.Proofs.Lexing.Reprint
import Assay.Proofs.Lexing.Closing
import Assay.Proofs.Lexing.Cover
import Assay.Proofs.Edits.Order
import Assay.Proofs.Edits.Substitution
import Assay.Proofs.Runs.Calls
import Assay.Proofs.Runs.Faults
import Assay.Proofs.Runs.Modes
import Assay.Proofs.Fixtures.Markers
import Assay.Proofs.Fixtures.Fixes
import Assay.Proofs.Workspaces.Effects
import Assay.Proofs.Workspaces.Sessions
import Assay.Proofs.Workspaces.Consistency
import Assay.Proofs.Workspaces.History
import Assay.Proofs.Difference.Hunks
import Assay.Proofs.Difference.Blocks
import Assay.Proofs.Lexing.Insertion
import Assay.Proofs.Samples.Fields
import Assay.Proofs.Samples.Flags
import Assay.Proofs.Lines.Split
import Assay.Proofs.Lines.Numbers
import Assay.Proofs.Difference.Layout
import Assay.Proofs.Difference.Mismatch
import Assay.Proofs.Difference.Signs
import Assay.Proofs.Matching.Absence
import Assay.Proofs.Runs.Findings
import Assay.Proofs.Runs.Gate
import Assay.Proofs.Fixtures.Agreement
import Assay.Proofs.Runs.Release
import Assay.Proofs.Workspaces.Disposal
import Assay.Proofs.Workspaces.Names
import Assay.Proofs.Numbers.Range
import Assay.Proofs.Configs.Settings
import Assay.Proofs.Configs.Complaints
import Assay.Proofs.Numbers.Digits
import Assay.Proofs.Lines.Locations
import Assay.Proofs.Markup.Delimiters
import Assay.Proofs.Markup.Grammar
import Assay.Proofs.Versions.Order
import Assay.Proofs.Configs.Usability
import Assay.Proofs.Workspaces.Batches
import Assay.Proofs.Configs.Documents
import Assay.Proofs.Documents.Merging
import Assay.Proofs.Versions.Detection
import Assay.Proofs.Matching.Exchange
import Assay.Proofs.Matching.Preference
import Assay.Proofs.Lexing.Freshness
import Assay.Proofs.Markup.Contact
import Assay.Proofs.Samples.Shape
import Assay.Proofs.Samples.Walk
import Assay.Proofs.Samples.Quoting

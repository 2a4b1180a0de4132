import WorkflowLint.Text.Search
import WorkflowLint.Text.Space
import WorkflowLint.Text.Case
import WorkflowLint.Text.Word
import WorkflowLint.Xml.Reader
import WorkflowLint.Xml.Place
import WorkflowLint.Kind
import WorkflowLint.Sorted
import WorkflowLint.Facts
import WorkflowLint.Issue
import WorkflowLint.Rule.Catalogue
import WorkflowLint.Analysis
import WorkflowLint.Decimal.Fixed
import WorkflowLint.Decimal.Literal
import WorkflowLint.Json.Decode
import WorkflowLint.Config.Encoding
import WorkflowLint.Project.Encoding
import WorkflowLint.Analysis.Encoding
import WorkflowLint.Report
import WorkflowLint.Config.File
import WorkflowLint.Analysis.File
import WorkflowLint.CommandLine.Run
import WorkflowLint.Main
import WorkflowLint.Proofs.Json.Numeral
import WorkflowLint.Proofs.Json.Quoted
import WorkflowLint.Proofs.Json.RoundTrip
import WorkflowLint.Proofs.Analysis.Encoding
import WorkflowLint.Proofs.Report.Json
import WorkflowLint.Proofs.Report.Html
import WorkflowLint.Proofs.RuleChoice
import WorkflowLint.Proofs.Kind
import WorkflowLint.Proofs.Rule.MissingHandling
import WorkflowLint.Proofs.Analysis.ScoreLaw
import WorkflowLint.Proofs.Xml.Skeleton
import WorkflowLint.Proofs.Analysis.Skeleton
import WorkflowLint.Proofs.Thresholds
import WorkflowLint.Proofs.Rule.Siblings
import WorkflowLint.Proofs.Rule.Wrapper
import WorkflowLint.Proofs.Project
import WorkflowLint.Proofs.CommandLine.Outcome
import WorkflowLint.Proofs.Report.Entries
import WorkflowLint.Proofs.Report.Issues
import WorkflowLint.Proofs.Report.Styles
import WorkflowLint.Proofs.Recommendation
import WorkflowLint.Proofs.Rule.EmptyParts
import WorkflowLint.Proofs.Url
import WorkflowLint.Proofs.Rule.CaughtLogs
import WorkflowLint.Proofs.Rule.Mentions
import WorkflowLint.Proofs.Rule.Naming
import WorkflowLint.Proofs.Purpose
import WorkflowLint.Proofs.Xml.Sibling
import WorkflowLint.Proofs.Rule.HurriedClicks
import WorkflowLint.Proofs.Xml.Ancestor
import WorkflowLint.Proofs.Rule.Nesting
import WorkflowLint.Proofs.Xml.Lawful
import WorkflowLint.Proofs.Namespaces
import WorkflowLint.Proofs.Activity
import WorkflowLint.Proofs.FileSystem
import WorkflowLint.Proofs.CommandLine.Collection
import WorkflowLint.Proofs.Config.Discovery
import WorkflowLint.Proofs.Analysis.Metadata
import WorkflowLint.Proofs.Path.Spelling
import WorkflowLint.Proofs.FileSystem.Address
import WorkflowLint.Proofs.CommandLine.Spelling
import WorkflowLint.Proofs.Report.Markdown
import WorkflowLint.Proofs.Document.Search
import WorkflowLint.Proofs.Report.Entities
import WorkflowLint.Proofs.Document.Spelling
import WorkflowLint.Proofs.Json.Rewording
import WorkflowLint.Proofs.Config.Encoding
import WorkflowLint.Proofs.Report.Groups
import WorkflowLint.Proofs.Rule.HollowParts

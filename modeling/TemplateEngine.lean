import TemplateEngine.Text.Case
import TemplateEngine.Text.Scan
import TemplateEngine.Text.Quoted
import TemplateEngine.Number.Decimal
import TemplateEngine.Value.Json
import TemplateEngine.Artifact.Parser
import TemplateEngine.Execution.Run
import TemplateEngine.Directive.Block
import TemplateEngine.Directive.Island
import TemplateEngine.Directive.Unterminated
import TemplateEngine.Directive.Include
import TemplateEngine.Digest.Blake3
import TemplateEngine.Files.Change
import TemplateEngine.Main
import TemplateEngine.Proofs.Artifact.Printer
import TemplateEngine.Proofs.Artifact.Readings
import TemplateEngine.Proofs.Artifact.StatementReadings
import TemplateEngine.Proofs.Artifact.Spelling
import TemplateEngine.Proofs.Artifact.TokenEnds
import TemplateEngine.Proofs.Artifact.LexSteps
import TemplateEngine.Proofs.Artifact.Divisions
import TemplateEngine.Proofs.Artifact.Scans
import TemplateEngine.Proofs.Artifact.PrintedTokens
import TemplateEngine.Proofs.Artifact.PrintedStatements
import TemplateEngine.Proofs.Artifact.PrintedText
import TemplateEngine.Proofs.Artifact.RoundTrip
import TemplateEngine.Proofs.Artifact.Mentions
import TemplateEngine.Proofs.Artifact.Outcomes
import TemplateEngine.Proofs.Artifact.Seams
import TemplateEngine.Proofs.Artifact.Joining
import TemplateEngine.Proofs.Execution.Frames
import TemplateEngine.Proofs.Execution.TwoRuns
import TemplateEngine.Proofs.Execution.Relevance
import TemplateEngine.Proofs.Compilation.DepthLimit
import TemplateEngine.Proofs.Directive.BlockReadings
import TemplateEngine.Proofs.Directive.References
import TemplateEngine.Proofs.Directive.RemainingReferences
import TemplateEngine.Proofs.Directive.Inheritance
import TemplateEngine.Proofs.Files.IsTree
import TemplateEngine.Proofs.Files.Filing
import TemplateEngine.Proofs.Cache.Names
import TemplateEngine.Proofs.Files.Changes
import TemplateEngine.Proofs.Files.Growth
import TemplateEngine.Proofs.Compilation.Reading
import TemplateEngine.Proofs.Compilation.Aliases
import TemplateEngine.Proofs.Engine.History
import TemplateEngine.Proofs.Engine.Coherence
import TemplateEngine.Proofs.Cache.Effects
import TemplateEngine.Proofs.Cache.Contents
import TemplateEngine.Proofs.Cache.Vacancy
import TemplateEngine.Proofs.Engine.Transparency
import TemplateEngine.Proofs.Engine.SharedArtifacts
import TemplateEngine.Proofs.Engine.Refreshing
import TemplateEngine.Proofs.Engine.Failures
import TemplateEngine.Proofs.Engine.Ledger
import TemplateEngine.Proofs.Engine.Bookkeeping
import TemplateEngine.Proofs.Directive.PathReadings
import TemplateEngine.Proofs.Execution.PathValues
import TemplateEngine.Proofs.Execution.Sequencing
import TemplateEngine.Proofs.Directive.PathArtifact
import TemplateEngine.Proofs.Compilation.PathTemplates
import TemplateEngine.Proofs.Artifact.Segments
import TemplateEngine.Proofs.Directive.Islands
import TemplateEngine.Proofs.Directive.CodeText
import TemplateEngine.Proofs.Artifact.EchoedTokens
import TemplateEngine.Proofs.Artifact.EchoedText
import TemplateEngine.Proofs.Execution.Echoing
import TemplateEngine.Proofs.Directive.Openings
import TemplateEngine.Proofs.Compilation.Strictness
import TemplateEngine.Proofs.Execution.Isolation
import TemplateEngine.Proofs.Text.Division
import TemplateEngine.Proofs.Directive.Closings
import TemplateEngine.Proofs.Directive.Inclusions
import TemplateEngine.Proofs.Compilation.Gluing
import TemplateEngine.Proofs.Compilation.ExpansionSteps
import TemplateEngine.Proofs.Compilation.OpenTemplates
import TemplateEngine.Proofs.Cache.Flattening
import TemplateEngine.Proofs.Json.Reading
import TemplateEngine.Proofs.Value.RoundTrip
import TemplateEngine.Proofs.Artifact.LoneTokens
import TemplateEngine.Proofs.Artifact.Spans
import TemplateEngine.Proofs.Directive.AccessChains
import TemplateEngine.Proofs.Directive.Arrowed
import TemplateEngine.Proofs.Directive.Sigils
import TemplateEngine.Proofs.Number.Rounding
import TemplateEngine.Proofs.Artifact.Partings
import TemplateEngine.Proofs.Artifact.Continuations
import TemplateEngine.Proofs.Artifact.MemberAccess
import TemplateEngine.Proofs.Directive.SearchPlaces
import TemplateEngine.Proofs.Directive.UnclosedText
import TemplateEngine.Proofs.Compilation.PlainTexts
import TemplateEngine.Proofs.Compilation.ReportedLines
import TemplateEngine.Proofs.Text.Separation
import TemplateEngine.Proofs.Entries
import TemplateEngine.Proofs.Directive.BlockChanges
import TemplateEngine.Proofs.Execution.Entities
import TemplateEngine.Proofs.Execution.Objects
import TemplateEngine.Proofs.Artifact.ReadNames
import TemplateEngine.Proofs.Execution.Binding

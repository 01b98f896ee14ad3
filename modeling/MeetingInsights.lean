import MeetingInsights.Backend
import MeetingInsights.Catalog
import MeetingInsights.Chat.Client
import MeetingInsights.Chat.Completion
import MeetingInsights.Chat.Rejection
import MeetingInsights.Chat.Selection
import MeetingInsights.Chat.Url
import MeetingInsights.CommandLine.Execution
import MeetingInsights.CommandLine.Failure
import MeetingInsights.CommandLine.Help
import MeetingInsights.CommandLine.Invocation
import MeetingInsights.CommandLine.Parameter
import MeetingInsights.Config.Basic
import MeetingInsights.Config.Document
import MeetingInsights.Config.Environment
import MeetingInsights.Config.File
import MeetingInsights.Config.Summary
import MeetingInsights.Config.Validation
import MeetingInsights.Database.Address
import MeetingInsights.Database.Connections
import MeetingInsights.Environment.Assignments
import MeetingInsights.Environment.Value
import MeetingInsights.Error
import MeetingInsights.Finding
import MeetingInsights.Ingest
import MeetingInsights.Job
import MeetingInsights.Json.Doc
import MeetingInsights.Json.Fields
import MeetingInsights.Json.Numeral
import MeetingInsights.Json.Printer
import MeetingInsights.Json.Reader
import MeetingInsights.Json.Value
import MeetingInsights.Logging
import MeetingInsights.Main
import MeetingInsights.Meeting
import MeetingInsights.Merge
import MeetingInsights.Notice
import MeetingInsights.Number.Binary
import MeetingInsights.Number.Decimal
import MeetingInsights.Number.Shortest
import MeetingInsights.Pool.Basic
import MeetingInsights.Pool.Broadcast
import MeetingInsights.Pool.Event
import MeetingInsights.Pool.Settings
import MeetingInsights.Program
import MeetingInsights.Prompt
import MeetingInsights.Rehearsal.Script
import MeetingInsights.Rehearsal.Stage
import MeetingInsights.Store
import MeetingInsights.Text.Alphanumeric
import MeetingInsights.Text.Blank
import MeetingInsights.Text.CaseTable
import MeetingInsights.Text.Ellipsis
import MeetingInsights.Text.Lowercase
import MeetingInsights.Text.Quoted
import MeetingInsights.Text.Unprintable
import MeetingInsights.Theme.Name
import MeetingInsights.Timestamp
import MeetingInsights.Uuid
import MeetingInsights.Wire.Catalog
import MeetingInsights.Wire.Config
import MeetingInsights.Wire.Envelope
import MeetingInsights.Wire.Finding
import MeetingInsights.Wire.Meeting
import MeetingInsights.Yaml.Cursor
import MeetingInsights.Yaml.Lexer
import MeetingInsights.Yaml.Node
import MeetingInsights.Yaml.Scalar
import MeetingInsights.Yaml.Token
import MeetingInsights.Yaml.Value
import MeetingInsights.Proofs.Exchanges
import MeetingInsights.Proofs.MergeExchanges
import MeetingInsights.Proofs.JobExchanges
import MeetingInsights.Proofs.Statuses
import MeetingInsights.Proofs.BackendRecords
import MeetingInsights.Proofs.JobsUnderWay
import MeetingInsights.Proofs.MeetingStories
import MeetingInsights.Proofs.PoolExtraction
import MeetingInsights.Proofs.StatusTransitions
import MeetingInsights.Proofs.AttemptRuns
import MeetingInsights.Proofs.MergeSequence
import MeetingInsights.Proofs.ReachableStores
import MeetingInsights.Proofs.Interleavings
import MeetingInsights.Proofs.ThemeResolution
import MeetingInsights.Proofs.ConcurrentThemes
import MeetingInsights.Proofs.MergeDecisions
import MeetingInsights.Proofs.JobRuns
import MeetingInsights.Proofs.IdentifierTexts
import MeetingInsights.Proofs.LaterStores
import MeetingInsights.Proofs.RosterReferences
import MeetingInsights.Proofs.JobAccounts
import MeetingInsights.Proofs.StopSignals
import MeetingInsights.Proofs.JobClosings
import MeetingInsights.Proofs.Shutdown
import MeetingInsights.Proofs.SharedTables
import MeetingInsights.Proofs.MergeOutcomes
import MeetingInsights.Proofs.MergeLengths
import MeetingInsights.Proofs.MergeAccounts
import MeetingInsights.Proofs.ProgramsInTurn
import MeetingInsights.Proofs.MergesAgree
import MeetingInsights.Proofs.FinalRecords
import MeetingInsights.Proofs.Admissions
import MeetingInsights.Proofs.Quiescence
import MeetingInsights.Proofs.Requeueing
import MeetingInsights.Proofs.Recovery
import MeetingInsights.Proofs.NormalNames
import MeetingInsights.Proofs.MergeParts
import MeetingInsights.Proofs.ShortenedTexts
import MeetingInsights.Proofs.ServicesSideBySide
import MeetingInsights.Proofs.MeetingRows
import MeetingInsights.Proofs.MeetingRecords
import MeetingInsights.Proofs.StoredTexts
import MeetingInsights.Proofs.StoreIntegrity
import MeetingInsights.Proofs.DisturbedMerges
import MeetingInsights.Proofs.JobConfines
import MeetingInsights.Proofs.MatchedEvidence
import MeetingInsights.Proofs.DecimalDigits
import MeetingInsights.Proofs.JsonLiterals
import MeetingInsights.Proofs.JsonDocuments
import MeetingInsights.Proofs.JsonStability
import MeetingInsights.Proofs.RecordFields
import MeetingInsights.Proofs.TimestampTexts
import MeetingInsights.Proofs.MeetingTexts
import MeetingInsights.Proofs.CatalogTexts
import MeetingInsights.Proofs.FindingTexts
import MeetingInsights.Proofs.ModelTexts
import MeetingInsights.Proofs.IntakeRuns
import MeetingInsights.Proofs.IntakeStages
import MeetingInsights.Proofs.IntakeProgress
import MeetingInsights.Proofs.JobWaits
import MeetingInsights.Proofs.IntakeInTurn
import MeetingInsights.Proofs.IntakeReports
import MeetingInsights.Proofs.RefusedCalls
import MeetingInsights.Proofs.OfferRounds
import MeetingInsights.Proofs.RosterLines
import MeetingInsights.Proofs.JsonTokens
import MeetingInsights.Proofs.JsonGrammar
import MeetingInsights.Proofs.TrimmedTexts
import MeetingInsights.Proofs.CodeFences
import MeetingInsights.Proofs.TypedFields
import MeetingInsights.Proofs.MalformedFindings
import MeetingInsights.Proofs.WholeAnswers
import MeetingInsights.Proofs.ChatReplies
import MeetingInsights.Proofs.AsciiTexts
import MeetingInsights.Proofs.IdentifierSpellings
import MeetingInsights.Proofs.ReferenceSpellings
import MeetingInsights.Proofs.SettledNames
import MeetingInsights.Proofs.ThemeVariants
import MeetingInsights.Proofs.PoolCreation
import MeetingInsights.Proofs.EnvironmentOverrides
import MeetingInsights.Proofs.ConfiguredNumbers
import MeetingInsights.Proofs.ConnectionLifetimes

import GraphAnswers.Catalog
import GraphAnswers.Database
import GraphAnswers.Database.Archive
import GraphAnswers.Digest.Crc32
import GraphAnswers.Digest.Hex
import GraphAnswers.Digest.Sha256
import GraphAnswers.Dump.Discovery
import GraphAnswers.Dump.Filter
import GraphAnswers.Dump.Lines
import GraphAnswers.Dump.Scan
import GraphAnswers.Dump.Token
import GraphAnswers.Element
import GraphAnswers.Engine
import GraphAnswers.Evaluation
import GraphAnswers.Evaluation.Cases
import GraphAnswers.Evaluation.Json
import GraphAnswers.Evaluation.Single
import GraphAnswers.Failure
import GraphAnswers.FileTree
import GraphAnswers.FileTree.Obstacle
import GraphAnswers.Gzip.Bits
import GraphAnswers.Gzip.Inflate
import GraphAnswers.Gzip.Member
import GraphAnswers.Gzip.PrefixCode
import GraphAnswers.Index
import GraphAnswers.Index.Cache
import GraphAnswers.Index.Memory
import GraphAnswers.Index.Queries
import GraphAnswers.Index.Stored
import GraphAnswers.Language
import GraphAnswers.Main
import GraphAnswers.Migration
import GraphAnswers.Migration.Execution
import GraphAnswers.Migration.Standard
import GraphAnswers.Program
import GraphAnswers.Program.Arguments
import GraphAnswers.Program.Console
import GraphAnswers.Program.Evaluate
import GraphAnswers.Program.Ingest
import GraphAnswers.Program.Log
import GraphAnswers.Program.Statistics
import GraphAnswers.Program.Variables
import GraphAnswers.Proofs.Agreement
import GraphAnswers.Proofs.AppliedOnce
import GraphAnswers.Proofs.AskedFields
import GraphAnswers.Proofs.AskedLabels
import GraphAnswers.Proofs.BareWords
import GraphAnswers.Proofs.Bookkeeping
import GraphAnswers.Proofs.Cache
import GraphAnswers.Proofs.CachedSet
import GraphAnswers.Proofs.Cleanup
import GraphAnswers.Proofs.Convergence
import GraphAnswers.Proofs.Discovery
import GraphAnswers.Proofs.DumpPaths
import GraphAnswers.Proofs.Elsewhere
import GraphAnswers.Proofs.Fingerprint
import GraphAnswers.Proofs.FirstTopics
import GraphAnswers.Proofs.Freshness
import GraphAnswers.Proofs.FrontEnds
import GraphAnswers.Proofs.GzipMembers
import GraphAnswers.Proofs.Handles
import GraphAnswers.Proofs.IndexFile
import GraphAnswers.Proofs.IndexPlaces
import GraphAnswers.Proofs.Inflate
import GraphAnswers.Proofs.Ingest
import GraphAnswers.Proofs.IngestProgram
import GraphAnswers.Proofs.IngestRuns
import GraphAnswers.Proofs.Inquiries
import GraphAnswers.Proofs.Intake
import GraphAnswers.Proofs.Integrity
import GraphAnswers.Proofs.Isolation
import GraphAnswers.Proofs.KeptCaches
import GraphAnswers.Proofs.KeywordCase
import GraphAnswers.Proofs.Labels
import GraphAnswers.Proofs.Layout
import GraphAnswers.Proofs.Lines
import GraphAnswers.Proofs.Lookups
import GraphAnswers.Proofs.Margins
import GraphAnswers.Proofs.NewIndex
import GraphAnswers.Proofs.NumberAgreement
import GraphAnswers.Proofs.ObjectCap
import GraphAnswers.Proofs.Octets
import GraphAnswers.Proofs.OneIndex
import GraphAnswers.Proofs.OnePredicate
import GraphAnswers.Proofs.Outcomes
import GraphAnswers.Proofs.OwnLabels
import GraphAnswers.Proofs.PersonSplit
import GraphAnswers.Proofs.PlainRows
import GraphAnswers.Proofs.Programs
import GraphAnswers.Proofs.QuestionLayout
import GraphAnswers.Proofs.QuestionForms
import GraphAnswers.Proofs.RecentLookups
import GraphAnswers.Proofs.Registry
import GraphAnswers.Proofs.Removals
import GraphAnswers.Proofs.Repetitions
import GraphAnswers.Proofs.Replies
import GraphAnswers.Proofs.Requests
import GraphAnswers.Proofs.Resuming
import GraphAnswers.Proofs.ScannedParts
import GraphAnswers.Proofs.ScriptEffects
import GraphAnswers.Proofs.Scripts
import GraphAnswers.Proofs.SortedMap
import GraphAnswers.Proofs.SpelledTypes
import GraphAnswers.Proofs.Starring
import GraphAnswers.Proofs.Statement
import GraphAnswers.Proofs.SteadyFiles
import GraphAnswers.Proofs.StoreState
import GraphAnswers.Proofs.Truncations
import GraphAnswers.Proofs.TypeDirections
import GraphAnswers.Proofs.TypeNames
import GraphAnswers.Proofs.Unions
import GraphAnswers.Proofs.UntaggedTexts
import GraphAnswers.Proofs.Upkeep
import GraphAnswers.Proofs.ValueLabels
import GraphAnswers.Proofs.Whitelist
import GraphAnswers.Proofs.Wording
import GraphAnswers.Proofs.WrittenTriples
import GraphAnswers.Question
import GraphAnswers.Question.Form
import GraphAnswers.ResultMap
import GraphAnswers.Schema
import GraphAnswers.Server
import GraphAnswers.Server.Frame
import GraphAnswers.Server.Registry
import GraphAnswers.Settings
import GraphAnswers.Settings.Toml
import GraphAnswers.Settings.Toml.Document
import GraphAnswers.Settings.Toml.Scalar
import GraphAnswers.SortedMap
import GraphAnswers.SortedSet
import GraphAnswers.Store
import GraphAnswers.Store.Ingest
import GraphAnswers.Text.Alphabetic
import GraphAnswers.Text.Blank
import GraphAnswers.Text.CaseFolding
import GraphAnswers.Text.Category
import GraphAnswers.Text.CharacterSet
import GraphAnswers.Text.CharacterSet.Named
import GraphAnswers.Text.CharacterSet.Property
import GraphAnswers.Text.FileName
import GraphAnswers.Text.FileUri
import GraphAnswers.Text.Numeral
import GraphAnswers.Text.Pattern
import GraphAnswers.Text.Pattern.Brackets
import GraphAnswers.Text.Pattern.Escape
import GraphAnswers.Text.Pattern.Notation
import GraphAnswers.Text.Pattern.Reading
import GraphAnswers.Text.Property
import GraphAnswers.Text.Quoted
import GraphAnswers.Text.Reader
import GraphAnswers.Text.Script
import GraphAnswers.Text.Unprintable
import GraphAnswers.Text.Utf8
import GraphAnswers.Text.Words
import GraphAnswers.Triple

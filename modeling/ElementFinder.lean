import ElementFinder.Element
import ElementFinder.Failure
import ElementFinder.Files.Artifact
import ElementFinder.Files.Basic
import ElementFinder.Finder.Attempt
import ElementFinder.Finder.Basic
import ElementFinder.Http.Address
import ElementFinder.Http.Session
import ElementFinder.Json.Encoding
import ElementFinder.Json.Fault
import ElementFinder.Json.Reader
import ElementFinder.Number.Basic
import ElementFinder.Number.Binary
import ElementFinder.Number.Decimal
import ElementFinder.Number.Numeral
import ElementFinder.Number.Read
import ElementFinder.Number.Shortest
import ElementFinder.ObjectMap.Basic
import ElementFinder.ObjectMap.Placeholder
import ElementFinder.ObjectMap.Schema
import ElementFinder.Page.Bounds
import ElementFinder.Page.Node
import ElementFinder.Page.Snapshot
import ElementFinder.Page.Source
import ElementFinder.Pattern.Basic
import ElementFinder.Pattern.CharClass
import ElementFinder.Pattern.NameTables
import ElementFinder.Pattern.Names
import ElementFinder.Pattern.Reader
import ElementFinder.Pattern.Search
import ElementFinder.Pattern.Width
import ElementFinder.Proofs.Ancestry
import ElementFinder.Proofs.Attempt
import ElementFinder.Proofs.Calls
import ElementFinder.Proofs.Choice
import ElementFinder.Proofs.Diagnosis
import ElementFinder.Proofs.Entries
import ElementFinder.Proofs.Escapes
import ElementFinder.Proofs.ExactText
import ElementFinder.Proofs.Exchange
import ElementFinder.Proofs.Gone
import ElementFinder.Proofs.MapForm
import ElementFinder.Proofs.MapLoading
import ElementFinder.Proofs.MapReport
import ElementFinder.Proofs.Matching
import ElementFinder.Proofs.Moment
import ElementFinder.Proofs.Nesting
import ElementFinder.Proofs.Notes
import ElementFinder.Proofs.Numbering
import ElementFinder.Proofs.OnPage
import ElementFinder.Proofs.Orderly
import ElementFinder.Proofs.Outline
import ElementFinder.Proofs.Polling
import ElementFinder.Proofs.Reading
import ElementFinder.Proofs.Related
import ElementFinder.Proofs.Reports
import ElementFinder.Proofs.Requests
import ElementFinder.Proofs.Results
import ElementFinder.Proofs.RoundTrip
import ElementFinder.Proofs.Rounds
import ElementFinder.Proofs.SingleAttempt
import ElementFinder.Proofs.StopRule
import ElementFinder.Proofs.Surroundings
import ElementFinder.Proofs.TypedFailure
import ElementFinder.Proofs.Work
import ElementFinder.Proofs.Written
import ElementFinder.Query.Basic
import ElementFinder.Query.Clause
import ElementFinder.Query.Literal
import ElementFinder.Remote.Client
import ElementFinder.Remote.Request
import ElementFinder.Report.Log
import ElementFinder.Report.Timing
import ElementFinder.Search.Candidate
import ElementFinder.Search.Clickable
import ElementFinder.Search.Describe
import ElementFinder.Search.Match
import ElementFinder.Search.Plain
import ElementFinder.Search.Relative
import ElementFinder.Search.Spatial
import ElementFinder.Search.TextMatch
import ElementFinder.Selector.Basic
import ElementFinder.Selector.Data
import ElementFinder.Selector.Document
import ElementFinder.Selector.Fault
import ElementFinder.Selector.Read
import ElementFinder.Selector.Relation
import ElementFinder.Text.Base64
import ElementFinder.Text.Blank
import ElementFinder.Text.Case
import ElementFinder.Text.CaseTable
import ElementFinder.Text.Digit
import ElementFinder.Text.LetterTable
import ElementFinder.Text.Letters
import ElementFinder.Text.Quoted
import ElementFinder.Text.Ranges
import ElementFinder.Text.Search
import ElementFinder.Text.Utf8
import ElementFinder.Timeouts.Basic
import ElementFinder.Timeouts.Store
import ElementFinder.Value.Basic
import ElementFinder.Value.Display
import ElementFinder.Value.Double
import ElementFinder.Value.Order
import ElementFinder.Value.Time
import ElementFinder.Value.Written
import ElementFinder.Waiting.Deadline
import ElementFinder.Waiting.Poll
import ElementFinder.Waiting.World
import ElementFinder.Xml.DocumentType
import ElementFinder.Xml.Entity
import ElementFinder.Xml.Event
import ElementFinder.Xml.Fault
import ElementFinder.Xml.NameTable
import ElementFinder.Xml.Prolog
import ElementFinder.Xml.Reader
import ElementFinder.Xml.Token
import ElementFinder.Yaml.Construction
import ElementFinder.Yaml.Cursor
import ElementFinder.Yaml.Document
import ElementFinder.Yaml.Meaning
import ElementFinder.Yaml.Node
import ElementFinder.Yaml.Plain
import ElementFinder.Yaml.PlainKind
import ElementFinder.Yaml.Property
import ElementFinder.Yaml.Quoted
import ElementFinder.Yaml.Scalar
import ElementFinder.Yaml.Token
import ElementFinder.Proofs.KnownKeys
import ElementFinder.Timeouts.Program
import ElementFinder.Proofs.Keeping
import ElementFinder.Proofs.FailedChanges
import ElementFinder.Proofs.OverrideScope
import ElementFinder.Proofs.Filling
import ElementFinder.Proofs.OtherTexts
import ElementFinder.Proofs.ServedSelectors
import ElementFinder.Proofs.GivenTimeouts
import ElementFinder.Proofs.StoredTimeouts
import ElementFinder.Proofs.ReadDocuments
import ElementFinder.Proofs.Replies
import ElementFinder.Proofs.SharedNodes
import ElementFinder.Proofs.SideBySide
import ElementFinder.Proofs.OtherIndex
import ElementFinder.Proofs.Indexed
import ElementFinder.Proofs.KeptPages
import ElementFinder.Proofs.Unreported
import ElementFinder.Proofs.AskedFields
import ElementFinder.Proofs.FileTrees
import ElementFinder.Proofs.OverwrittenPages
import ElementFinder.Proofs.PageFiles
import ElementFinder.Proofs.EventLines
import ElementFinder.Proofs.ChosenNode
import ElementFinder.Proofs.ActiveParts
import ElementFinder.Proofs.TapDecision
import ElementFinder.Proofs.FieldSources
import ElementFinder.Proofs.KeyOrder
import ElementFinder.Proofs.NullEntries
import ElementFinder.Proofs.Pruning
import ElementFinder.Proofs.Numerals
import ElementFinder.Proofs.WholeNumbers
import ElementFinder.Proofs.SetFields
import ElementFinder.Proofs.Directions
import ElementFinder.Proofs.Mirrors
import ElementFinder.Proofs.PatternFaults
import ElementFinder.Proofs.TextTests
import ElementFinder.Proofs.Containment
import ElementFinder.Proofs.TapTargets
import ElementFinder.Proofs.QuotedTexts
import ElementFinder.Proofs.ChainMarks
import ElementFinder.Proofs.NamedTimeouts
import ElementFinder.Proofs.BuiltTimeouts
import ElementFinder.Proofs.PresetNames
import ElementFinder.Proofs.SinglePass
import ElementFinder.Proofs.RootCauses

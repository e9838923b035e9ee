import LetterPacks.Application.Failure
import LetterPacks.Calendar.Date
import LetterPacks.Calendar.DateReader
import LetterPacks.Case.Choices
import LetterPacks.Case.File
import LetterPacks.Case.Party
import LetterPacks.Case.Schema
import LetterPacks.Catalog.DecisionTable
import LetterPacks.Catalog.Registry
import LetterPacks.CommandLine.Arguments
import LetterPacks.CommandLine.Program
import LetterPacks.Demo.Walk
import LetterPacks.Dispatch.Service
import LetterPacks.Dispatch.Views
import LetterPacks.Json.Fault
import LetterPacks.Json.Numeral
import LetterPacks.Json.Quoted
import LetterPacks.Json.Reading
import LetterPacks.Json.Shape
import LetterPacks.Json.Skipped
import LetterPacks.Json.Value
import LetterPacks.Letter
import LetterPacks.Main
import LetterPacks.Number.Binary64
import LetterPacks.Number.Digits
import LetterPacks.Number.Shortest
import LetterPacks.OnDemand.Generator
import LetterPacks.Pack.Bundle
import LetterPacks.Pack.Descriptor
import LetterPacks.Pack.DocumentType
import LetterPacks.Pack.Key
import LetterPacks.Pack.Table
import LetterPacks.Pack.Template
import LetterPacks.Pattern.CharacterSet
import LetterPacks.Pattern.Escape
import LetterPacks.Pattern.Expression
import LetterPacks.Pattern.Mode
import LetterPacks.Printing.Printer
import LetterPacks.Printing.Request
import LetterPacks.Proofs.Calendar.DayNumbers
import LetterPacks.Proofs.Calendar.Readers
import LetterPacks.Proofs.Calendar.WrittenDate
import LetterPacks.Proofs.Case.Attachment
import LetterPacks.Proofs.Case.Dates
import LetterPacks.Proofs.Case.Spelling
import LetterPacks.Proofs.Case.SpoiltText
import LetterPacks.Proofs.Case.Truncation
import LetterPacks.Proofs.Catalog.AuditTable
import LetterPacks.Proofs.Catalog.Coverage
import LetterPacks.Proofs.Catalog.Export
import LetterPacks.Proofs.Catalog.Notices
import LetterPacks.Proofs.Catalog.Outline
import LetterPacks.Proofs.Catalog.Recipients
import LetterPacks.Proofs.Catalog.Registration
import LetterPacks.Proofs.Catalog.Standard
import LetterPacks.Proofs.Catalog.Suitability
import LetterPacks.Proofs.Demo.Lifecycle
import LetterPacks.Proofs.Demo.SampleCase
import LetterPacks.Proofs.Demo.Walk
import LetterPacks.Proofs.Dispatch.Accounting
import LetterPacks.Proofs.Dispatch.Atomicity
import LetterPacks.Proofs.Dispatch.Confidentiality
import LetterPacks.Proofs.Dispatch.Envelope
import LetterPacks.Proofs.Dispatch.Exchange
import LetterPacks.Proofs.Dispatch.FurtherDocuments
import LetterPacks.Proofs.Dispatch.Independence
import LetterPacks.Proofs.Dispatch.MergedFacts
import LetterPacks.Proofs.Dispatch.PaperForms
import LetterPacks.Proofs.Dispatch.Recording
import LetterPacks.Proofs.Dispatch.Stages
import LetterPacks.Proofs.Json.Faults
import LetterPacks.Proofs.Json.Grammar
import LetterPacks.Proofs.Json.Locality
import LetterPacks.Proofs.Json.Parts
import LetterPacks.Proofs.Json.Places
import LetterPacks.Proofs.Json.QuotedText
import LetterPacks.Proofs.Json.Replacement
import LetterPacks.Proofs.Json.Separation
import LetterPacks.Proofs.Json.SingleValues
import LetterPacks.Proofs.Json.Skipping
import LetterPacks.Proofs.Json.Spelling
import LetterPacks.Proofs.Json.SpellingRead
import LetterPacks.Proofs.Json.Truncation
import LetterPacks.Proofs.Json.Written
import LetterPacks.Proofs.Number.Digits
import LetterPacks.Proofs.OnDemand.Recording
import LetterPacks.Proofs.OnDemand.Supply
import LetterPacks.Proofs.OnDemand.Twins
import LetterPacks.Proofs.Pack.Bundling
import LetterPacks.Proofs.Pack.Naming
import LetterPacks.Proofs.Pack.SeveralNames
import LetterPacks.Proofs.Pack.Soundness
import LetterPacks.Proofs.Printing.Assembly
import LetterPacks.Proofs.Printing.MergedFacts
import LetterPacks.Proofs.Selection.Declaration
import LetterPacks.Proofs.Selection.Exchange
import LetterPacks.Proofs.Selection.NoticeContents
import LetterPacks.Proofs.Selection.Outline
import LetterPacks.Proofs.Selection.Reachability
import LetterPacks.Proofs.Selection.Specified
import LetterPacks.Proofs.Selection.Suitability
import LetterPacks.Proofs.Text.Split
import LetterPacks.Proofs.Text.Trim
import LetterPacks.Proofs.Web.Agreement
import LetterPacks.Proofs.Web.Bodies
import LetterPacks.Proofs.Web.Concurrency
import LetterPacks.Proofs.Web.Pool
import LetterPacks.Proofs.Web.Segments
import LetterPacks.Proofs.Web.Serving
import LetterPacks.Proofs.Web.Status
import LetterPacks.Proofs.Web.Work
import LetterPacks.Selection.Answers
import LetterPacks.Selection.ConditionalOrder
import LetterPacks.Selection.FinalOrder
import LetterPacks.Selection.Notice
import LetterPacks.Selection.Refusal
import LetterPacks.Selection.Rule
import LetterPacks.Settings.Address
import LetterPacks.Settings.Environment
import LetterPacks.Settings.LogFilter
import LetterPacks.Settings.Settings
import LetterPacks.Storage.FileTree
import LetterPacks.Text.Blank
import LetterPacks.Text.Classes
import LetterPacks.Text.Split
import LetterPacks.Vocabulary
import LetterPacks.Web.MediaType
import LetterPacks.Web.Server
import LetterPacks.Web.Target

import SourceOutline.Catalogue.Basic
import SourceOutline.Catalogue.Setting
import SourceOutline.Catalogue.Standard
import SourceOutline.CommandLine.Arguments
import SourceOutline.CommandLine.Command
import SourceOutline.CommandLine.Program
import SourceOutline.Discovery
import SourceOutline.Disk
import SourceOutline.Extraction
import SourceOutline.Fault
import SourceOutline.Folder
import SourceOutline.Json.Basic
import SourceOutline.Json.Printer
import SourceOutline.Json.Reader
import SourceOutline.Main
import SourceOutline.Node
import SourceOutline.Notice
import SourceOutline.Path
import SourceOutline.Report.Listing
import SourceOutline.Report.Outline
import SourceOutline.Session
import SourceOutline.Signature.Callable
import SourceOutline.Signature.Dialect
import SourceOutline.Signature.Extractor
import SourceOutline.Signature.TypeHead
import SourceOutline.Source
import SourceOutline.Summary
import SourceOutline.Support
import SourceOutline.Survey
import SourceOutline.Symbol
import SourceOutline.Text.Blank
import SourceOutline.Text.Casing
import SourceOutline.Text.Casing.Tables
import SourceOutline.Text.Digit
import SourceOutline.Text.Lines
import SourceOutline.Text.Numeral
import SourceOutline.Text.Printable
import SourceOutline.Text.Quoted
import SourceOutline.Text.Ranges
import SourceOutline.Text.Search
import SourceOutline.Text.Template
import SourceOutline.Text.Template.Class
import SourceOutline.Text.Template.Fault
import SourceOutline.Text.Template.Layout
import SourceOutline.Text.Template.Layout.Number
import SourceOutline.Text.Template.Member
import SourceOutline.Text.Template.Member.Collection
import SourceOutline.Text.Template.Member.Number
import SourceOutline.Text.Template.Member.Object
import SourceOutline.Text.Template.Member.Operation
import SourceOutline.Text.Template.Member.Text
import SourceOutline.Text.Template.Value
import SourceOutline.Text.Utf8
import SourceOutline.Proofs.Declarations
import SourceOutline.Proofs.Displacement
import SourceOutline.Proofs.ParameterLists
import SourceOutline.Proofs.Folders
import SourceOutline.Proofs.Scan
import SourceOutline.Proofs.Support
import SourceOutline.Proofs.Survey
import SourceOutline.Proofs.Conservation
import SourceOutline.Proofs.LanguageStatus
import SourceOutline.Proofs.Promises
import SourceOutline.Proofs.Caches
import SourceOutline.Proofs.Operations
import SourceOutline.Proofs.QuietScan
import SourceOutline.Proofs.Outsiders
import SourceOutline.Proofs.SymbolIndex
import SourceOutline.Proofs.Views
import SourceOutline.Proofs.Canonical
import SourceOutline.Proofs.LineBudget
import SourceOutline.Proofs.Ascii
import SourceOutline.Proofs.Location
import SourceOutline.Proofs.Names
import SourceOutline.Proofs.WrittenDocuments
import SourceOutline.Proofs.WrittenSummaries
import SourceOutline.Proofs.LineNumbers
import SourceOutline.Proofs.EntrySupport
import SourceOutline.Proofs.Installer
import SourceOutline.Proofs.InstallDialogue
import SourceOutline.Proofs.ParserSupport
import SourceOutline.Proofs.DiskFaults
import SourceOutline.Proofs.Spelling
import SourceOutline.Proofs.Utf8
import SourceOutline.Proofs.Boundaries
import SourceOutline.Proofs.Indentation
import SourceOutline.Proofs.Partition
import SourceOutline.Proofs.IgnoredFiles
import SourceOutline.Proofs.FileCounts
import SourceOutline.Proofs.FolderTrie
import SourceOutline.Proofs.MoreLanguages
import SourceOutline.Proofs.SignatureSupport
import SourceOutline.Proofs.Console

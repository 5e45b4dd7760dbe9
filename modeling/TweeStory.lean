import TweeStory.CommandLine.Arguments
import TweeStory.CommandLine.Option
import TweeStory.Config.File
import TweeStory.Config.Layered
import TweeStory.Config.Variables
import TweeStory.FileTree
import TweeStory.Format.Basic
import TweeStory.Format.File
import TweeStory.Include.Directive
import TweeStory.Include.Scan
import TweeStory.Json.Basic
import TweeStory.Json.Comments
import TweeStory.Json.Decode
import TweeStory.Link.Basic
import TweeStory.Link.Check
import TweeStory.Main
import TweeStory.Markdown.Block
import TweeStory.Markdown.Container
import TweeStory.Markdown.Definition
import TweeStory.Markdown.Emphasis
import TweeStory.Markdown.Entity
import TweeStory.Markdown.EntityTable
import TweeStory.Markdown.Inline
import TweeStory.Markdown.Line
import TweeStory.Markdown.LineEnd
import TweeStory.Markdown.Page
import TweeStory.Markdown.Prose
import TweeStory.Markdown.Reference
import TweeStory.Markdown.Span
import TweeStory.Markdown.Tag
import TweeStory.Passage.Basic
import TweeStory.Passage.Header
import TweeStory.Passage.Map
import TweeStory.Passage.OfLines
import TweeStory.Path
import TweeStory.Preprocess
import TweeStory.Preprocess.Standard
import TweeStory.Report.Basic
import TweeStory.Report.Issue
import TweeStory.Run.Basic
import TweeStory.Run.Error
import TweeStory.Run.Lookup
import TweeStory.Run.Output
import TweeStory.Settings.Basic
import TweeStory.Settings.Directive
import TweeStory.Settings.Ifid
import TweeStory.Source.Library
import TweeStory.Source.Line
import TweeStory.Story.Basic
import TweeStory.Story.Document
import TweeStory.Story.Error
import TweeStory.Story.Links
import TweeStory.Terminal
import TweeStory.Text.Basic
import TweeStory.Text.Blank
import TweeStory.Text.CaseFolding
import TweeStory.Text.CaseMapping
import TweeStory.Text.Entity
import TweeStory.Text.Lines
import TweeStory.Text.Punctuation
import TweeStory.Text.Quoted
import TweeStory.Text.Ranges
import TweeStory.Text.Similarity
import TweeStory.Text.Unwrap
import TweeStory.Text.UpperCase
import TweeStory.Text.Width
import TweeStory.Warning
import TweeStory.Proofs.Include.Directive
import TweeStory.Proofs.Include.Expansion
import TweeStory.Proofs.Include.Provenance
import TweeStory.Proofs.Include.Termination
import TweeStory.Proofs.Include.Agreement
import TweeStory.Proofs.Source.Span
import TweeStory.Proofs.Source.Table
import TweeStory.Proofs.Story.Origins
import TweeStory.Proofs.Story.Provenance
import TweeStory.Proofs.Source.Extraction
import TweeStory.Proofs.Include.Extraction
import TweeStory.Proofs.Story.Relocation
import TweeStory.Proofs.Story.Extraction
import TweeStory.Proofs.Passage.Header
import TweeStory.Proofs.Passage.Map
import TweeStory.Proofs.Passage.Ledger
import TweeStory.Proofs.Passage.Calls
import TweeStory.Proofs.Passage.Blocks
import TweeStory.Proofs.Preprocess
import TweeStory.Proofs.Preprocess.Composition
import TweeStory.Proofs.Story.Sorting
import TweeStory.Proofs.Markup.Reader
import TweeStory.Proofs.Text.Entity
import TweeStory.Proofs.Text.Pieces
import TweeStory.Proofs.Text.Quotes
import TweeStory.Proofs.Text.Words
import TweeStory.Proofs.Story.Decoding
import TweeStory.Proofs.Story.Slots
import TweeStory.Proofs.Settings.Apply
import TweeStory.Proofs.Story.Settings
import TweeStory.Proofs.Story.Start
import TweeStory.Proofs.Text.Trim
import TweeStory.Proofs.Story.Bodies
import TweeStory.Proofs.Settings.Grammar
import TweeStory.Proofs.Settings.Values
import TweeStory.Proofs.Story.Faults
import TweeStory.Proofs.Settings.Following
import TweeStory.Proofs.Settings.Written
import TweeStory.Proofs.Link.Quoting
import TweeStory.Proofs.Link.Shape
import TweeStory.Proofs.Link.Written
import TweeStory.Proofs.FileTree
import TweeStory.Proofs.FileTree.Listing
import TweeStory.Proofs.Report.Policy
import TweeStory.Proofs.Run.Writing
import TweeStory.Proofs.Run.Placement
import TweeStory.Proofs.Link.Grammar
import TweeStory.Proofs.Link.Leftmost
import TweeStory.Proofs.Passage.HeaderLine
import TweeStory.Proofs.Passage.Written
import TweeStory.Proofs.Link.Faults
import TweeStory.Proofs.Text.Occurrences
import TweeStory.Proofs.Format.Page
import TweeStory.Proofs.Config.Variables
import TweeStory.Proofs.Config.Formats
import TweeStory.Proofs.Json.Lexical
import TweeStory.Proofs.Json.Reader
import TweeStory.Proofs.Json.Record
import TweeStory.Proofs.Format.Object
import TweeStory.Proofs.Format.Wrapped

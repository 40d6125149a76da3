import CodeAtlas.CommandLine
import CodeAtlas.Contents
import CodeAtlas.CoverageLog
import CodeAtlas.Declaration
import CodeAtlas.Disk.Basic
import CodeAtlas.Disk.Ignore
import CodeAtlas.Disk.Manifest
import CodeAtlas.Disk.Walk
import CodeAtlas.Documentation
import CodeAtlas.Encoding
import CodeAtlas.Extraction.Basic
import CodeAtlas.Extraction.Imports
import CodeAtlas.Extraction.Members
import CodeAtlas.Extraction.Mentions
import CodeAtlas.Extraction.PhpDoc
import CodeAtlas.Extraction.Reader
import CodeAtlas.Extraction.Recovery
import CodeAtlas.Extraction.Scope
import CodeAtlas.Extraction.Statements
import CodeAtlas.Failure
import CodeAtlas.FileFilter
import CodeAtlas.Guide
import CodeAtlas.Index
import CodeAtlas.Json
import CodeAtlas.Main
import CodeAtlas.Markup.Character
import CodeAtlas.Markup.Element
import CodeAtlas.Markup.Token
import CodeAtlas.Metric
import CodeAtlas.Model
import CodeAtlas.Name
import CodeAtlas.Order
import CodeAtlas.Output
import CodeAtlas.Overlay.Coverage
import CodeAtlas.Overlay.Locator
import CodeAtlas.Overlay.Merge
import CodeAtlas.Overlay.Tests
import CodeAtlas.Pattern.Automaton
import CodeAtlas.Pattern.Basic
import CodeAtlas.Pattern.Expression
import CodeAtlas.Pattern.Glob
import CodeAtlas.Pattern.Matching
import CodeAtlas.Pattern.Meaning
import CodeAtlas.Pattern.Parser
import CodeAtlas.Pattern.Property
import CodeAtlas.Pattern.Text
import CodeAtlas.Reference
import CodeAtlas.Resolution
import CodeAtlas.Run
import CodeAtlas.Search
import CodeAtlas.Settings
import CodeAtlas.SourceUnit
import CodeAtlas.SymbolTable
import CodeAtlas.Syntax.Listing
import CodeAtlas.Syntax.Node
import CodeAtlas.Table
import CodeAtlas.TestLog
import CodeAtlas.TestSubject
import CodeAtlas.Text.Blank
import CodeAtlas.Text.CaseFold
import CodeAtlas.Text.CharSet
import CodeAtlas.Text.CodeRange
import CodeAtlas.Text.Digit
import CodeAtlas.Text.Lines
import CodeAtlas.Text.Lowercase
import CodeAtlas.Text.Path
import CodeAtlas.Text.Property.Age
import CodeAtlas.Text.Property.Binary
import CodeAtlas.Text.Property.Break
import CodeAtlas.Text.Property.Category
import CodeAtlas.Text.Property.Identifier
import CodeAtlas.Text.Property.Partition
import CodeAtlas.Text.Property.Script
import CodeAtlas.Text.Segment
import CodeAtlas.Text.Slice
import CodeAtlas.Text.Utf8
import CodeAtlas.Text.Utf8Range
import CodeAtlas.Text.WordCharacter
import CodeAtlas.Toml.Number
import CodeAtlas.Toml.Parser
import CodeAtlas.Toml.Table
import CodeAtlas.Toml.Text
import CodeAtlas.Toml.Value
import CodeAtlas.Warning
import CodeAtlas.Proofs.Order
import CodeAtlas.Proofs.Table
import CodeAtlas.Proofs.Lineage
import CodeAtlas.Proofs.Loop
import CodeAtlas.Proofs.Assembly
import CodeAtlas.Proofs.Precedence
import CodeAtlas.Proofs.Overlay.Coverage
import CodeAtlas.Proofs.Overlay.Tests
import CodeAtlas.Proofs.OrderIndependence
import CodeAtlas.Proofs.Contents
import CodeAtlas.Proofs.Extraction.Steps
import CodeAtlas.Proofs.Files
import CodeAtlas.Proofs.NameIndex
import CodeAtlas.Proofs.Integrity
import CodeAtlas.Proofs.Segment
import CodeAtlas.Proofs.Extraction.WellFormed
import CodeAtlas.Proofs.Tree
import CodeAtlas.Proofs.Extraction.Layout
import CodeAtlas.Proofs.Lossless
import CodeAtlas.Proofs.Lookup
import CodeAtlas.Proofs.Resolution
import CodeAtlas.Proofs.Overlay.Bounds
import CodeAtlas.Proofs.Faults
import CodeAtlas.Proofs.Overlay.Containment
import CodeAtlas.Proofs.Outline
import CodeAtlas.Proofs.Extraction.Readings
import CodeAtlas.Proofs.Extraction.Origin
import CodeAtlas.Proofs.Extraction.Multiplicity
import CodeAtlas.Proofs.Extraction.Repeats
import CodeAtlas.Proofs.Extraction.Names
import CodeAtlas.Proofs.Extraction.Bodies
import CodeAtlas.Proofs.Extraction.Privacy
import CodeAtlas.Proofs.Extraction.Blocks
import CodeAtlas.Proofs.Isolation
import CodeAtlas.Proofs.Overlay.Sampling
import CodeAtlas.Proofs.Path
import CodeAtlas.Proofs.Overlay.Location
import CodeAtlas.Proofs.Scan
import CodeAtlas.Proofs.Locality
import CodeAtlas.Proofs.Ancestry
import CodeAtlas.Proofs.Overlay.Attribution
import CodeAtlas.Proofs.Overlay.Accounting
import CodeAtlas.Proofs.TextOrder
import CodeAtlas.Proofs.Search
import CodeAtlas.Proofs.GuideSections
import CodeAtlas.Proofs.GuideTree
import CodeAtlas.Proofs.Extraction.Occurrences
import CodeAtlas.Proofs.Extraction.Imports
import CodeAtlas.Proofs.Extraction.Scopes
import CodeAtlas.Proofs.Extraction.Hints
import CodeAtlas.Proofs.Blank
import CodeAtlas.Proofs.Extraction.DocAttachment
import CodeAtlas.Proofs.Extraction.DocText
import CodeAtlas.Proofs.NamingConvention
import CodeAtlas.Proofs.Pattern.Matching
import CodeAtlas.Proofs.FileFilter
import CodeAtlas.Proofs.Disk.Sound
import CodeAtlas.Proofs.Disk.Paths
import CodeAtlas.Proofs.Disk.Growth
import CodeAtlas.Proofs.Disk.Walk
import CodeAtlas.Proofs.GuideCopy
import CodeAtlas.Proofs.GuideNames

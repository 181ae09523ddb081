import BeanMapper.Annotation
import BeanMapper.Command.Arguments
import BeanMapper.Command.Report
import BeanMapper.Command.Run
import BeanMapper.Config
import BeanMapper.ConfigFile
import BeanMapper.Decimal.Shortest
import BeanMapper.Declaration
import BeanMapper.Failure
import BeanMapper.FileSystem.Path
import BeanMapper.FileSystem.State
import BeanMapper.Insertion
import BeanMapper.Java.Cursor
import BeanMapper.Java.Extract
import BeanMapper.Java.Grammar
import BeanMapper.Java.Grammar.Annotations
import BeanMapper.Java.Grammar.Declarations
import BeanMapper.Java.Grammar.Expressions
import BeanMapper.Java.Grammar.Parameters
import BeanMapper.Java.Grammar.Patterns
import BeanMapper.Java.Grammar.Statements
import BeanMapper.Java.Grammar.Types
import BeanMapper.Java.Naming
import BeanMapper.Java.Parser
import BeanMapper.Java.Syntax
import BeanMapper.Java.Token
import BeanMapper.Json.Decode
import BeanMapper.Json.Draft
import BeanMapper.Json.Numeral
import BeanMapper.Json.Value
import BeanMapper.Locate
import BeanMapper.Location
import BeanMapper.Main
import BeanMapper.Mapping.Analysis
import BeanMapper.Mapping.Matching
import BeanMapper.Mapping.Mode
import BeanMapper.Mapping.Snippet
import BeanMapper.Mapping.Table
import BeanMapper.Member
import BeanMapper.Position
import BeanMapper.Project
import BeanMapper.Schema.Config
import BeanMapper.Schema.Declaration
import BeanMapper.Schema.Mapping
import BeanMapper.Session
import BeanMapper.Text.Dotted
import BeanMapper.Text.Lines
import BeanMapper.Text.Quoted
import BeanMapper.Text.Split
import BeanMapper.Text.Utf8
import BeanMapper.TypeIndex
import BeanMapper.TypeName
import BeanMapper.Unicode.AlphabeticRanges
import BeanMapper.Unicode.Case
import BeanMapper.Unicode.CaseRanges
import BeanMapper.Unicode.Classes
import BeanMapper.Unicode.IdentifierRanges
import BeanMapper.Unicode.NumberRanges
import BeanMapper.Unicode.PrintedRanges
import BeanMapper.Unicode.Ranges
import BeanMapper.Proofs.Analysis.Resolution
import BeanMapper.Proofs.Analysis.Verdict
import BeanMapper.Proofs.Command.Cursors
import BeanMapper.Proofs.Command.Generate
import BeanMapper.Proofs.Config.Partial
import BeanMapper.Proofs.Config.Saving
import BeanMapper.Proofs.FileSystem.Ancestors
import BeanMapper.Proofs.FileSystem.Climbing
import BeanMapper.Proofs.FileSystem.Directories
import BeanMapper.Proofs.FileSystem.Writing
import BeanMapper.Proofs.Index.Denotation
import BeanMapper.Proofs.Index.Growth
import BeanMapper.Proofs.Index.Lookup
import BeanMapper.Proofs.Index.Registration
import BeanMapper.Proofs.Index.Visibility
import BeanMapper.Proofs.Insertion.Carets
import BeanMapper.Proofs.Insertion.Indentation
import BeanMapper.Proofs.Insertion.Snippets
import BeanMapper.Proofs.Insertion.Splicing
import BeanMapper.Proofs.Java.Components
import BeanMapper.Proofs.Java.Enclosing
import BeanMapper.Proofs.Java.Extraction
import BeanMapper.Proofs.Java.Grammar.Annotations
import BeanMapper.Proofs.Java.Grammar.Declarations
import BeanMapper.Proofs.Java.Grammar.Expressions
import BeanMapper.Proofs.Java.Grammar.Parameters
import BeanMapper.Proofs.Java.Grammar.Patterns
import BeanMapper.Proofs.Java.Grammar.Statements
import BeanMapper.Proofs.Java.Grammar.Types
import BeanMapper.Proofs.Java.Handles
import BeanMapper.Proofs.Java.Innermost
import BeanMapper.Proofs.Java.Layout
import BeanMapper.Proofs.Java.Members
import BeanMapper.Proofs.Java.Places
import BeanMapper.Proofs.Java.Positions
import BeanMapper.Proofs.Java.Reads
import BeanMapper.Proofs.Java.Setters
import BeanMapper.Proofs.Java.Shape
import BeanMapper.Proofs.Java.Spans
import BeanMapper.Proofs.Java.Synthesis
import BeanMapper.Proofs.Java.Tokens
import BeanMapper.Proofs.Java.Trees
import BeanMapper.Proofs.Java.Written
import BeanMapper.Proofs.Json.Codecs
import BeanMapper.Proofs.Json.Nesting
import BeanMapper.Proofs.Json.Quotes
import BeanMapper.Proofs.Json.Records
import BeanMapper.Proofs.Json.Scalars
import BeanMapper.Proofs.Json.Values
import BeanMapper.Proofs.Location.Arguments
import BeanMapper.Proofs.Location.Resolution
import BeanMapper.Proofs.Mapping.AddedSetters
import BeanMapper.Proofs.Mapping.Alignment
import BeanMapper.Proofs.Mapping.Capture
import BeanMapper.Proofs.Mapping.Chaining
import BeanMapper.Proofs.Mapping.Fields
import BeanMapper.Proofs.Mapping.Generation
import BeanMapper.Proofs.Mapping.Rendering
import BeanMapper.Proofs.Names.Erasure
import BeanMapper.Proofs.Names.Handles
import BeanMapper.Proofs.Names.Suffixes
import BeanMapper.Proofs.Position.Offsets
import BeanMapper.Proofs.Position.Order
import BeanMapper.Proofs.Position.RoundTrip
import BeanMapper.Proofs.Project.AddedFiles
import BeanMapper.Proofs.Project.AnonymousTypes
import BeanMapper.Proofs.Project.ArrayReturns
import BeanMapper.Proofs.Project.EnclosingType
import BeanMapper.Proofs.Project.InnermostMethod
import BeanMapper.Proofs.Project.SourceType
import BeanMapper.Proofs.Project.Trees
import BeanMapper.Proofs.Project.UpwardSearch
import BeanMapper.Proofs.Schema.RoundTrip
import BeanMapper.Proofs.Text.Lines
import BeanMapper.Proofs.Text.Numbers
import BeanMapper.Proofs.Text.Parts
import BeanMapper.Proofs.Unicode.Case

import CssBundle.Bundle.Bundler
import CssBundle.Bundle.Compose
import CssBundle.Bundle.Config
import CssBundle.Bundle.Filter
import CssBundle.Bundle.Merge
import CssBundle.Bundle.Mode
import CssBundle.Bundle.Output
import CssBundle.Bundle.Plugin
import CssBundle.Bundle.Report
import CssBundle.Bundle.Transform
import CssBundle.Cli
import CssBundle.Css.Compressed
import CssBundle.Css.Printer
import CssBundle.Css.Reader
import CssBundle.Css.Separate
import CssBundle.Css.Syntax
import CssBundle.Diagnostic.Catalog
import CssBundle.Diagnostic.Excerpt
import CssBundle.Diagnostic.Message
import CssBundle.Json.Decode
import CssBundle.Json.Double
import CssBundle.Json.Reader
import CssBundle.Json.Value
import CssBundle.Location
import CssBundle.Main
import CssBundle.Proofs.Compose
import CssBundle.Proofs.ComposeLookup
import CssBundle.Proofs.MapInvariant
import CssBundle.Proofs.MapRoundTrip
import CssBundle.Proofs.Mappings
import CssBundle.Proofs.Merge
import CssBundle.Proofs.Pipeline
import CssBundle.Proofs.ReaderPlaces
import CssBundle.Proofs.Upstream
import CssBundle.Proofs.Vlq
import CssBundle.Regex.Ast
import CssBundle.Regex.Classes
import CssBundle.Regex.Folding
import CssBundle.Regex.Machine
import CssBundle.Regex.Match
import CssBundle.Regex.Pattern
import CssBundle.Regex.Program
import CssBundle.Regex.Property
import CssBundle.Regex.Reader
import CssBundle.Regex.Replace
import CssBundle.Regex.Size
import CssBundle.Regex.Syntax
import CssBundle.Regex.Translate
import CssBundle.Sass.Builtin.Args
import CssBundle.Sass.Builtin.Colors
import CssBundle.Sass.Builtin.Lists
import CssBundle.Sass.Builtin.Maps
import CssBundle.Sass.Builtin.Math
import CssBundle.Sass.Builtin.Selectors
import CssBundle.Sass.Builtin.Strings
import CssBundle.Sass.Builtin.Table
import CssBundle.Sass.Calc
import CssBundle.Sass.Color
import CssBundle.Sass.Color.Names
import CssBundle.Sass.Compile
import CssBundle.Sass.Decimal
import CssBundle.Sass.Eval.Run
import CssBundle.Sass.Eval.State
import CssBundle.Sass.Eval.Support
import CssBundle.Sass.Extend
import CssBundle.Sass.Media
import CssBundle.Sass.NameOrder
import CssBundle.Sass.Number
import CssBundle.Sass.Output
import CssBundle.Sass.Reader.Expr
import CssBundle.Sass.Reader.Plain
import CssBundle.Sass.Reader.Scan
import CssBundle.Sass.Reader.Sheet
import CssBundle.Sass.Selector
import CssBundle.Sass.Selector.Compare
import CssBundle.Sass.Selector.Unify
import CssBundle.Sass.Syntax
import CssBundle.Sass.Unit
import CssBundle.Sass.Value
import CssBundle.Sass.Value.Operate
import CssBundle.Sass.Value.Text
import CssBundle.SourceMap.Basic
import CssBundle.SourceMap.Builder
import CssBundle.SourceMap.Compose
import CssBundle.SourceMap.Document
import CssBundle.SourceMap.Error
import CssBundle.SourceMap.Mappings
import CssBundle.SourceMap.Vlq
import CssBundle.SourceText
import CssBundle.Text.Alphanumeric
import CssBundle.Text.Quoted
import CssBundle.Text.Units
import CssBundle.Text.Whitespace
import CssBundle.Text.Width
import CssBundle.Unicode.Age
import CssBundle.Unicode.Binary
import CssBundle.Unicode.Category
import CssBundle.Unicode.Script
import CssBundle.Unicode.Segment
import CssBundle.Unicode.Table
import CssBundle.Proofs.Lexer
import CssBundle.Proofs.PrintedText
import CssBundle.Proofs.ReaderText
import CssBundle.Proofs.Reread
import CssBundle.Proofs.ParsedReadable
import CssBundle.Proofs.ReadThrough
import CssBundle.Proofs.RenderParse
import CssBundle.Proofs.SpanPlaces
import CssBundle.Proofs.PrintMarks
import CssBundle.Proofs.LineIndex
import CssBundle.Proofs.ReaderProgress
import CssBundle.Proofs.ParseErrors
import CssBundle.Proofs.SelectorBudget
import CssBundle.Proofs.BlankCollapse
import CssBundle.Proofs.PackedText
import CssBundle.Proofs.PackedReread
import CssBundle.Proofs.CompressedReparse
import CssBundle.Proofs.BuilderCalls
import CssBundle.Proofs.DecodeRanges
import CssBundle.Proofs.CommentStrip
import CssBundle.Proofs.ReaderFuel
import CssBundle.Proofs.TopLevelSplit
import CssBundle.Proofs.LooseBlanks

import JsonProbe.Text.Utf8
import JsonProbe.Text.Utf8.Ranges
import JsonProbe.Json.Token
import JsonProbe.Json.Token.Scan
import JsonProbe.Json.TokenStream
import JsonProbe.Json.Term
import JsonProbe.Json.Reader
import JsonProbe.Json.Lexer
import JsonProbe.Text.Blank
import JsonProbe.Json.Quote
import JsonProbe.Path.Segment
import JsonProbe.Path.Compile
import JsonProbe.Path.Resolve
import JsonProbe.Regex.Syntax
import JsonProbe.Regex.Error
import JsonProbe.Regex.CharSet
import JsonProbe.Regex.Unicode.Word
import JsonProbe.Regex.Unicode.CaseFold
import JsonProbe.Regex.Unicode.GeneralCategory
import JsonProbe.Regex.Unicode.Script
import JsonProbe.Regex.Unicode.Property
import JsonProbe.Regex.Unicode.Age
import JsonProbe.Regex.Unicode.Break
import JsonProbe.Regex.Unicode.Names
import JsonProbe.Regex.Unicode.Class
import JsonProbe.Regex.Unicode.NameChars
import JsonProbe.Regex.Parse
import JsonProbe.Regex.Hir.Basic
import JsonProbe.Regex.Hir
import JsonProbe.Regex.Automaton
import JsonProbe.Regex.Size.Builder
import JsonProbe.Regex.Size.Trie
import JsonProbe.Regex.Size
import JsonProbe.Regex.Prefixes
import JsonProbe.Regex
import JsonProbe.Assertion
import JsonProbe.Check
import JsonProbe.SyntaxGuide
import JsonProbe.Cli
import JsonProbe.Main
import JsonProbe.Proofs.Json.Members
import JsonProbe.Proofs.Json.Grammar
import JsonProbe.Proofs.Json.ReaderGrammar
import JsonProbe.Proofs.Text.Utf8
import JsonProbe.Proofs.Json.Lexical
import JsonProbe.Proofs.Json.Scan.Atom
import JsonProbe.Proofs.Json.Scan.String
import JsonProbe.Proofs.Json.Lexing
import JsonProbe.Proofs.Path.Walk
import JsonProbe.Proofs.Path.IndexSpelling
import JsonProbe.Proofs.Json.ReadErrors
import JsonProbe.Proofs.Path.Failures
import JsonProbe.Proofs.Json.KeyOrder
import JsonProbe.Proofs.Assertion.Reports
import JsonProbe.Proofs.Assertion.KeyAbsence
import JsonProbe.Proofs.Path.Grammar
import JsonProbe.Proofs.Path.Printing
import JsonProbe.Proofs.Json.Tiling
import JsonProbe.Proofs.Json.Nesting
import JsonProbe.Proofs.Json.Numbers
import JsonProbe.Proofs.Json.LexErrors
import JsonProbe.Proofs.Json.StringTokens
import JsonProbe.Proofs.Json.Cursor.Agreement
import JsonProbe.Proofs.Json.Cursor.Bounds
import JsonProbe.Json.Parser
import JsonProbe.Proofs.Json.Descent
import JsonProbe.Proofs.Json.ParserDepth

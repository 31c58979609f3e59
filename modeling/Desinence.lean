import Desinence.Text
import Desinence.Text.Blank
import Desinence.Text.Lines
import Desinence.Text.Decimal
import Desinence.Text.Hexadecimal
import Desinence.Text.Quoted
import Desinence.Text.Utf8
import Desinence.Letter.Case
import Desinence.Letter.NormalForm
import Desinence.Rule
import Desinence.Word
import Desinence.Stemmer
import Desinence.Portuguese
import Desinence.FormatError
import Desinence.Record.Part
import Desinence.Record
import Desinence.Assembly
import Desinence.Layout
import Desinence.Path
import Desinence.FileTree
import Desinence.Log
import Desinence.Loading
import Desinence.Check
import Desinence.Glob
import Desinence.SessionLog
import Desinence.Logging
import Desinence.Number.Binary64
import Desinence.Number.Shortest
import Desinence.Json.Glyph
import Desinence.Json.Encoding
import Desinence.Json.Value
import Desinence.Json.Token
import Desinence.Json.Reader
import Desinence.Json.Writer
import Desinence.RequestBody
import Desinence.RequestPath
import Desinence.Text.Integer
import Desinence.Settings.EnvFile
import Desinence.Settings
import Desinence.Service
import Desinence.Main
import Desinence.Proofs.Text.Blank
import Desinence.Proofs.Text.Decimal
import Desinence.Proofs.Text.Lines
import Desinence.Proofs.Text.Utf8
import Desinence.Proofs.Text.Pieces
import Desinence.Proofs.Letter.NormalForm
import Desinence.Proofs.Word.Lower
import Desinence.Proofs.Word.Accents
import Desinence.Proofs.Letter.Parts
import Desinence.Proofs.Record.Part
import Desinence.Proofs.Record.Grammar
import Desinence.Proofs.Record.Items
import Desinence.Proofs.Record.Value
import Desinence.Proofs.Assembly.Run
import Desinence.Proofs.Assembly.Step
import Desinence.Proofs.Assembly.Block
import Desinence.Proofs.Assembly.FirstFault
import Desinence.Proofs.Assembly.Standing
import Desinence.Proofs.Assembly.Joined
import Desinence.Proofs.Assembly.Content
import Desinence.Proofs.Assembly.Feeding
import Desinence.Proofs.Layout
import Desinence.Proofs.Loading
import Desinence.Proofs.Stemmer.Passage
import Desinence.Proofs.Stemmer.Reach
import Desinence.Proofs.Stemmer.Lengths
import Desinence.Proofs.Stemmer.Silent
import Desinence.Proofs.Stemmer.Alphabet
import Desinence.Proofs.Stemmer.Pieces
import Desinence.Proofs.Stemmer.Gates
import Desinence.Proofs.Portuguese
import Desinence.Proofs.Json.Grammar
import Desinence.Proofs.Json.Content
import Desinence.Proofs.Json.Numeral
import Desinence.Proofs.Json.Lexing
import Desinence.Proofs.Json.Derivation
import Desinence.Proofs.Json.Strings
import Desinence.Proofs.RequestBody
import Desinence.Proofs.Service.Serving
import Desinence.Proofs.Service.Run
import Desinence.Proofs.Glob
import Desinence.Proofs.SessionLog
import Desinence.Proofs.Record.Spelling
import Desinence.Proofs.Record.Entries
import Desinence.Proofs.Assembly.Outcome
import Desinence.Proofs.Text.Order
import Desinence.Proofs.SessionLog.Naming
import Desinence.Proofs.SessionLog.Retention
import Desinence.Proofs.Logging
import Desinence.Proofs.Record.Conditions
import Desinence.Proofs.Stemmer.Firing
import Desinence.Proofs.Stemmer.Rearrangement
import Desinence.Proofs.Stemmer.Exceptions
import Desinence.Proofs.Letter.Hangul
import Desinence.Proofs.Letter.Joining
import Desinence.Proofs.Portuguese.Texts
import Desinence.Proofs.Stemmer.Covering
import Desinence.Proofs.Word.Upper
import Desinence.Proofs.Text.Quoted
import Desinence.Proofs.Text.Verbatim
import Desinence.Proofs.FormatError
import Desinence.Proofs.Check
import Desinence.Proofs.Check.Agreement

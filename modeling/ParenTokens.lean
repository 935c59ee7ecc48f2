import ParenTokens.Lexing.Session
import ParenTokens.Transcript.Dump
import ParenTokens.Transcript.Listing
import ParenTokens.Yaml.Fault
import ParenTokens.Yaml.Place
import ParenTokens.Yaml.BlockScalar
import ParenTokens.Yaml.PlainScalar
import ParenTokens.Yaml.QuotedScalar
import ParenTokens.Yaml.Token
import ParenTokens.Yaml.Lexer
import ParenTokens.Yaml.Timestamp
import ParenTokens.Yaml.Composition
import ParenTokens.Text.Base64
import ParenTokens.Text.Lower
import ParenTokens.Yaml.Numeral
import ParenTokens.Yaml.Scalar
import ParenTokens.Yaml.Document
import ParenTokens.Files.Path
import ParenTokens.Files.Tree
import ParenTokens.Files.World
import ParenTokens.Settings
import ParenTokens.Command.Arguments
import ParenTokens.Command.Run
import ParenTokens.Main
import ParenTokens.Proofs.Encoding
import ParenTokens.Proofs.Reading
import ParenTokens.Proofs.Layout
import ParenTokens.Proofs.Scanning
import ParenTokens.Proofs.Grammar
import ParenTokens.Proofs.Undecodable
import ParenTokens.Proofs.Concatenation
import ParenTokens.Proofs.Interleaving
import ParenTokens.Proofs.JsonText
import ParenTokens.Proofs.Dumping
import ParenTokens.Proofs.Recording
import ParenTokens.Proofs.Diagnostics
import ParenTokens.Proofs.Resuming
import ParenTokens.Proofs.Lookahead
import ParenTokens.Proofs.Schema
import ParenTokens.Proofs.Limits
import ParenTokens.Proofs.Failures
import ParenTokens.Proofs.Safety
import ParenTokens.Proofs.Checking
import ParenTokens.Proofs.JsonOutput
import ParenTokens.Proofs.LexicalFaults
import ParenTokens.Proofs.Refusals
import ParenTokens.Proofs.Loading
import ParenTokens.Proofs.Surrogates
import ParenTokens.Proofs.Slices
import ParenTokens.Proofs.Lines
import ParenTokens.Proofs.Quoting
import ParenTokens.Proofs.Listings
import ParenTokens.Proofs.Printability
import ParenTokens.Proofs.Painting
import ParenTokens.Proofs.DistinctKeys
import ParenTokens.Proofs.Validation
import ParenTokens.Proofs.Places
import ParenTokens.Proofs.Initializing
import ParenTokens.Proofs.Targets
import ParenTokens.Proofs.Offsets

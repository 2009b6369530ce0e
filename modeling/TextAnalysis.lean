import TextAnalysis.Blob.Basic
import TextAnalysis.CommandLine.Commands
import TextAnalysis.FirstMatch
import TextAnalysis.Json.Language
import TextAnalysis.Main
import TextAnalysis.Proofs.Blob.Cells
import TextAnalysis.Proofs.Blob.Limit
import TextAnalysis.Proofs.Blob.Padding
import TextAnalysis.Proofs.Blob.Restoring
import TextAnalysis.Proofs.Blob.RoundTrip
import TextAnalysis.Proofs.CommandLine.Files
import TextAnalysis.Proofs.CommandLine.Tokenizing
import TextAnalysis.Proofs.Files
import TextAnalysis.Proofs.FirstMatch
import TextAnalysis.Proofs.Json.Reader
import TextAnalysis.Proofs.Settings.Arguments
import TextAnalysis.Proofs.Settings.Languages
import TextAnalysis.Proofs.Settings.Rejection
import TextAnalysis.Proofs.Settings.Rendering
import TextAnalysis.Proofs.Settings.Spelling
import TextAnalysis.Proofs.Settings.Stored
import TextAnalysis.Proofs.Stem.Composition
import TextAnalysis.Proofs.StopWords.File
import TextAnalysis.Proofs.StopWords.Rejection
import TextAnalysis.Proofs.StopWords.Sessions
import TextAnalysis.Proofs.StopWords.Sharing
import TextAnalysis.Proofs.StopWords.Snapshots
import TextAnalysis.Proofs.Tokenizer.AsciiTexts
import TextAnalysis.Proofs.Tokenizer.Cutting
import TextAnalysis.Proofs.Tokenizer.Diacritics
import TextAnalysis.Proofs.Tokenizer.EmptyTokens
import TextAnalysis.Proofs.Tokenizer.Locality
import TextAnalysis.Proofs.Tokenizer.Nesting
import TextAnalysis.Proofs.Tokenizer.Registration
import TextAnalysis.Proofs.Tokenizer.Respelling
import TextAnalysis.Proofs.Tokenizer.Serving
import TextAnalysis.Proofs.Tokenizer.Snapshots
import TextAnalysis.Proofs.Tokenizer.Snippet
import TextAnalysis.Proofs.Tokenizer.Stopping
import TextAnalysis.Proofs.Tokenizer.Suppressed
import TextAnalysis.Tokenizer.Snippet

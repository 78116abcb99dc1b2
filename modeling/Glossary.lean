import Glossary.Host.FileTree
import Glossary.Main
import Glossary.Proofs.Token.Pattern
import Glossary.Proofs.Token.Tokenization
import Glossary.Proofs.Token.Order
import Glossary.Proofs.Analysis.Lookup
import Glossary.Proofs.Source.LineTable
import Glossary.Proofs.Render.Listing
import Glossary.Proofs.Json.Reading
import Glossary.Proofs.Reference.Reading
import Glossary.Proofs.Dictionary.Merge
import Glossary.Proofs.Dictionary.Precedence
import Glossary.Proofs.Dictionary.Agreement
import Glossary.Proofs.Reference.Writing
import Glossary.Proofs.Reference.Outline
import Glossary.Proofs.Dictionary.Soundness
import Glossary.Proofs.Dictionary.Exchange
import Glossary.Proofs.Dictionary.Document
import Glossary.Proofs.Analysis.Known
import Glossary.Proofs.Token.Lone
import Glossary.Proofs.Analysis.Findable
import Glossary.Proofs.Html.Escape
import Glossary.Proofs.Html.Tags
import Glossary.Proofs.Html.Page
import Glossary.Proofs.Session.Course
import Glossary.Proofs.Session.Answers
import Glossary.Proofs.Watcher.Sight
import Glossary.Proofs.Watcher.Course
import Glossary.Proofs.Watcher.Replacement
import Glossary.Proofs.Reference.Unclosed
import Glossary.Proofs.Reference.Entries
import Glossary.Proofs.Reference.Directive
import Glossary.Proofs.Reference.Extension
import Glossary.Proofs.Dictionary.Outcome
import Glossary.Proofs.Dictionary.Pieces
import Glossary.Proofs.Dictionary.Shadowing
import Glossary.Proofs.Dictionary.Sections
import Glossary.Proofs.Dictionary.Definitions
import Glossary.Proofs.Analysis.Groups
import Glossary.Proofs.Token.Whole
import Glossary.Proofs.Token.Seam
import Glossary.Proofs.Analysis.Layout
import Glossary.Proofs.Analysis.Limits
import Glossary.Proofs.Source.Walk
import Glossary.Proofs.Source.Reach
import Glossary.Proofs.Source.Excerpt
import Glossary.Proofs.Text.Utf8
import Glossary.Proofs.Text.Slice
import Glossary.Proofs.Token.Offsets
import Glossary.Proofs.Source.Bytes
import Glossary.Proofs.Distinct
import Glossary.Proofs.Source.Loading
import Glossary.Proofs.Render.Example
import Glossary.Proofs.Log.Decoding
import Glossary.Proofs.Log.Context
import Glossary.Proofs.Dictionary.Comparison
import Glossary.Proofs.Log.Truncation

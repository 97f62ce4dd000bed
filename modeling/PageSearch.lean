import PageSearch.Adapter.Basic
import PageSearch.Adapter.Recent
import PageSearch.Bytes.Basic
import PageSearch.Bytes.Lemmas
import PageSearch.Bytes.Varint
import PageSearch.Cache.Basic
import PageSearch.Cache.FileTask
import PageSearch.Cache.Folder
import PageSearch.Command
import PageSearch.CommandLine.Basic
import PageSearch.CommandLine.Reader
import PageSearch.Config.Basic
import PageSearch.Config.Decode
import PageSearch.Hash.Xxh3
import PageSearch.Index.Basic
import PageSearch.Index.Build
import PageSearch.Index.Search
import PageSearch.Index.Stored
import PageSearch.Index.TermMap
import PageSearch.Json.Number
import PageSearch.Json.Reader
import PageSearch.Json.String
import PageSearch.Json.Value
import PageSearch.Main
import PageSearch.Markup.Entity
import PageSearch.Markup.HiddenBlock
import PageSearch.Markup.Pattern
import PageSearch.Markup.PlainText
import PageSearch.Markup.Tag
import PageSearch.Navigation.BaseUrl
import PageSearch.Navigation.Basic
import PageSearch.Number.Decimal
import PageSearch.Number.Logarithm
import PageSearch.Number.Single
import PageSearch.Path
import PageSearch.Program
import PageSearch.Proofs.Adapter.Answers
import PageSearch.Proofs.Adapter.Interleaved
import PageSearch.Proofs.Adapter.Reconfigured
import PageSearch.Proofs.Adapter.Resolution
import PageSearch.Proofs.Adapter.Titles
import PageSearch.Proofs.Cache.Answers
import PageSearch.Proofs.Cache.Folder
import PageSearch.Proofs.Cache.Overlap
import PageSearch.Proofs.Cache.Process
import PageSearch.Proofs.Cache.Recovery
import PageSearch.Proofs.Cache.Trust
import PageSearch.Proofs.Command.FrontEnds
import PageSearch.Proofs.Command.Limit
import PageSearch.Proofs.Command.Target
import PageSearch.Proofs.Index.Build
import PageSearch.Proofs.Index.Positive
import PageSearch.Proofs.Index.Postings
import PageSearch.Proofs.Index.Ranking
import PageSearch.Proofs.Index.Reordering
import PageSearch.Proofs.Index.Search
import PageSearch.Proofs.Index.StopWords
import PageSearch.Proofs.Index.Stored
import PageSearch.Proofs.Index.TermMap
import PageSearch.Proofs.Index.Weights
import PageSearch.Proofs.Index.Wording
import PageSearch.Proofs.Json.Numeral
import PageSearch.Proofs.Json.Sequence
import PageSearch.Proofs.Json.Spelling
import PageSearch.Proofs.Json.Tree
import PageSearch.Proofs.Markup.Comment
import PageSearch.Proofs.Markup.Entity
import PageSearch.Proofs.Markup.Escaped
import PageSearch.Proofs.Markup.HiddenBlock
import PageSearch.Proofs.Markup.HiddenElement
import PageSearch.Proofs.Markup.Pattern
import PageSearch.Proofs.Markup.Pieces
import PageSearch.Proofs.Markup.Settled
import PageSearch.Proofs.Markup.Tag
import PageSearch.Proofs.Navigation.Refusal
import PageSearch.Proofs.Number.Double
import PageSearch.Proofs.Number.Logarithm
import PageSearch.Proofs.Number.Packed
import PageSearch.Proofs.Number.Rounding
import PageSearch.Proofs.Number.Single
import PageSearch.Proofs.Number.Unpacked
import PageSearch.Proofs.Store.Construction
import PageSearch.Proofs.Store.File
import PageSearch.Proofs.Store.Fingerprint
import PageSearch.Proofs.Store.Position
import PageSearch.Proofs.Suggest.Agreement
import PageSearch.Proofs.Suggest.Dropdown
import PageSearch.Proofs.Suggest.Field
import PageSearch.Proofs.Suggest.Overlap
import PageSearch.Proofs.Suggest.Supersede
import PageSearch.Proofs.Term.Spelling
import PageSearch.Proofs.Term.Stem
import PageSearch.Proofs.Term.Words
import PageSearch.Proofs.Text.Blank
import PageSearch.Proofs.Text.Runs
import PageSearch.Proofs.Text.Snippet
import PageSearch.Record
import PageSearch.Relevance
import PageSearch.Report
import PageSearch.SearchError
import PageSearch.Similarity
import PageSearch.Snippet
import PageSearch.Store.Basic
import PageSearch.Store.Fingerprint
import PageSearch.Store.Load
import PageSearch.Suggest.Dropdown
import PageSearch.Suggest.Response
import PageSearch.Suggest.Session
import PageSearch.Suggest.Typeahead
import PageSearch.Term.Basic
import PageSearch.Term.Stem
import PageSearch.Term.Word
import PageSearch.Text.Blank
import PageSearch.Text.Case
import PageSearch.Text.Letter
import PageSearch.Text.Span
import PageSearch.Toml.Quoted
import PageSearch.Toml.Reader
import PageSearch.Toml.Scalar
import PageSearch.Toml.Table
import PageSearch.Toml.Value

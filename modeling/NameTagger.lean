import NameTagger.Chain.Best
import NameTagger.Chain.Selection
import NameTagger.Chain.Weights
import NameTagger.Command.Options
import NameTagger.Command.Train
import NameTagger.Command.Word
import NameTagger.Corpus.Basic
import NameTagger.Corpus.Load
import NameTagger.Corpus.Read
import NameTagger.Decimal.Binary
import NameTagger.Decimal.Layout
import NameTagger.Decimal.Read
import NameTagger.Decimal.Shortest
import NameTagger.Fault
import NameTagger.Feature.Basic
import NameTagger.Feature.Extract
import NameTagger.Feature.Form
import NameTagger.Feature.Group
import NameTagger.Files.Basic
import NameTagger.Files.Path
import NameTagger.Instance.Basic
import NameTagger.Instance.Build
import NameTagger.Instance.Learn
import NameTagger.Json.Read
import NameTagger.Json.Value
import NameTagger.Json.Standard
import NameTagger.Label.Basic
import NameTagger.Label.Column
import NameTagger.Lexicon
import NameTagger.Lexicon.Numbering
import NameTagger.Main
import NameTagger.Markup.Piece
import NameTagger.Markup.Scan
import NameTagger.Model.Basic
import NameTagger.Model.Library
import NameTagger.Model.Registry
import NameTagger.Model.Traffic
import NameTagger.Order.Merge
import NameTagger.Order.Run
import NameTagger.Order.Search
import NameTagger.Order.Sort
import NameTagger.Parse.Cache
import NameTagger.Parse.Decode
import NameTagger.Parse.Entry
import NameTagger.Parse.Result
import NameTagger.Parse.Tagger
import NameTagger.Proofs.Chain.Best
import NameTagger.Proofs.Chain.Emission
import NameTagger.Proofs.Chain.Labeling
import NameTagger.Proofs.Command.Numbers
import NameTagger.Proofs.Command.Train
import NameTagger.Proofs.Corpus.Acceptance
import NameTagger.Proofs.Corpus.Append
import NameTagger.Proofs.Corpus.Blame
import NameTagger.Proofs.Corpus.Clean
import NameTagger.Proofs.Corpus.Comment
import NameTagger.Proofs.Corpus.Grammar
import NameTagger.Proofs.Corpus.Load
import NameTagger.Proofs.Corpus.Reading
import NameTagger.Proofs.Corpus.RoundTrip
import NameTagger.Proofs.Corpus.Stats
import NameTagger.Proofs.Corpus.Step
import NameTagger.Proofs.Decimal.Order
import NameTagger.Proofs.Decimal.Sum
import NameTagger.Proofs.Feature.Near
import NameTagger.Proofs.Feature.OneLine
import NameTagger.Proofs.Feature.Parts
import NameTagger.Proofs.Feature.Place
import NameTagger.Proofs.Feature.Stem
import NameTagger.Proofs.Files.Change
import NameTagger.Proofs.Files.Grow
import NameTagger.Proofs.Files.Path
import NameTagger.Proofs.Files.Walk
import NameTagger.Proofs.Instance.Boundary
import NameTagger.Proofs.Instance.Build
import NameTagger.Proofs.Instance.Corpus
import NameTagger.Proofs.Instance.Learn
import NameTagger.Proofs.Instance.LineSafe
import NameTagger.Proofs.Instance.Vector
import NameTagger.Proofs.Json.Keys
import NameTagger.Proofs.Keyed
import NameTagger.Proofs.Lexicon
import NameTagger.Proofs.Lexicon.History
import NameTagger.Proofs.Lexicon.Numbering
import NameTagger.Proofs.Markup.Append
import NameTagger.Proofs.Markup.Scan
import NameTagger.Proofs.Markup.TagName
import NameTagger.Proofs.Markup.Tiling
import NameTagger.Proofs.Model.Account
import NameTagger.Proofs.Model.Action
import NameTagger.Proofs.Model.Load
import NameTagger.Proofs.Model.Registry
import NameTagger.Proofs.Model.Slots
import NameTagger.Proofs.Model.Traffic
import NameTagger.Proofs.Order.Stable
import NameTagger.Proofs.Parse.Best
import NameTagger.Proofs.Parse.Columns
import NameTagger.Proofs.Parse.History
import NameTagger.Proofs.Parse.Outcome
import NameTagger.Proofs.Parse.Parity
import NameTagger.Proofs.Parse.Prepare
import NameTagger.Proofs.Parse.Recording
import NameTagger.Proofs.Parse.Watch
import NameTagger.Proofs.Settings.Again
import NameTagger.Proofs.Settings.Completed
import NameTagger.Proofs.Settings.Load
import NameTagger.Proofs.Settings.Save
import NameTagger.Proofs.Text.Chunks
import NameTagger.Proofs.Text.Escape
import NameTagger.Proofs.Text.Words
import NameTagger.Proofs.Token
import NameTagger.Proofs.Token.Again
import NameTagger.Proofs.Token.Longest
import NameTagger.Proofs.Token.Split
import NameTagger.Proofs.Training.Calls
import NameTagger.Proofs.Training.Counts
import NameTagger.Proofs.Training.Lock
import NameTagger.Proofs.Training.LogLines
import NameTagger.Proofs.Training.Prepare
import NameTagger.Proofs.Training.Product
import NameTagger.Proofs.Training.Result
import NameTagger.Session
import NameTagger.Settings.Basic
import NameTagger.Settings.Groups
import NameTagger.Settings.Store
import NameTagger.Text.Blank
import NameTagger.Text.Case
import NameTagger.Text.Case.Spans
import NameTagger.Text.Digit
import NameTagger.Text.Lines
import NameTagger.Text.Printable
import NameTagger.Text.Quoted
import NameTagger.Text.Reference
import NameTagger.Text.Reference.Names
import NameTagger.Text.Span
import NameTagger.Token
import NameTagger.Training.Hyperparameters
import NameTagger.Training.LogLines
import NameTagger.Training.Pipeline
import NameTagger.Training.Result
import NameTagger.Training.Run
import NameTagger.Training.Target
import NameTagger.Training.Trainer

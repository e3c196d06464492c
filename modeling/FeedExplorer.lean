import FeedExplorer.Chain.Block
import FeedExplorer.Chain.Failure
import FeedExplorer.Chain.Protocol
import FeedExplorer.Chain.Query
import FeedExplorer.Chain.Wire
import FeedExplorer.Cli.Grammar
import FeedExplorer.Cli.Help
import FeedExplorer.Cli.Parse
import FeedExplorer.Cli.Run
import FeedExplorer.Cli.Similarity
import FeedExplorer.Config.Basic
import FeedExplorer.Config.Store
import FeedExplorer.Config.Text
import FeedExplorer.Disk.Basic
import FeedExplorer.Feed.Machine
import FeedExplorer.Feed.Notes
import FeedExplorer.Feed.State
import FeedExplorer.Feed.Timeline
import FeedExplorer.Files.Base64
import FeedExplorer.Files.Content
import FeedExplorer.Files.Name
import FeedExplorer.Files.Record
import FeedExplorer.Files.Transfer
import FeedExplorer.Json.Decode
import FeedExplorer.Json.Fault
import FeedExplorer.Json.Mismatch
import FeedExplorer.Json.Printer
import FeedExplorer.Json.Reader
import FeedExplorer.Json.Shape
import FeedExplorer.Json.Skipper
import FeedExplorer.Json.Value
import FeedExplorer.Log.Event
import FeedExplorer.Log.File
import FeedExplorer.Log.Filter
import FeedExplorer.Main
import FeedExplorer.Net.Exchange
import FeedExplorer.Net.Status
import FeedExplorer.Number.Binary64
import FeedExplorer.Number.Notation
import FeedExplorer.Number.Rounding
import FeedExplorer.Number.Shortest
import FeedExplorer.Number.Sum
import FeedExplorer.Number.Word
import FeedExplorer.Screen.Area
import FeedExplorer.Screen.Fold
import FeedExplorer.Screen.Grid
import FeedExplorer.Screen.Line
import FeedExplorer.Screen.Panel
import FeedExplorer.Screen.Split
import FeedExplorer.Screen.Style
import FeedExplorer.Session.Basic
import FeedExplorer.Session.Clocked
import FeedExplorer.Session.Key
import FeedExplorer.Session.LineInput
import FeedExplorer.Session.Loop
import FeedExplorer.Session.Terminal
import FeedExplorer.Source.Client
import FeedExplorer.Source.Envelope
import FeedExplorer.Source.Supply
import FeedExplorer.Text.Blank
import FeedExplorer.Text.Cluster
import FeedExplorer.Text.Field
import FeedExplorer.Text.Hex
import FeedExplorer.Text.Lines
import FeedExplorer.Text.Property.Alphanumeric
import FeedExplorer.Text.Property.CellWidth
import FeedExplorer.Text.Property.ClusterBreak
import FeedExplorer.Text.Property.GraphemeExtend
import FeedExplorer.Text.Property.Unprintable
import FeedExplorer.Text.Quoted
import FeedExplorer.Text.Ranges
import FeedExplorer.Text.Width
import FeedExplorer.Toml.Fault
import FeedExplorer.Toml.Number
import FeedExplorer.Toml.Reader
import FeedExplorer.Toml.Table
import FeedExplorer.Toml.Text
import FeedExplorer.Toml.Value
import FeedExplorer.Trouble
import FeedExplorer.Url.Basic
import FeedExplorer.Url.Host
import FeedExplorer.Url.Parser
import FeedExplorer.Url.Percent
import FeedExplorer.Url.Punycode
import FeedExplorer.View.Basic
import FeedExplorer.View.BlockPage
import FeedExplorer.View.FeedPage
import FeedExplorer.View.Field
import FeedExplorer.View.Input
import FeedExplorer.View.Row
import FeedExplorer.View.Setup
import FeedExplorer.Proofs.Feed.Numbering
import FeedExplorer.Proofs.Feed.Overtaking
import FeedExplorer.Proofs.Feed.History
import FeedExplorer.Proofs.Feed.Retention
import FeedExplorer.Proofs.Feed.Silence
import FeedExplorer.Proofs.Feed.Arrival
import FeedExplorer.Proofs.Feed.Ticking
import FeedExplorer.Proofs.Feed.Distinctness
import FeedExplorer.Proofs.Json.Record
import FeedExplorer.Proofs.Json.Kinds
import FeedExplorer.Proofs.Chain.Grammar
import FeedExplorer.Proofs.Chain.Agreement
import FeedExplorer.Proofs.Source.Outcome
import FeedExplorer.Proofs.Json.Token
import FeedExplorer.Proofs.Json.Reading
import FeedExplorer.Proofs.Json.Skipping
import FeedExplorer.Proofs.Json.Loop
import FeedExplorer.Proofs.Source.Envelope
import FeedExplorer.Proofs.Json.Rewriting
import FeedExplorer.Proofs.Files.Record
import FeedExplorer.Proofs.Source.Payload
import FeedExplorer.Proofs.Number.Digits
import FeedExplorer.Proofs.Json.Writing
import FeedExplorer.Proofs.Source.Writing
import FeedExplorer.Proofs.Toml.Quoting
import FeedExplorer.Proofs.Toml.Entries
import FeedExplorer.Proofs.Config.Text
import FeedExplorer.Proofs.Disk.Writing
import FeedExplorer.Proofs.Config.Store
import FeedExplorer.Proofs.Session.Setup
import FeedExplorer.Proofs.Cli.Persistence
import FeedExplorer.Proofs.Session.Search
import FeedExplorer.Proofs.Session.Highlight
import FeedExplorer.Proofs.Files.Name
import FeedExplorer.Proofs.Files.Download
import FeedExplorer.Proofs.Files.Base64
import FeedExplorer.Proofs.Files.Content
import FeedExplorer.Proofs.Net.Sending
import FeedExplorer.Proofs.Files.RoundTrip
import FeedExplorer.Proofs.Source.Address
import FeedExplorer.Proofs.Cli.Acceptance
import FeedExplorer.Proofs.Session.Status
import FeedExplorer.Proofs.Screen.Strips
import FeedExplorer.Proofs.Screen.Stroke
import FeedExplorer.Proofs.Screen.Listing
import FeedExplorer.Proofs.View.Listed
import FeedExplorer.Proofs.View.FeedPage
import FeedExplorer.Proofs.View.BlockPage
import FeedExplorer.Proofs.Session.OpenBlock
import FeedExplorer.Proofs.View.Fitting
import FeedExplorer.Proofs.Text.Beginning
import FeedExplorer.Proofs.Session.Scrolling
import FeedExplorer.Proofs.Screen.Cutting
import FeedExplorer.Proofs.View.Typing
import FeedExplorer.Proofs.Session.Submission
import FeedExplorer.Proofs.Chain.Minted
import FeedExplorer.Proofs.Source.MintReply
import FeedExplorer.Proofs.Files.Canonical
import FeedExplorer.Proofs.Text.Trimming
import FeedExplorer.Proofs.Files.Payload
import FeedExplorer.Proofs.Chain.Narrowing
import FeedExplorer.Proofs.Url.Segments
import FeedExplorer.Proofs.Source.Endpoint
import FeedExplorer.Proofs.View.Columns
import FeedExplorer.Proofs.View.OnScreen
import FeedExplorer.Proofs.View.Sums
import FeedExplorer.Proofs.Number.Exact
import FeedExplorer.Proofs.Number.Numeral
import FeedExplorer.Proofs.View.Amount

import FlagSheet.Engine.Run
import FlagSheet.Main
import FlagSheet.Node.Json
import FlagSheet.SlugMap.Lemmas
import FlagSheet.Proofs.Document.Append
import FlagSheet.Proofs.Document.Grammar
import FlagSheet.Proofs.Engine.Announcement
import FlagSheet.Proofs.Engine.Staleness
import FlagSheet.Proofs.Evaluation
import FlagSheet.Proofs.Cache.Place
import FlagSheet.Proofs.Cache.Poll
import FlagSheet.Proofs.Cache.Round
import FlagSheet.Proofs.Cache.Interleaving
import FlagSheet.Proofs.Cache.Sharing
import FlagSheet.Proofs.Cache.Simulation
import FlagSheet.Proofs.Cache.Invalidation
import FlagSheet.Proofs.Engine.Delivery
import FlagSheet.Proofs.Engine.OwnKey
import FlagSheet.Proofs.Engine.Together
import FlagSheet.Proofs.Engine.Secrecy
import FlagSheet.Proofs.Document.Exchange
import FlagSheet.Proofs.Document.Arming
import FlagSheet.Proofs.Markup.LineEnd
import FlagSheet.Proofs.Text.LineEnd
import FlagSheet.Proofs.Document.LineEnd
import FlagSheet.Proofs.Document.Sheet
import FlagSheet.Proofs.Slug
import FlagSheet.Proofs.Document.Naming
import FlagSheet.Proofs.Document.Titled
import FlagSheet.Proofs.Slug.Canonical
import FlagSheet.Proofs.Cache.Lives
import FlagSheet.Proofs.Cache.Failure
import FlagSheet.Proofs.Config.Sound
import FlagSheet.Proofs.Slug.Case
import FlagSheet.Proofs.Engine.Spelling
import FlagSheet.Proofs.Engine.Resolution
import FlagSheet.Proofs.Engine.Uncached
import FlagSheet.Proofs.Evaluation.Calls
import FlagSheet.Proofs.Feature.Row
import FlagSheet.Proofs.Bytes.Order
import FlagSheet.Proofs.CommandLine.Condition
import FlagSheet.Proofs.CommandLine.Evaluation
import FlagSheet.Proofs.Json.Record
import FlagSheet.Proofs.Webhook.Event
import FlagSheet.Proofs.Document.Silent
import FlagSheet.Proofs.Document.FirstLine
import FlagSheet.Proofs.Json.RoundTrip
import FlagSheet.Proofs.Node.Source
import FlagSheet.Proofs.Checkbox
import FlagSheet.Proofs.Node.Heading
import FlagSheet.Proofs.Document.Reader

import HomeVoice.Api.Handlers
import HomeVoice.Config.Environment
import HomeVoice.Gbnf.Language
import HomeVoice.Gbnf.Reading
import HomeVoice.Proofs.Api.Frame
import HomeVoice.Proofs.Api.ReadBack
import HomeVoice.Proofs.Api.Requests
import HomeVoice.Proofs.Classifier.Spelling
import HomeVoice.Proofs.Codec.Artifact
import HomeVoice.Proofs.Codec.Device
import HomeVoice.Proofs.Codec.Documents
import HomeVoice.Proofs.Command.Canonical
import HomeVoice.Proofs.Command.Execution
import HomeVoice.Proofs.Command.Reading
import HomeVoice.Proofs.Command.Resolution
import HomeVoice.Proofs.Command.Sentence
import HomeVoice.Proofs.Config.Address
import HomeVoice.Proofs.Conversion
import HomeVoice.Proofs.Conversion.Monotone
import HomeVoice.Proofs.Decimal.Layout
import HomeVoice.Proofs.Decimal.Nearest
import HomeVoice.Proofs.Decimal.Order
import HomeVoice.Proofs.Decimal.Packing
import HomeVoice.Proofs.Decimal.Reading
import HomeVoice.Proofs.Decimal.RoundTrip
import HomeVoice.Proofs.Decimal.Rounding
import HomeVoice.Proofs.Gbnf.Language
import HomeVoice.Proofs.Gbnf.Reading
import HomeVoice.Proofs.Grammar.Commands
import HomeVoice.Proofs.Grammar.Generation
import HomeVoice.Proofs.Grammar.Influence
import HomeVoice.Proofs.Grammar.Language
import HomeVoice.Proofs.Grammar.Naming
import HomeVoice.Proofs.Grammar.Rules
import HomeVoice.Proofs.Grammar.Sameness
import HomeVoice.Proofs.Grammar.Stems
import HomeVoice.Proofs.Grammar.Verdict
import HomeVoice.Proofs.Import.Again
import HomeVoice.Proofs.Import.Commit
import HomeVoice.Proofs.Import.Items
import HomeVoice.Proofs.Import.Merging
import HomeVoice.Proofs.Import.Report
import HomeVoice.Proofs.Json.Decoding
import HomeVoice.Proofs.Json.Number
import HomeVoice.Proofs.Json.Reading
import HomeVoice.Proofs.Json.Records
import HomeVoice.Proofs.Name
import HomeVoice.Proofs.Registry.Changesets
import HomeVoice.Proofs.Registry.Commuting
import HomeVoice.Proofs.Registry.Entry
import HomeVoice.Proofs.Registry.InPlace
import HomeVoice.Proofs.Registry.Overlay
import HomeVoice.Proofs.Registry.Restoration
import HomeVoice.Proofs.Registry.Runs
import HomeVoice.Proofs.Registry.Same
import HomeVoice.Proofs.Registry.Sound
import HomeVoice.Proofs.Registry.Validation
import HomeVoice.Proofs.Registry.Versions
import HomeVoice.Proofs.Service.Course
import HomeVoice.Proofs.Service.Dropped
import HomeVoice.Proofs.Service.Serial
import HomeVoice.Proofs.Service.Steps
import HomeVoice.Proofs.Store.ArtifactCache
import HomeVoice.Proofs.Store.Registry
import HomeVoice.Proofs.System.Calls
import HomeVoice.Proofs.System.Dispatch
import HomeVoice.Proofs.System.Durability
import HomeVoice.Proofs.System.Effects
import HomeVoice.Proofs.System.Entry
import HomeVoice.Proofs.System.Steps
import HomeVoice.Proofs.System.VersionLimit
import HomeVoice.Proofs.System.WarmStart
import HomeVoice.Proofs.Text.Lower
import HomeVoice.Proofs.Text.Pieces
import HomeVoice.Proofs.Text.Plain
import HomeVoice.Proofs.Text.Spelling
import HomeVoice.Proofs.Text.Words
import HomeVoice.Proofs.Worker.Debounce
import HomeVoice.Proofs.Worker.Progress
import HomeVoice.Proofs.Worker.Requests
import HomeVoice.Proofs.Worker.Serving
import HomeVoice.Proofs.Worker.Steps
import HomeVoice.Proofs.Worker.Timed
import HomeVoice.Store.Database
import HomeVoice.Store.Memory

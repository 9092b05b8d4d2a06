import SecretRefs.Main
import SecretRefs.Tree.Schedule
import SecretRefs.Proofs.Turns
import SecretRefs.Proofs.Tree.Resolution
import SecretRefs.Proofs.Text.Title
import SecretRefs.Proofs.Store.FirstMatch
import SecretRefs.Proofs.Store.Reachable
import SecretRefs.Proofs.Upsert.InMemory
import SecretRefs.Proofs.Upsert.Effect
import SecretRefs.Proofs.Upsert.LastWrite
import SecretRefs.Proofs.Upsert.Frame
import SecretRefs.Proofs.Connect.Codec
import SecretRefs.Proofs.Upsert.ReadBack
import SecretRefs.Proofs.Connect.Server
import SecretRefs.Proofs.Upsert.OnServer
import SecretRefs.Proofs.Upsert.Trace
import SecretRefs.Proofs.Tree.View
import SecretRefs.Proofs.Tree.Concurrency
import SecretRefs.Proofs.Json.Keys
import SecretRefs.Proofs.Tree.Report
import SecretRefs.Proofs.Tree.OnePass
import SecretRefs.Proofs.Connect.Attributes
import SecretRefs.Proofs.Upsert.Replacement
import SecretRefs.Proofs.Tree.Turn
import SecretRefs.Proofs.Reference.Grammar
import SecretRefs.Proofs.Connect.Agreement
import SecretRefs.Proofs.TwoRuns
import SecretRefs.Proofs.Tree.Redacted
import SecretRefs.Proofs.Command.Redacted
import SecretRefs.Proofs.Interplay
import SecretRefs.Proofs.Upsert.Assurance
import SecretRefs.Proofs.Upsert.Together
import SecretRefs.Proofs.Store.Answer
import SecretRefs.Proofs.Store.Numbering
import SecretRefs.Proofs.Store.FailedCall
import SecretRefs.Proofs.Store.Writing
import SecretRefs.Proofs.Store.Kept
import SecretRefs.Proofs.Connect.Resolution
import SecretRefs.Proofs.Settings.Precedence
import SecretRefs.Proofs.Connect.Shared
import SecretRefs.Proofs.Connect.Usable
import SecretRefs.Proofs.Vault.Codec
import SecretRefs.Proofs.Connect.RoundTrip
import SecretRefs.Proofs.Tree.Position
import SecretRefs.Proofs.Tree.Coverage
import SecretRefs.Proofs.Settings.VariableEffect
import SecretRefs.Proofs.Connect.Sections
import SecretRefs.Proofs.Connect.Unmodelled
import SecretRefs.Proofs.Tree.Shape
import SecretRefs.Proofs.Tree.Path
import SecretRefs.Proofs.Redaction
import SecretRefs.Proofs.Text.Line
import SecretRefs.Proofs.Settings.KeyPlace
import SecretRefs.Proofs.Settings.KeySpan
import SecretRefs.Proofs.Settings.KeyTable
import SecretRefs.Proofs.Command.Lines
import SecretRefs.Proofs.Connect.Bodies

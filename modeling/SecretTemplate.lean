import SecretTemplate.Text.Redacted
import SecretTemplate.Json.Reading
import SecretTemplate.Store.Scripted
import SecretTemplate.Run
import SecretTemplate.Url.Parser
import SecretTemplate.Settings.Check
import SecretTemplate.Vault.Login
import SecretTemplate.CommandLine.Program
import SecretTemplate.Http.Wire
import SecretTemplate.Http.Replay
import SecretTemplate.Main
import SecretTemplate.Proofs.Resolution.Sequential
import SecretTemplate.Proofs.Resolution.Independence
import SecretTemplate.Proofs.Placeholder.Rendering
import SecretTemplate.Proofs.Placeholder.Spans
import SecretTemplate.Proofs.Engine.Queries
import SecretTemplate.Proofs.Resolution.Accounting
import SecretTemplate.Proofs.Run.InPlace
import SecretTemplate.Proofs.Vault.Authentication
import SecretTemplate.Proofs.Run.OneFile
import SecretTemplate.Proofs.Run.Tolerance
import SecretTemplate.Proofs.Run.Output
import SecretTemplate.Proofs.Vault.Targets
import SecretTemplate.Proofs.Placeholder.Landings
import SecretTemplate.Proofs.Placeholder.Replacing
import SecretTemplate.Proofs.Run.Calls
import SecretTemplate.Proofs.Run.Secrecy
import SecretTemplate.Proofs.Placeholder.Grammar
import SecretTemplate.Proofs.Resolution.Places
import SecretTemplate.Proofs.Run.Report
import SecretTemplate.Proofs.Vault.TokenLife
import SecretTemplate.Proofs.Reference.Printing
import SecretTemplate.Proofs.Engine.Filing
import SecretTemplate.Proofs.Resolution.ProperPaths
import SecretTemplate.Proofs.Resolution.Interchange
import SecretTemplate.Proofs.Vault.Classification
import SecretTemplate.Proofs.Vault.Values
import SecretTemplate.Proofs.Vault.Endpoints
import SecretTemplate.Proofs.Batch.Elements
import SecretTemplate.Proofs.Resolution.Aggregate

import AccountKeeper.Account
import AccountKeeper.Accounts.Document
import AccountKeeper.Accounts.Register
import AccountKeeper.Accounts.Store
import AccountKeeper.Accounts.Table
import AccountKeeper.Action
import AccountKeeper.Age.Fault
import AccountKeeper.Age.Header
import AccountKeeper.Age.Passphrase
import AccountKeeper.Age.Payload
import AccountKeeper.Association
import AccountKeeper.Cancellation
import AccountKeeper.CommandLine
import AccountKeeper.Config
import AccountKeeper.Crypto.ChaCha20
import AccountKeeper.Crypto.Draws
import AccountKeeper.Crypto.Hmac
import AccountKeeper.Crypto.Poly1305
import AccountKeeper.Crypto.Scrypt
import AccountKeeper.Crypto.SealedBox
import AccountKeeper.Crypto.Sha256
import AccountKeeper.Crypto.WordBlock
import AccountKeeper.Decimal.Binary64
import AccountKeeper.Environment
import AccountKeeper.Failure
import AccountKeeper.Files.Branch
import AccountKeeper.Files.Fault
import AccountKeeper.Files.Path
import AccountKeeper.Files.System
import AccountKeeper.Files.Tree
import AccountKeeper.Http
import AccountKeeper.Identity
import AccountKeeper.Journal
import AccountKeeper.JsonValue
import AccountKeeper.Legacy.Credential
import AccountKeeper.Legacy.Settings
import AccountKeeper.Legacy.SettingsFile
import AccountKeeper.Legacy.Store
import AccountKeeper.LogDirective
import AccountKeeper.LogFilter
import AccountKeeper.LogFormat
import AccountKeeper.LogLine
import AccountKeeper.Logging
import AccountKeeper.LoginForm
import AccountKeeper.Main
import AccountKeeper.Migration
import AccountKeeper.Program
import AccountKeeper.Progress
import AccountKeeper.Proofs.Accounts.Agreement
import AccountKeeper.Proofs.Accounts.Desk
import AccountKeeper.Proofs.Accounts.Document
import AccountKeeper.Proofs.Accounts.Interfaces
import AccountKeeper.Proofs.Accounts.Listing
import AccountKeeper.Proofs.Accounts.Rollback
import AccountKeeper.Proofs.Accounts.Sharing
import AccountKeeper.Proofs.Accounts.Table
import AccountKeeper.Proofs.Accounts.TokenBinding
import AccountKeeper.Proofs.Action
import AccountKeeper.Proofs.Config
import AccountKeeper.Proofs.Files.Changes
import AccountKeeper.Proofs.Files.Lodging
import AccountKeeper.Proofs.Files.Path
import AccountKeeper.Proofs.Files.Ways
import AccountKeeper.Proofs.Keeping
import AccountKeeper.Proofs.Legacy.Clearing
import AccountKeeper.Proofs.Legacy.Documents
import AccountKeeper.Proofs.Legacy.Writing
import AccountKeeper.Proofs.Migration.Attempts
import AccountKeeper.Proofs.Migration.Convergence
import AccountKeeper.Proofs.Migration.Course
import AccountKeeper.Proofs.Migration.Decision
import AccountKeeper.Proofs.Migration.Erasure
import AccountKeeper.Proofs.Migration.Holdings
import AccountKeeper.Proofs.Migration.Phases
import AccountKeeper.Proofs.Migration.Protocol
import AccountKeeper.Proofs.Migration.Rehearsal
import AccountKeeper.Proofs.Migration.Run
import AccountKeeper.Proofs.Migration.Secrecy
import AccountKeeper.Proofs.Migration.SharedSecrets
import AccountKeeper.Proofs.Parallel
import AccountKeeper.Proofs.Progress
import AccountKeeper.Proofs.Schedules
import AccountKeeper.Proofs.Secrets.Calls
import AccountKeeper.Proofs.Secrets.Chain
import AccountKeeper.Proofs.Secrets.Confinement
import AccountKeeper.Proofs.Secrets.Damage
import AccountKeeper.Proofs.Secrets.Entries
import AccountKeeper.Proofs.Secrets.Erasing
import AccountKeeper.Proofs.Secrets.Fallback
import AccountKeeper.Proofs.Secrets.Managers
import AccountKeeper.Proofs.Secrets.Mirror
import AccountKeeper.Proofs.Secrets.Neighbours
import AccountKeeper.Proofs.Secrets.Passwords
import AccountKeeper.Proofs.Secrets.Strongroom
import AccountKeeper.Proofs.Secrets.Vault
import AccountKeeper.Proofs.Server.Blame
import AccountKeeper.Proofs.Server.Classification
import AccountKeeper.Proofs.Server.Destination
import AccountKeeper.Proofs.Server.Endpoint
import AccountKeeper.Proofs.Server.Form
import AccountKeeper.Proofs.Server.Lookup
import AccountKeeper.Proofs.Server.Rereading
import AccountKeeper.Proofs.Terminal.Acceptance
import AccountKeeper.Proofs.Terminal.Advice
import AccountKeeper.Proofs.Terminal.Inspection
import AccountKeeper.Proofs.Terminal.Looking
import AccountKeeper.Proofs.Terminal.Opening
import AccountKeeper.Proofs.Terminal.Refusal
import AccountKeeper.Proofs.Terminal.Report
import AccountKeeper.Proofs.Terminal.Settlement
import AccountKeeper.Proofs.Terminal.Stores
import AccountKeeper.Proofs.Terminal.Talk
import AccountKeeper.Proofs.Terminal.Visit
import AccountKeeper.Proofs.Terminal.Vouching
import AccountKeeper.Proofs.Terminal.Workstation
import AccountKeeper.Proofs.Text.Lowercase
import AccountKeeper.Proofs.Text.Normalization
import AccountKeeper.Proofs.Toml.Digits
import AccountKeeper.Proofs.Toml.Items
import AccountKeeper.Proofs.Toml.Keys
import AccountKeeper.Proofs.Toml.Lines
import AccountKeeper.Proofs.Toml.Sections
import AccountKeeper.Proofs.Toml.Text
import AccountKeeper.Proofs.Url.Address
import AccountKeeper.Proofs.Url.Host
import AccountKeeper.Proofs.Uuid
import AccountKeeper.Scheme
import AccountKeeper.Scripted.Collaborators
import AccountKeeper.Scripted.Workbench
import AccountKeeper.Secrets.Chain
import AccountKeeper.Secrets.Cipher
import AccountKeeper.Secrets.Encrypted
import AccountKeeper.Secrets.Key
import AccountKeeper.Secrets.Keyring
import AccountKeeper.Secrets.Settings
import AccountKeeper.Secrets.Setup
import AccountKeeper.Secrets.Store
import AccountKeeper.Server
import AccountKeeper.Session
import AccountKeeper.Terminal
import AccountKeeper.Terminal.Login
import AccountKeeper.Text.Alphanumeric
import AccountKeeper.Text.Ascii
import AccountKeeper.Text.Base64
import AccountKeeper.Text.Bisection
import AccountKeeper.Text.Blank
import AccountKeeper.Text.CodeMap
import AccountKeeper.Text.CodeSet
import AccountKeeper.Text.Direction
import AccountKeeper.Text.Joining
import AccountKeeper.Text.Lowercase
import AccountKeeper.Text.Lowercase.Table
import AccountKeeper.Text.Mark
import AccountKeeper.Text.Normalization
import AccountKeeper.Text.Normalization.Table
import AccountKeeper.Text.Pieces
import AccountKeeper.Text.Printable
import AccountKeeper.Text.Quoted
import AccountKeeper.Text.Resemblance
import AccountKeeper.Text.Utf8
import AccountKeeper.Toml.Datetime
import AccountKeeper.Toml.Decoder
import AccountKeeper.Toml.Document
import AccountKeeper.Toml.Fault
import AccountKeeper.Toml.Item
import AccountKeeper.Toml.Literal
import AccountKeeper.Toml.Printer
import AccountKeeper.Toml.Value
import AccountKeeper.Url
import AccountKeeper.Url.Domain
import AccountKeeper.Url.Domain.Mapping
import AccountKeeper.Url.Host
import AccountKeeper.Url.Percent
import AccountKeeper.Url.Punycode
import AccountKeeper.Uuid
import AccountKeeper.Validator

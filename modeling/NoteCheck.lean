import NoteCheck.Api.Answer
import NoteCheck.Api.Host
import NoteCheck.Api.Request
import NoteCheck.Api.Route
import NoteCheck.Api.Url
import NoteCheck.Calendar.Date
import NoteCheck.Calendar.IsoText
import NoteCheck.Calendar.LongText
import NoteCheck.Calendar.MailText
import NoteCheck.Calendar.Names
import NoteCheck.Calendar.Precision
import NoteCheck.Calendar.Timestamp
import NoteCheck.Check.Cache
import NoteCheck.Check.Declaration
import NoteCheck.Check.Schema
import NoteCheck.Check.Violation
import NoteCheck.Checker.Activation
import NoteCheck.Checker.Checking
import NoteCheck.Checker.Desk
import NoteCheck.Checker.Journal
import NoteCheck.CommandLine.Options
import NoteCheck.CommandLine.Run
import NoteCheck.Disk.Edit
import NoteCheck.Disk.Locate
import NoteCheck.Disk.Path
import NoteCheck.Disk.RealPath
import NoteCheck.Disk.TextFile
import NoteCheck.Disk.Tree
import NoteCheck.Fault
import NoteCheck.Json.File
import NoteCheck.Json.Octets
import NoteCheck.Json.Read
import NoteCheck.Json.Write
import NoteCheck.Main
import NoteCheck.Note.Basic
import NoteCheck.Note.Frontmatter
import NoteCheck.Note.Title
import NoteCheck.Number.Binary64
import NoteCheck.Number.Decimal
import NoteCheck.Session
import NoteCheck.Settings.Basic
import NoteCheck.Settings.Lookup
import NoteCheck.Text.Blank
import NoteCheck.Text.Digit
import NoteCheck.Text.Line
import NoteCheck.Text.Numeral
import NoteCheck.Text.Quoted
import NoteCheck.Text.Seen
import NoteCheck.Text.Split
import NoteCheck.Text.Utf8
import NoteCheck.Timing.Calls
import NoteCheck.Timing.Debouncer
import NoteCheck.Timing.Schedule
import NoteCheck.Typing.DateText
import NoteCheck.Typing.PropertyType
import NoteCheck.Typing.Shape
import NoteCheck.Value.Basic
import NoteCheck.Value.KeyText
import NoteCheck.Value.Same
import NoteCheck.Vault.Basic
import NoteCheck.Vault.Listing
import NoteCheck.Vault.Name
import NoteCheck.Vault.Notes
import NoteCheck.Yaml.Base64
import NoteCheck.Yaml.Cursor
import NoteCheck.Yaml.Document
import NoteCheck.Yaml.Lexeme.Block
import NoteCheck.Yaml.Lexeme.Name
import NoteCheck.Yaml.Lexeme.Plain
import NoteCheck.Yaml.Lexeme.Quoted
import NoteCheck.Yaml.Meaning
import NoteCheck.Yaml.Moment
import NoteCheck.Yaml.Node
import NoteCheck.Yaml.Scalar
import NoteCheck.Yaml.Stream
import NoteCheck.Yaml.Tag
import NoteCheck.Yaml.Token
import NoteCheck.Proofs.Cache.Fetch
import NoteCheck.Proofs.Cache.History
import NoteCheck.Proofs.Checker.Acts
import NoteCheck.Proofs.Checker.Requests
import NoteCheck.Proofs.Checker.Transparency
import NoteCheck.Proofs.Disk.PathText
import NoteCheck.Proofs.Disk.Resolution
import NoteCheck.Proofs.Vault.Containment
import NoteCheck.Proofs.Check.Oversized
import NoteCheck.Proofs.Checker.WholeVault
import NoteCheck.Proofs.Yaml.Cutting
import NoteCheck.Proofs.Yaml.Grammar
import NoteCheck.Proofs.Yaml.Building
import NoteCheck.Proofs.Note.Frontmatter
import NoteCheck.Proofs.Checker.Publication
import NoteCheck.Proofs.Timing.LastSubmission
import NoteCheck.Proofs.Timing.Armed
import NoteCheck.Proofs.Timing.TrailingEdge
import NoteCheck.Proofs.Typing.Agreement
import NoteCheck.Proofs.Checker.Entries
import NoteCheck.Proofs.Checker.Renewal
import NoteCheck.Proofs.Checker.Inventory
import NoteCheck.Proofs.Checker.Clockwork
import NoteCheck.Proofs.Checker.Submissions
import NoteCheck.Proofs.Checker.Past
import NoteCheck.Proofs.Checker.NewVault
import NoteCheck.Proofs.Check.Totality
import NoteCheck.Proofs.Typing.TimeOfDay
import NoteCheck.Proofs.Note.Moments
import NoteCheck.Proofs.Api.SaveSettings
import NoteCheck.Proofs.Check.Report
import NoteCheck.Proofs.Note.Block
import NoteCheck.Proofs.Note.Fences
import NoteCheck.Proofs.Note.Inside
import NoteCheck.Proofs.Checker.BrokenOff
import NoteCheck.Proofs.Checker.FailedSwitch
import NoteCheck.Proofs.Vault.Listing
import NoteCheck.Proofs.Checker.AnyOrder
import NoteCheck.Proofs.Settings.FailedSave
import NoteCheck.Proofs.Api.UsableSettings
import NoteCheck.Proofs.Check.Declared
import NoteCheck.Proofs.Api.NoObject
import NoteCheck.Proofs.Checker.Accounts
import NoteCheck.Proofs.Disk.ZeroFree
import NoteCheck.Proofs.Disk.Opening
import NoteCheck.Proofs.Disk.Within
import NoteCheck.Proofs.Vault.Inside
import NoteCheck.Proofs.Typing.FourDigits
import NoteCheck.Proofs.Note.Names

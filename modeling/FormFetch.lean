import FormFetch.Auth.Basic
import FormFetch.Auth.Digest
import FormFetch.Auth.Param
import FormFetch.Bytes.Base64
import FormFetch.Bytes.Hex
import FormFetch.Bytes.Words
import FormFetch.CommandLine.Basic
import FormFetch.CommandLine.Help
import FormFetch.CommandLine.Parser
import FormFetch.CommandLine.Usage
import FormFetch.Credentials.Basic
import FormFetch.Credentials.Store
import FormFetch.Environment
import FormFetch.Files.Disk
import FormFetch.Files.Path
import FormFetch.Hash.Md5
import FormFetch.Hash.Sha256
import FormFetch.Http.Date
import FormFetch.Http.Failure
import FormFetch.Http.Headers
import FormFetch.Http.Request
import FormFetch.Http.Response
import FormFetch.Http.Status
import FormFetch.Json.Entries
import FormFetch.Json.Fault
import FormFetch.Json.Scan
import FormFetch.Main
import FormFetch.Markup.Attribute
import FormFetch.Markup.Document
import FormFetch.Markup.Event
import FormFetch.Markup.Reference
import FormFetch.OpenRosa.Basic
import FormFetch.Program.Basic
import FormFetch.Program.Console
import FormFetch.Prompt.Basic
import FormFetch.Prompt.Dialogue
import FormFetch.Prompt.Handler
import FormFetch.Session.Basic
import FormFetch.Session.Fetch
import FormFetch.Settings.Basic
import FormFetch.Settings.Reader
import FormFetch.Text.Blank
import FormFetch.Text.Composition
import FormFetch.Text.Marks
import FormFetch.Text.NormalForm
import FormFetch.Text.Number
import FormFetch.Text.Printable
import FormFetch.Text.Quoted
import FormFetch.Text.Runs
import FormFetch.Text.Shortest
import FormFetch.Text.Utf8
import FormFetch.Transport.Client
import FormFetch.Transport.Network
import FormFetch.Transport.Redirect
import FormFetch.Url.Basic
import FormFetch.Url.DirectionTable
import FormFetch.Url.Domain
import FormFetch.Url.Host
import FormFetch.Url.JoiningTable
import FormFetch.Url.Label
import FormFetch.Url.Mapping
import FormFetch.Url.MappingTable
import FormFetch.Url.Percent
import FormFetch.Url.Punycode
import FormFetch.Vault.ChaCha20
import FormFetch.Vault.Payload
import FormFetch.Vault.Poly1305
import FormFetch.Vault.Seal
import FormFetch.Vault.Storage
import FormFetch.Proofs.Transport.Record
import FormFetch.Proofs.Transport.Interleaving
import FormFetch.Proofs.Credentials.Lookup
import FormFetch.Proofs.Auth.Grammar
import FormFetch.Proofs.Session.Retry
import FormFetch.Proofs.Text.Trim
import FormFetch.Proofs.Text.Strip
import FormFetch.Proofs.Text.Utf8
import FormFetch.Proofs.Url.Target
import FormFetch.Proofs.Http.Fields
import FormFetch.Proofs.Auth.Answer
import FormFetch.Proofs.Auth.Digest
import FormFetch.Proofs.Auth.Spelling
import FormFetch.Proofs.Transport.Admission
import FormFetch.Proofs.Auth.Basic
import FormFetch.Proofs.Auth.Characters
import FormFetch.Proofs.Auth.Verification
import FormFetch.Proofs.Auth.ChallengeList
import FormFetch.Proofs.Session.Origin
import FormFetch.Proofs.Vault.Payload
import FormFetch.Proofs.Vault.Storage
import FormFetch.Proofs.Text.NormalForm
import FormFetch.Proofs.Url.Front
import FormFetch.Proofs.Url.Stray
import FormFetch.Proofs.Credentials.Origin
import FormFetch.Proofs.Session.Origin
import FormFetch.Proofs.Markup.Ending
import FormFetch.Proofs.Markup.Reference
import FormFetch.Proofs.Markup.Attribute
import FormFetch.Proofs.Markup.Scan
import FormFetch.Proofs.Markup.Writing
import FormFetch.Proofs.Markup.Piece
import FormFetch.Proofs.Markup.Cut
import FormFetch.Proofs.Markup.Place
import FormFetch.Proofs.Markup.Content
import FormFetch.Proofs.Markup.Transparency
import FormFetch.Proofs.Credentials.History
import FormFetch.Proofs.Credentials.Laws
import FormFetch.Proofs.Url.OriginText
import FormFetch.Proofs.Transport.Isolation
import FormFetch.Proofs.Transport.Effect
import FormFetch.Proofs.Transport.Provenance
import FormFetch.Proofs.Session.Secrecy
import FormFetch.Proofs.Session.Classification
import FormFetch.Proofs.Transport.Overlap
import FormFetch.Proofs.Transport.Unsendable
import FormFetch.Proofs.Settings.Value
import FormFetch.Proofs.Settings.Quotation
import FormFetch.Proofs.Program.DefaultName
import FormFetch.Proofs.OpenRosa.AcceptedLength
import FormFetch.Proofs.Files.Folder
import FormFetch.Proofs.Credentials.Revision
import FormFetch.Proofs.Program.Saving
import FormFetch.Proofs.Url.Padding
import FormFetch.Proofs.Transport.Query

import Wayfare.Client.Basic
import Wayfare.Client.Catalogue
import Wayfare.Client.Dispatch
import Wayfare.Client.Headers
import Wayfare.Client.Page
import Wayfare.Decimal.Double
import Wayfare.Decimal.Shortest
import Wayfare.Error
import Wayfare.Fields
import Wayfare.Journal
import Wayfare.Json.Basic
import Wayfare.Json.Fault
import Wayfare.Json.Printer
import Wayfare.Json.Reader
import Wayfare.Json.Scan
import Wayfare.Json.Shape
import Wayfare.Json.Skip
import Wayfare.Network
import Wayfare.Page.Envelope
import Wayfare.Page.Offset
import Wayfare.Proofs.Client.Company
import Wayfare.Proofs.Client.Counters
import Wayfare.Proofs.Client.Decoding
import Wayfare.Proofs.Client.Discretion
import Wayfare.Proofs.Client.Dispatch
import Wayfare.Proofs.Client.Identifiers
import Wayfare.Proofs.Client.Links
import Wayfare.Proofs.Client.Offsets
import Wayfare.Proofs.Client.Queries
import Wayfare.Proofs.Client.Record
import Wayfare.Proofs.Client.Redaction
import Wayfare.Proofs.Client.Reference
import Wayfare.Proofs.Client.Veil
import Wayfare.Proofs.Client.Walk
import Wayfare.Proofs.Desk.Alone
import Wayfare.Proofs.Desk.Books
import Wayfare.Proofs.Desk.Cache
import Wayfare.Proofs.Desk.Change
import Wayfare.Proofs.Desk.Invalidation
import Wayfare.Proofs.Desk.Outcome
import Wayfare.Proofs.Desk.Play
import Wayfare.Proofs.Desk.Runs
import Wayfare.Proofs.Desk.Singleflight
import Wayfare.Proofs.Desk.Sound
import Wayfare.Proofs.Desk.Veil
import Wayfare.Proofs.Except
import Wayfare.Proofs.Json.Abreast
import Wayfare.Proofs.Json.Containers
import Wayfare.Proofs.Json.Grammar
import Wayfare.Proofs.Json.Numeral
import Wayfare.Proofs.Json.Quotation
import Wayfare.Proofs.Json.Reading
import Wayfare.Proofs.Json.Skipping
import Wayfare.Proofs.Json.Viewing
import Wayfare.Proofs.Option
import Wayfare.Proofs.Page.Envelope
import Wayfare.Proofs.Page.Links
import Wayfare.Proofs.Query.Gist
import Wayfare.Proofs.Query.Keys
import Wayfare.Proofs.Query.Leaves
import Wayfare.Proofs.Query.Offset
import Wayfare.Proofs.Query.Replay
import Wayfare.Proofs.Settings.Origin
import Wayfare.Proofs.Settings.Usable
import Wayfare.Proofs.Text.Cut
import Wayfare.Proofs.Text.Quoted
import Wayfare.Proofs.Text.Span
import Wayfare.Proofs.Text.Utf8
import Wayfare.Proofs.Time.Calendar
import Wayfare.Proofs.Time.Line
import Wayfare.Proofs.Time.Stamp
import Wayfare.Proofs.Token.Failure
import Wayfare.Proofs.Token.Lifetime
import Wayfare.Proofs.Token.Validity
import Wayfare.Proofs.Token.Veil
import Wayfare.Proofs.Url.Authority
import Wayfare.Proofs.Url.Below
import Wayfare.Proofs.Url.Extension
import Wayfare.Proofs.Url.Form
import Wayfare.Proofs.Url.Host
import Wayfare.Proofs.Url.Idna.Composition
import Wayfare.Proofs.Url.Idna.Domain
import Wayfare.Proofs.Url.Idna.Parts
import Wayfare.Proofs.Url.Idna.Punycode
import Wayfare.Proofs.Url.Idna.Tables
import Wayfare.Proofs.Url.Ipv4
import Wayfare.Proofs.Url.Ipv6
import Wayfare.Proofs.Url.Origin
import Wayfare.Proofs.Url.Percent
import Wayfare.Proofs.Url.Query
import Wayfare.Proofs.Url.Relative
import Wayfare.Proofs.Url.Site
import Wayfare.Proofs.Url.Web
import Wayfare.Proofs.Url.Written
import Wayfare.Proofs.Url.WrittenAuthority
import Wayfare.Proofs.Url.WrittenHost
import Wayfare.Query
import Wayfare.Settings
import Wayfare.StatusSlot
import Wayfare.Text.Base64
import Wayfare.Text.Blank
import Wayfare.Text.Cut
import Wayfare.Text.Digits
import Wayfare.Text.Header
import Wayfare.Text.Hex
import Wayfare.Text.Printable
import Wayfare.Text.Quoted
import Wayfare.Text.Utf8
import Wayfare.Time.Calendar
import Wayfare.Time.Instant
import Wayfare.Token.Access
import Wayfare.Token.Desk
import Wayfare.Token.Exchange
import Wayfare.Token.Secret
import Wayfare.Url.Address
import Wayfare.Url.Authority
import Wayfare.Url.Fault
import Wayfare.Url.Form
import Wayfare.Url.Host
import Wayfare.Url.Idna.Classes
import Wayfare.Url.Idna.Composition
import Wayfare.Url.Idna.Domain
import Wayfare.Url.Idna.Mapping
import Wayfare.Url.Idna.Punycode
import Wayfare.Url.Path
import Wayfare.Url.Percent
import Wayfare.Url.Wire
import Wayfare.Verb

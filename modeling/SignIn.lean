import SignIn.Config
import SignIn.Cookie.Change
import SignIn.Cookie.Header
import SignIn.Cookie.Sealed
import SignIn.Crypto.Aes
import SignIn.Crypto.Gcm
import SignIn.Crypto.Hkdf
import SignIn.Crypto.Sha256
import SignIn.Dialogue
import SignIn.Http.CrossOrigin
import SignIn.Http.Message
import SignIn.Http.Route
import SignIn.Http.Service
import SignIn.Json.Error
import SignIn.Json.Lexeme
import SignIn.Json.Number
import SignIn.Json.Printer
import SignIn.Json.Record
import SignIn.Json.Skip
import SignIn.Json.Value
import SignIn.Login
import SignIn.Moment
import SignIn.Net.Address
import SignIn.Net.Chunked
import SignIn.Net.Endpoint
import SignIn.Net.HostName
import SignIn.Net.NameMapping
import SignIn.Net.Punycode
import SignIn.Net.Reply
import SignIn.Net.Status
import SignIn.Number.Binary64
import SignIn.Number.Shortest
import SignIn.Proofs.AddressText
import SignIn.Proofs.AllowedOrigin
import SignIn.Proofs.Base64
import SignIn.Proofs.ConfigText
import SignIn.Proofs.CookieText
import SignIn.Proofs.Disclosure
import SignIn.Proofs.Expiry
import SignIn.Proofs.Faults
import SignIn.Proofs.FindOrCreate
import SignIn.Proofs.Frame
import SignIn.Proofs.HeaderParts
import SignIn.Proofs.Hearing
import SignIn.Proofs.Isolation
import SignIn.Proofs.Issuing
import SignIn.Proofs.JsonContainer
import SignIn.Proofs.JsonFaults
import SignIn.Proofs.JsonGrammar
import SignIn.Proofs.JsonNumber
import SignIn.Proofs.JsonReading
import SignIn.Proofs.JsonRecord
import SignIn.Proofs.JsonScalar
import SignIn.Proofs.JsonSkip
import SignIn.Proofs.JsonString
import SignIn.Proofs.Ledger
import SignIn.Proofs.Loading
import SignIn.Proofs.LoginOrder
import SignIn.Proofs.Overlap
import SignIn.Proofs.Payload
import SignIn.Proofs.QueryText
import SignIn.Proofs.QuotedText
import SignIn.Proofs.Rejection
import SignIn.Proofs.ReplyText
import SignIn.Proofs.ResponseCookies
import SignIn.Proofs.Revocation
import SignIn.Proofs.RevocationLog
import SignIn.Proofs.RoundTrip
import SignIn.Proofs.Serving
import SignIn.Proofs.SessionTable
import SignIn.Proofs.StringRecord
import SignIn.Proofs.TokenGrammar
import SignIn.Proofs.Trimming
import SignIn.Proofs.TrustedFields
import SignIn.Proofs.Utf8
import SignIn.Proofs.Vouching
import SignIn.Session.Basic
import SignIn.Session.Manager
import SignIn.Session.Payload
import SignIn.Session.Revocations
import SignIn.Text.Base64
import SignIn.Text.Blank
import SignIn.Text.CodePoints
import SignIn.Text.CombiningClass
import SignIn.Text.Composed
import SignIn.Text.Decimal
import SignIn.Text.Decomposition
import SignIn.Text.Direction
import SignIn.Text.Form
import SignIn.Text.Hex
import SignIn.Text.Invisible
import SignIn.Text.Joining
import SignIn.Text.Percent
import SignIn.Text.Quoted
import SignIn.Text.Utf8
import SignIn.Token.Claims
import SignIn.Token.Inquiry
import SignIn.Token.Verdict
import SignIn.User.Identity
import SignIn.User.Store
import SignIn.Uuid

import Gatehouse.ApiKey.Basic
import Gatehouse.ApiKey.Management
import Gatehouse.ApiKey.Scope
import Gatehouse.ApiKey.Store
import Gatehouse.Crypto.Bcrypt
import Gatehouse.Crypto.Blowfish
import Gatehouse.Crypto.Pi
import Gatehouse.Crypto.Sha256
import Gatehouse.Csrf
import Gatehouse.Error
import Gatehouse.Http.Address
import Gatehouse.Http.Header
import Gatehouse.Http.Message
import Gatehouse.Http.Method
import Gatehouse.Http.Percent
import Gatehouse.Http.Target
import Gatehouse.Json.Basic
import Gatehouse.Json.Reader
import Gatehouse.Json.Record
import Gatehouse.Json.Token
import Gatehouse.Json.Writer
import Gatehouse.Layered.Decoder
import Gatehouse.Layered.Environment
import Gatehouse.Layered.Path
import Gatehouse.Layered.Value
import Gatehouse.Number.Binary64
import Gatehouse.Number.Shortest
import Gatehouse.Principal
import Gatehouse.Procedure
import Gatehouse.Proofs.ActivityRun
import Gatehouse.Proofs.AttemptRun
import Gatehouse.Proofs.AuthenticationEffects
import Gatehouse.Proofs.Availability
import Gatehouse.Proofs.CallKinds
import Gatehouse.Proofs.CallTrace
import Gatehouse.Proofs.ClockRange
import Gatehouse.Proofs.CookieRoundTrip
import Gatehouse.Proofs.CookieRun
import Gatehouse.Proofs.CookieText
import Gatehouse.Proofs.CounterSweeps
import Gatehouse.Proofs.CredentialChoice
import Gatehouse.Proofs.DrawnTokens
import Gatehouse.Proofs.EnvironmentNames
import Gatehouse.Proofs.EnvironmentOverrides
import Gatehouse.Proofs.EnvironmentTexts
import Gatehouse.Proofs.FailedLogins
import Gatehouse.Proofs.HeaderText
import Gatehouse.Proofs.HttpDates
import Gatehouse.Proofs.InstantOrder
import Gatehouse.Proofs.JsonReading
import Gatehouse.Proofs.JsonRecords
import Gatehouse.Proofs.KeyCalls
import Gatehouse.Proofs.KeyHistory
import Gatehouse.Proofs.KeyIndex
import Gatehouse.Proofs.KeyInterleaving
import Gatehouse.Proofs.KeyListing
import Gatehouse.Proofs.KeyManagement
import Gatehouse.Proofs.KeyStore
import Gatehouse.Proofs.KeyToken
import Gatehouse.Proofs.LayeredPlaces
import Gatehouse.Proofs.ListedKeys
import Gatehouse.Proofs.LiveSession
import Gatehouse.Proofs.LoginEffects
import Gatehouse.Proofs.OtherCookies
import Gatehouse.Proofs.OwnerIsolation
import Gatehouse.Proofs.RefreshEffects
import Gatehouse.Proofs.Rehearsals
import Gatehouse.Proofs.RequestCalls
import Gatehouse.Proofs.RequestCookies
import Gatehouse.Proofs.RetryAfter
import Gatehouse.Proofs.ServiceCalls
import Gatehouse.Proofs.SessionAcceptance
import Gatehouse.Proofs.SessionCalls
import Gatehouse.Proofs.SessionEndurance
import Gatehouse.Proofs.SessionInvariant
import Gatehouse.Proofs.SessionLedger
import Gatehouse.Proofs.SessionRevival
import Gatehouse.Proofs.SettingsChecks
import Gatehouse.Proofs.SettingsLeaves
import Gatehouse.Proofs.SettingsRecords
import Gatehouse.Proofs.SiteRun
import Gatehouse.Proofs.StaleRefreshes
import Gatehouse.Proofs.Throttle
import Gatehouse.Proofs.TimestampReading
import Gatehouse.Proofs.Trimming
import Gatehouse.Proofs.UnsentCookie
import Gatehouse.Proofs.WindowCounter
import Gatehouse.Proofs.WorldRun
import Gatehouse.RateLimit.Limiter
import Gatehouse.RateLimit.Window
import Gatehouse.Rehearsal.Mention
import Gatehouse.Rehearsal.Stage
import Gatehouse.Service.Basic
import Gatehouse.Service.Credential
import Gatehouse.Session.Basic
import Gatehouse.Session.Codec
import Gatehouse.Session.Cookie
import Gatehouse.Session.Lifecycle
import Gatehouse.Session.Policy
import Gatehouse.Session.Store
import Gatehouse.Settings.Basic
import Gatehouse.Settings.Codec
import Gatehouse.Settings.Load
import Gatehouse.Settings.Validation
import Gatehouse.Setup
import Gatehouse.StoreFault
import Gatehouse.Table
import Gatehouse.Text.Blank
import Gatehouse.Text.Hex
import Gatehouse.Text.LetterCase
import Gatehouse.Text.Lowercase
import Gatehouse.Text.Numeral
import Gatehouse.Text.Quoted
import Gatehouse.Text.Split
import Gatehouse.Text.Unprintable
import Gatehouse.Text.Utf8
import Gatehouse.Time.Calendar
import Gatehouse.Time.HttpDate
import Gatehouse.Time.Instant
import Gatehouse.Time.Rfc3339
import Gatehouse.Time.Span
import Gatehouse.Token
import Gatehouse.Toml.Basic
import Gatehouse.Toml.Document
import Gatehouse.Toml.Scalar
import Gatehouse.Toml.Text
import Gatehouse.Toml.Tree
import Gatehouse.User
import Gatehouse.Web.ClientAddress
import Gatehouse.Web.Guard
import Gatehouse.Web.Messages
import Gatehouse.Web.Probe
import Gatehouse.Web.Routes
import Gatehouse.World

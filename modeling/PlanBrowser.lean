import PlanBrowser.Plan.Wire
import PlanBrowser.Page.Document
import PlanBrowser.Page.PlanItem
import PlanBrowser.Page.SavedCard
import PlanBrowser.Url.Ipv4
import PlanBrowser.Url.Ipv6
import PlanBrowser.Url.Punycode
import PlanBrowser.Url.Derive
import PlanBrowser.Search
import PlanBrowser.Identity.Token
import PlanBrowser.Api.Failure
import PlanBrowser.Api.Client
import PlanBrowser.Output
import PlanBrowser.Session.Paging
import PlanBrowser.Session.Action
import PlanBrowser.Settings.Home
import PlanBrowser.Settings.Config
import PlanBrowser.Text.Composition
import PlanBrowser.Main
import PlanBrowser.Files.Tree
import PlanBrowser.Proofs.Session.Pool
import PlanBrowser.Proofs.Session.Ownership
import PlanBrowser.Proofs.Session.Retry
import PlanBrowser.Proofs.Session.Address
import PlanBrowser.Proofs.Session.Order
import PlanBrowser.Proofs.Json.Numeral
import PlanBrowser.Proofs.Session.Append
import PlanBrowser.Proofs.Json.Bracket
import PlanBrowser.Proofs.Json.Layout
import PlanBrowser.Proofs.Json.Same
import PlanBrowser.Proofs.Session.Output
import PlanBrowser.Proofs.Html.Marks
import PlanBrowser.Proofs.Page.Markup
import PlanBrowser.Proofs.Text.Occurrence
import PlanBrowser.Proofs.Page.Element
import PlanBrowser.Proofs.Page.Place
import PlanBrowser.Proofs.Program.Move
import PlanBrowser.Proofs.Program.Course
import PlanBrowser.Proofs.Files.Written
import PlanBrowser.Proofs.Files.Parent
import PlanBrowser.Proofs.Files.Way
import PlanBrowser.Proofs.Settings.NewFile
import PlanBrowser.Proofs.Program.Effect
import PlanBrowser.Proofs.Api.Carried
import PlanBrowser.Proofs.Program.Cancelled
import PlanBrowser.Proofs.Json.Roundtrip
import PlanBrowser.Proofs.Json.Follow
import PlanBrowser.Proofs.Json.Skip
import PlanBrowser.Proofs.Json.Record
import PlanBrowser.Proofs.Plan.Schema
import PlanBrowser.Proofs.Json.Ordered
import PlanBrowser.Proofs.Plan.Message
import PlanBrowser.Proofs.Text.Utf8
import PlanBrowser.Proofs.Url.Form
import PlanBrowser.Proofs.Search.Data
import PlanBrowser.Proofs.Search.Page
import PlanBrowser.Proofs.Search.Reopen
import PlanBrowser.Proofs.Html.Tag
import PlanBrowser.Proofs.Profile.Card
import PlanBrowser.Proofs.Profile.Run
import PlanBrowser.Proofs.Text.Blank
import PlanBrowser.Proofs.Text.ByteOrder
import PlanBrowser.Proofs.Json.Member
import PlanBrowser.Proofs.Json.Integer
import PlanBrowser.Proofs.Identity.Base64
import PlanBrowser.Proofs.Identity.Claims
import PlanBrowser.Proofs.Identity.User
import PlanBrowser.Proofs.Identity.Expiry
import PlanBrowser.Proofs.Url.Segment
import PlanBrowser.Proofs.Api.Endpoint
import PlanBrowser.Proofs.Profile.Deletion
import PlanBrowser.Proofs.Session.Refresh
import PlanBrowser.Proofs.Session.Clicks
import PlanBrowser.Proofs.Html.Reading
import PlanBrowser.Proofs.Page.Item
import PlanBrowser.Proofs.Result
import PlanBrowser.Proofs.Settings.Precedence
import PlanBrowser.Proofs.Settings.Default
import PlanBrowser.Proofs.Text.Ascii
import PlanBrowser.Proofs.Api.HeaderLine
import PlanBrowser.Proofs.Identity.Cookie
import PlanBrowser.Proofs.Html.Escaped
import PlanBrowser.Proofs.Plan.MostSearched
import PlanBrowser.Proofs.Plan.Hour
import PlanBrowser.Proofs.Calendar.Count
import PlanBrowser.Proofs.Calendar.Padded
import PlanBrowser.Proofs.Calendar.Timestamp

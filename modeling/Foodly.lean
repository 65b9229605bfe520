import Foodly.Lib.Runs
import Foodly.Lib.Purge
import Foodly.Lib.Interleaving
import Foodly.Lib.Batches
import Foodly.Lib.Parallel
import Foodly.Lib.Callbacks
import Foodly.Lib.Decimal
import Foodly.Lib.DocumentStore
import Foodly.Lib.InFlight
import Foodly.Lib.Ledger
import Foodly.Lib.KeyedRows
import Foodly.Lib.Regex
import Foodly.Swift.Numerals
import Foodly.Swift.Strings
import Foodly.Swift.Characters
import Foodly.Helpers.Alerts
import Foodly.Helpers.Indicators
import Foodly.Helpers.SignUpValidation
import Foodly.Networking.Firestore
import Foodly.Networking.Router
import Foodly.Networking.Database
import Foodly.Networking.Completions
import Foodly.Cart.Controller
import Foodly.Cart.Lines
import Foodly.Cart.Quantities
import Foodly.Cart.Discount
import Foodly.Cart.Receipt
import Foodly.Cart.Deletion
import Foodly.Cart.Swiped
import Foodly.Cart.TapOrder
import Foodly.Cart.Bill
import Foodly.Cart.Promo
import Foodly.Cart.RemoteConfig
import Foodly.Home.ViewModel
import Foodly.Home.Welcome
import Foodly.Details.Controller
import Foodly.Details.Entries
import Foodly.Details.Alignment
import Foodly.Details.SummaryBar
import Foodly.Details.Cells
import Foodly.Details.Menu
import Foodly.Details.Reload
import Foodly.Details.RoundTrips
import Foodly.MoreDetails.Controller
import Foodly.MoreDetails.SameCart
import Foodly.Home.Controller
import Foodly.Home.Rows
import Foodly.Home.Tables
import Foodly.Home.Categories
import Foodly.Search.Controller
import Foodly.Search.Filter
import Foodly.Search.Selection
import Foodly.Orders.History
import Foodly.Orders.Orders
import Foodly.Orders.Snapshots
import Foodly.Orders.HistoryTable
import Foodly.Orders.Confirmations
import Foodly.Orders.InTransit
import Foodly.Orders.FromMenu
import Foodly.Orders.Marked
import Foodly.Confirmation.Controller
import Foodly.Confirmation.Person
import Foodly.Confirmation.Notified
import Foodly.SignUp.CreateUser
import Foodly.SignUp.Forms
import Foodly.SignUp.UnderWay
import Foodly.Login.Attempts
import Foodly.Onboarding.Pages
import Foodly.SignUp.Passwords
import Foodly.Profile.Controller
import Foodly.Profile.Saves
import Foodly.Profile.Editing
import Foodly.Accounts.Actions
import Foodly.Accounts.Isolation
import Foodly.Accounts.Profiles
import Foodly.Accounts.Schema

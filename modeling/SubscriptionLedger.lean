import SubscriptionLedger.Billing.Event
import SubscriptionLedger.Billing.Notice
import SubscriptionLedger.Billing.Reconcile
import SubscriptionLedger.Billing.Record
import SubscriptionLedger.Concurrency.KeyedLock
import SubscriptionLedger.Concurrency.LockTasks
import SubscriptionLedger.Concurrency.World
import SubscriptionLedger.Crypto.Sha256
import SubscriptionLedger.Document.Basic
import SubscriptionLedger.Document.Encoding
import SubscriptionLedger.Document.Number
import SubscriptionLedger.Document.Reader
import SubscriptionLedger.Document.Writer
import SubscriptionLedger.Failure.Arguments
import SubscriptionLedger.Failure.Fault
import SubscriptionLedger.Failure.Report
import SubscriptionLedger.Form
import SubscriptionLedger.Http.App
import SubscriptionLedger.Http.Message
import SubscriptionLedger.Http.Route
import SubscriptionLedger.Identity.Token
import SubscriptionLedger.Mail.Address
import SubscriptionLedger.Mail.Domain.Folding
import SubscriptionLedger.Mail.Domain.Letter
import SubscriptionLedger.Mail.Domain.Name
import SubscriptionLedger.Main
import SubscriptionLedger.Moment
import SubscriptionLedger.Number.Binary64
import SubscriptionLedger.Program
import SubscriptionLedger.Program.Run
import SubscriptionLedger.Proofs.Acceptance
import SubscriptionLedger.Proofs.Access
import SubscriptionLedger.Proofs.Answer
import SubscriptionLedger.Proofs.Challenge
import SubscriptionLedger.Proofs.Clock
import SubscriptionLedger.Proofs.Commuting
import SubscriptionLedger.Proofs.Course
import SubscriptionLedger.Proofs.Crowd
import SubscriptionLedger.Proofs.Decision
import SubscriptionLedger.Proofs.Delivery
import SubscriptionLedger.Proofs.Enacting
import SubscriptionLedger.Proofs.Expansion
import SubscriptionLedger.Proofs.Failing
import SubscriptionLedger.Proofs.Floor
import SubscriptionLedger.Proofs.Footprint
import SubscriptionLedger.Proofs.Founded
import SubscriptionLedger.Proofs.Genuine
import SubscriptionLedger.Proofs.Grammar
import SubscriptionLedger.Proofs.Interleaving
import SubscriptionLedger.Proofs.Keeping
import SubscriptionLedger.Proofs.Keyed
import SubscriptionLedger.Proofs.Lasting
import SubscriptionLedger.Proofs.Ledger
import SubscriptionLedger.Proofs.Legible
import SubscriptionLedger.Proofs.Line
import SubscriptionLedger.Proofs.Lock
import SubscriptionLedger.Proofs.Minted
import SubscriptionLedger.Proofs.Moment
import SubscriptionLedger.Proofs.Notice
import SubscriptionLedger.Proofs.Numeral
import SubscriptionLedger.Proofs.Placing
import SubscriptionLedger.Proofs.Plain
import SubscriptionLedger.Proofs.Plans
import SubscriptionLedger.Proofs.Purchase
import SubscriptionLedger.Proofs.Racing
import SubscriptionLedger.Proofs.Redelivery
import SubscriptionLedger.Proofs.Refusal
import SubscriptionLedger.Proofs.Reopening
import SubscriptionLedger.Proofs.Repeating
import SubscriptionLedger.Proofs.Resubscription
import SubscriptionLedger.Proofs.Retrying
import SubscriptionLedger.Proofs.Rows
import SubscriptionLedger.Proofs.Running
import SubscriptionLedger.Proofs.Serial
import SubscriptionLedger.Proofs.Store
import SubscriptionLedger.Proofs.Straying
import SubscriptionLedger.Proofs.Survival
import SubscriptionLedger.Proofs.Tending
import SubscriptionLedger.Proofs.Timeline
import SubscriptionLedger.Proofs.Timestamp
import SubscriptionLedger.Proofs.Token
import SubscriptionLedger.Proofs.Turns
import SubscriptionLedger.Proofs.Verifying
import SubscriptionLedger.Proofs.Visits
import SubscriptionLedger.Proofs.Watch
import SubscriptionLedger.Proofs.Writing
import SubscriptionLedger.Purchase.Gateway
import SubscriptionLedger.Record
import SubscriptionLedger.Service.CommandLine
import SubscriptionLedger.Service.Container
import SubscriptionLedger.Service.Settings
import SubscriptionLedger.Store
import SubscriptionLedger.Text.Basic
import SubscriptionLedger.Text.Case
import SubscriptionLedger.Text.Decomposition
import SubscriptionLedger.Text.Encoding
import SubscriptionLedger.Text.Letter
import SubscriptionLedger.Text.Normal
import SubscriptionLedger.Webhook.Delivery

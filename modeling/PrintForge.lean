import PrintForge.Relational.Table
import PrintForge.Relational.Transaction
import PrintForge.Relational.Mirror
import PrintForge.Concurrent.Process
import PrintForge.Concurrent.Aftermath
import PrintForge.Concurrent.Atomicity
import PrintForge.Concurrent.Discipline
import PrintForge.Numeric.Decimal
import PrintForge.Orders.StateMachine
import PrintForge.Common.Basic
import PrintForge.Payments.Schema
import PrintForge.Payments.Accounts
import PrintForge.Payments.Service
import PrintForge.Payments.Webhooks
import PrintForge.Orders.Service
import PrintForge.Payments.Refunds
import PrintForge.Payments.System
import PrintForge.Payments.Commits
import PrintForge.Payments.Ledger
import PrintForge.Payments.Books
import PrintForge.Payments.RefundBooks
import PrintForge.Payments.Transitions
import PrintForge.Payments.EventSteps
import PrintForge.Payments.EventErrors
import PrintForge.Payments.OrderSteps
import PrintForge.Payments.Bookkeeping
import PrintForge.Payments.Served
import PrintForge.Payments.RefundsServed
import PrintForge.Payments.OrderGuarantees
import PrintForge.Payments.DeliveryOrder
import PrintForge.Payments.RefundGuarantees
import PrintForge.Payments.Notices
import PrintForge.Payments.Evolution
import PrintForge.Payments.Isolation
import PrintForge.Payments.Ingestion
import PrintForge.PaymentAccounts.Service
import PrintForge.PaymentAccounts.Guarantees
import PrintForge.Access.Host
import PrintForge.Access.Permissions
import PrintForge.Access.Guards
import PrintForge.Access.Guarantees
import PrintForge.Relational.References
import PrintForge.Catalogue.Schema
import PrintForge.Catalogue.Uploads
import PrintForge.Catalogue.Customizations
import PrintForge.Catalogue.Products
import PrintForge.Catalogue.Cart
import PrintForge.Catalogue.Guarantees
import PrintForge.StoreDomains.Service
import PrintForge.StoreDomains.Guarantees
import PrintForge.StoreDomains.Steps
import PrintForge.StoreDomains.Agreement
import PrintForge.StoreDomains.Resolver
import PrintForge.StoreDomains.Cors
import PrintForge.Subscriptions.Schema
import PrintForge.Subscriptions.Service
import PrintForge.Subscriptions.Webhooks
import PrintForge.Subscriptions.Orchestration
import PrintForge.Subscriptions.Steps
import PrintForge.Subscriptions.Boundary
import PrintForge.Subscriptions.EitherOrder
import PrintForge.Subscriptions.Staleness
import PrintForge.Concurrent.Retry
import PrintForge.Payments.Retries
import PrintForge.Subscriptions.Retries
import PrintForge.Concurrent.Lineage
import PrintForge.Auth.Schema
import PrintForge.Auth.Service
import PrintForge.Auth.Steps
import PrintForge.Auth.Served
import PrintForge.Auth.Sessions
import PrintForge.Auth.Guarantees
import PrintForge.Auth.Revocation
import PrintForge.Usage.Service
import PrintForge.Team.Service
import PrintForge.Team.Guarantees
import PrintForge.Concurrent.Obligations
import PrintForge.Notifications.Outbox
import PrintForge.Notifications.Guarantees
import PrintForge.Payments.History
import PrintForge.Concurrent.Sessions
import PrintForge.Checkout.Schema
import PrintForge.Checkout.Pricing
import PrintForge.Checkout.Coupons
import PrintForge.Checkout.Service
import PrintForge.StoreDomains.Verification
import PrintForge.Usage.Counters
import PrintForge.StoreDomains.HostCache
import PrintForge.Subscriptions.Operations
import PrintForge.Subscriptions.Writes
import PrintForge.Subscriptions.Deadlines
import PrintForge.Subscriptions.Reactivation
import PrintForge.Subscriptions.Confirmation
import PrintForge.Subscriptions.Replays
import PrintForge.Concurrent.Moments
import PrintForge.Subscriptions.Successes
import PrintForge.Concurrent.Outstanding
import PrintForge.Subscriptions.EventLog
import PrintForge.Subscriptions.Histories
import PrintForge.Concurrent.Leases
import PrintForge.Notifications.Claims
import PrintForge.Payments.FailedEvents
import PrintForge.Trees.Forest
import PrintForge.Catalogue.CategoryTree
import PrintForge.Relational.Assignments
import PrintForge.Entitlements.Guarantees
import PrintForge.Text.Strings
import PrintForge.Invoices.Service
import PrintForge.Invoices.Guarantees
import PrintForge.Payments.Matching
import PrintForge.Payments.RefundTurns
import PrintForge.Payments.RefundVerdicts
import PrintForge.Orders.Audit
import PrintForge.Orders.Races
import PrintForge.Concurrent.Solo
import PrintForge.Checkout.Preview
import PrintForge.Checkout.Prices
import PrintForge.Reviews.Service
import PrintForge.Reviews.Guarantees
import PrintForge.Payments.RefundEnds
import PrintForge.Payments.Recovery
import PrintForge.Payments.Captures
import PrintForge.Payments.Payable
import PrintForge.Payments.Fulfilment
import PrintForge.Payments.EventGuarantees
import PrintForge.Numeric.Exact
import PrintForge.Checkout.Tax
import PrintForge.StoreDomains.Origins
import PrintForge.Concurrent.Interference
import PrintForge.Catalogue.StoredCustomizations
import PrintForge.Subscriptions.Meanings
import PrintForge.Relational.Selections
import PrintForge.Subscriptions.FailedCancellations
import PrintForge.Text.Unicode
import PrintForge.PaymentAccounts.Credentials
import PrintForge.Platform.ResolutionMode
import PrintForge.Frontend.Session
import PrintForge.Text.Integers
import PrintForge.Backfill.Schema
import PrintForge.Backfill.Counters
import PrintForge.Relational.Stages
import PrintForge.Backfill.Ownership
import PrintForge.Backfill.Assignments
import PrintForge.Backfill.Restart
import PrintForge.Backfill.Traces
import PrintForge.Backfill.WellAssigned
import PrintForge.StoreDomains.Provisioning
import PrintForge.StoreDomains.Provisioned
import PrintForge.StoreDomains.Registered
import PrintForge.StoreDomains.Reached
import PrintForge.Concurrent.Readers
import PrintForge.Checkout.Effects
import PrintForge.Checkout.Protocol
import PrintForge.Checkout.Placing
import PrintForge.Checkout.Committing
import PrintForge.Checkout.Served
import PrintForge.Checkout.ExactlyOnce
import PrintForge.Checkout.Accounting
import PrintForge.Concurrent.Signatures
import PrintForge.Platform.ControlPlane
import PrintForge.Relational.Journals
import PrintForge.Platform.OnRecord
import PrintForge.Platform.Recording
import PrintForge.Platform.Accountability
import PrintForge.Settings.Service
import PrintForge.Settings.Guarantees

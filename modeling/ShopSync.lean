import ShopSync.Text.Truncate
import ShopSync.Text.Percent
import ShopSync.Number.Decimal
import ShopSync.Json.Printer
import ShopSync.Sku
import ShopSync.MarketplaceId
import ShopSync.Money
import ShopSync.Timestamp
import ShopSync.Uuid
import ShopSync.Catalog.Product
import ShopSync.Catalog.Category
import ShopSync.Order
import ShopSync.Market.Error
import ShopSync.Market.Capabilities
import ShopSync.Dialogue
import ShopSync.Scenario
import ShopSync.Http.Transport
import ShopSync.Text.Visible
import ShopSync.Sync.Batch
import ShopSync.Sync.Error
import ShopSync.Sync.Service
import ShopSync.Sync.Outage
import ShopSync.Command.Usage
import ShopSync.Main
import ShopSync.Config
import ShopSync.Etsy.Adapter
import ShopSync.Proofs.Etsy.Import
import ShopSync.Proofs.Etsy.Export
import ShopSync.Proofs.Sync.Persistence
import ShopSync.Proofs.Sync.Window
import ShopSync.Proofs.Command.State
import ShopSync.Proofs.Sync.Intake
import ShopSync.Proofs.Etsy.Identity
import ShopSync.Proofs.Http.Exchange
import ShopSync.Proofs.Etsy.Choice
import ShopSync.Proofs.Sync.Lifecycle
import ShopSync.Proofs.Etsy.Requests
import ShopSync.Proofs.Http.Secrecy
import ShopSync.Proofs.Etsy.Secrecy
import ShopSync.Proofs.Sync.Secrecy
import ShopSync.Proofs.FileTree
import ShopSync.Proofs.Sync.Files
import ShopSync.Proofs.Command.Exit
import ShopSync.Proofs.Sync.History
import ShopSync.Proofs.Etsy.Lookup
import ShopSync.Proofs.Etsy.Course
import ShopSync.Proofs.Etsy.ItemWrite
import ShopSync.Proofs.Sync.Agreement
import ShopSync.Proofs.Etsy.Refusal
import ShopSync.Proofs.Etsy.Taxonomy
import ShopSync.Proofs.Etsy.Regroup
import ShopSync.Proofs.Etsy.Leniency
import ShopSync.Proofs.Etsy.Paging
import ShopSync.Proofs.Etsy.Address
import ShopSync.Proofs.Sync.Ledger
import ShopSync.Proofs.Credentials
import ShopSync.Proofs.Sync.Queries
import ShopSync.Proofs.Command.InForce
import ShopSync.Proofs.Http.Header
import ShopSync.Proofs.Sync.Restore
import ShopSync.Proofs.Command.Sku

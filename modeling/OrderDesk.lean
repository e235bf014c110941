import OrderDesk.Main
import OrderDesk.Scenario.Play
import OrderDesk.Proofs.Switchboard.Updates
import OrderDesk.Proofs.Switchboard.Failures
import OrderDesk.Proofs.Switchboard.RegularOrders
import OrderDesk.Proofs.Switchboard.Prices
import OrderDesk.Proofs.Switchboard.Alone
import OrderDesk.Proofs.Switchboard.Points
import OrderDesk.Proofs.Switchboard.Validated
import OrderDesk.Proofs.Switchboard.Names
import OrderDesk.Proofs.Breaker.Probes
import OrderDesk.Proofs.Desk.Strangers
import OrderDesk.Proofs.Desk.Counting
import OrderDesk.Proofs.Service.Reordering
import OrderDesk.Proofs.Service.Splitting
import OrderDesk.Proofs.Order.Quantities
import OrderDesk.Proofs.Service.Independence
import OrderDesk.Proofs.Catalog.Fetching
import OrderDesk.Proofs.Json.RoundTrip
import OrderDesk.Proofs.Scenario.Placing
import OrderDesk.Proofs.Switchboard.Inquiries
import OrderDesk.Proofs.Switchboard.Departures
import OrderDesk.Proofs.Switchboard.SteadyPrices
import OrderDesk.Proofs.Order.Loyalty
import OrderDesk.Proofs.Uuid.Grammar
import OrderDesk.Proofs.User.Addresses
import OrderDesk.Proofs.Desk.Callers
import OrderDesk.Proofs.Desk.Traffic
import OrderDesk.Proofs.Breaker.Counters

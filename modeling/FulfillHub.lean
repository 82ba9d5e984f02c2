import FulfillHub.Api.Isolation
import FulfillHub.Api.RedisLimiter
import FulfillHub.Commerce.AddressReference
import FulfillHub.Commerce.OutboxLeases
import FulfillHub.Fulfillment.Atomicity
import FulfillHub.Fulfillment.CancelAccepted
import FulfillHub.Fulfillment.CancelOutcomes
import FulfillHub.Fulfillment.Causation
import FulfillHub.Fulfillment.CreationInvariant
import FulfillHub.Fulfillment.Deployment
import FulfillHub.Fulfillment.EffectivelyOnce
import FulfillHub.Fulfillment.ForeignEvents
import FulfillHub.Fulfillment.NothingLost
import FulfillHub.Fulfillment.ProviderEffects
import FulfillHub.Fulfillment.RoutedEvents
import FulfillHub.Fulfillment.Terminal
import FulfillHub.Messaging.Amounts
import FulfillHub.Messaging.AtLeastOnce
import FulfillHub.Messaging.Confirms
import FulfillHub.Messaging.NoLoss
import FulfillHub.Messaging.RelayStarvation
import FulfillHub.Messaging.Replay
import FulfillHub.Messaging.Settlement
import FulfillHub.Postgres.AcceptedLines
import FulfillHub.Postgres.Equivalence
import FulfillHub.Postgres.MigrationRuns
import FulfillHub.Postgres.MirroredRuns
import FulfillHub.Postgres.ReadBack
import FulfillHub.Postgres.Reservation
import FulfillHub.Postgres.Snapshots
import FulfillHub.Postgres.Stock
import FulfillHub.Postgres.StockRaces
import FulfillHub.Providers.WebhookReplay
import FulfillHub.Providers.WebhookSigning

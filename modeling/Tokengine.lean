import Tokengine.Billing.ChosenSubscription
import Tokengine.Billing.LostUpdate
import Tokengine.Billing.RefundOnce
import Tokengine.Billing.Idempotence
import Tokengine.Tasks.SubmitThenFail
import Tokengine.Tasks.OneSettlement
import Tokengine.Tasks.NoneLost
import Tokengine.Billing.Periods
import Tokengine.Plans.GroupRestoration
import Tokengine.Plans.PurchaseLimit
import Tokengine.Plans.RedeemOnce
import Tokengine.Payments.CreditOnce
import Tokengine.Payments.ProofOfPayment
import Tokengine.Payments.ManualCompletion
import Tokengine.Payments.OrderLocks
import Tokengine.Mj.Refunds
import Tokengine.Batch.Refinement
import Tokengine.Users.QuotaUpdates
import Tokengine.Plans.WalletPurchase
import Tokengine.Relay.ProviderIndependence
import Tokengine.Relay.HeaderIsolation
import Tokengine.Relay.AnsweringChannel
import Tokengine.Relay.Entitlement
import Tokengine.Channels.MirroredRuns
import Tokengine.Channels.RetiredChannels
import Tokengine.Channels.KeyActions
import Tokengine.Channels.KeyPolling
import Tokengine.Relay.RetryBound
import Tokengine.Relay.ModelMapping
import Tokengine.Stream.ClaudeAnswers
import Tokengine.Stream.Closing
import Tokengine.Stream.OpenAIClient
import Tokengine.Plans.ResetSchedule
import Tokengine.Tasks.Ratios
import Tokengine.Middleware.RateLimit
import Tokengine.Middleware.InMemoryRateLimiter
import Tokengine.Channels.Draws
import Tokengine.Service.TokenEstimator
import Tokengine.Model.Options

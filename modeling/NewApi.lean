import NewApi.Billing.AdminResets
import NewApi.Billing.ExpiryRecovery
import NewApi.Billing.QuotaCache
import NewApi.Billing.RecoveryProgress
import NewApi.Billing.SessionLockstep
import NewApi.Billing.SessionRecovery
import NewApi.Billing.SettleVerdict
import NewApi.Billing.SubscriptionAttribution
import NewApi.Billing.SubscriptionMaintenance
import NewApi.Billing.ResetComposition
import NewApi.Billing.WalletLedger
import NewApi.Expression.OnePricingLeaf
import NewApi.Expression.RuleTracing
import NewApi.Expression.ValidatorParity
import NewApi.Expression.VisualRoundTrip
import NewApi.Pricing.ClaudeStreamUsage
import NewApi.Pricing.ConversionParity
import NewApi.Pricing.UnpricedClasses
import NewApi.Pricing.GeminiUsage
import NewApi.Pricing.PricingSave
import NewApi.Relay.HeaderPaths
import NewApi.Relay.LegacyKeys
import NewApi.Relay.PrunedTrees
import NewApi.Relay.RetryRuns
import NewApi.Channels.AbilityProduct
import NewApi.Lib.BulkStatements
import NewApi.Channels.ManualDisable
import NewApi.Channels.ManualKeys
import NewApi.Channels.SelectionSound
import NewApi.Referral.CommissionRuns
import NewApi.Referral.Histories
import NewApi.Referral.InviterForest
import NewApi.Referral.SettlementRuns
import NewApi.Subscriptions.OwnedExpiry
import NewApi.Subscriptions.UpgradesUndone
import NewApi.Payments.OrderHistories
import NewApi.Sessions.RefreshRuns
import NewApi.Sessions.SessionHistories
import NewApi.Billing.QuotaCredits
import NewApi.TaskRows.DisjointPatches
import NewApi.TaskRows.ObjectRuns
import NewApi.TaskRows.RowVersions
import NewApi.TaskRows.LeaseRuns
import NewApi.TaskRows.DispatchFairness
import NewApi.SystemTasks.OneRunner
import NewApi.ImageTasks.ChannelSlots
import NewApi.ImageTasks.CreationRuns
import NewApi.Relay.WildcardPaths
import NewApi.Billing.QuotaScripts
import NewApi.ImageTasks.CreateAdmission
import NewApi.Reasoning.ClaudeBudget

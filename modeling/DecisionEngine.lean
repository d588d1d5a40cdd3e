import DecisionEngine.Euclid.Agreement
import DecisionEngine.Euclid.PmFilterCorrect
import DecisionEngine.Feedback.WindowConcurrency
import DecisionEngine.Routing.CacheConvergence
import DecisionEngine.Feedback.EliminationConcurrency
import DecisionEngine.Feedback.MerchantIsolation
import DecisionEngine.Scoring.CostDeterminism
import DecisionEngine.Scoring.DecisionShape
import DecisionEngine.Routing.ReferentialIntegrity
import DecisionEngine.CostIngestion.RefreshConcurrency
import DecisionEngine.CostIngestion.IngestionDeletion
import DecisionEngine.Calibration.HumanEdit
import DecisionEngine.CostIngestion.OverridePrecedence
import DecisionEngine.Config.Convergence
import DecisionEngine.Auth.Invitations
import DecisionEngine.Merchant.Grants
import DecisionEngine.Merchant.SyncConcurrency
import DecisionEngine.GatewayFilter.ListedOnce
import DecisionEngine.GatewayFilter.EnabledAccounts
import DecisionEngine.Routing.HybridRouting
import DecisionEngine.Feedback.ResetSurvival
import DecisionEngine.Scoring.SubLevelResolution
import DecisionEngine.Scoring.SeedCosts
import DecisionEngine.Scoring.Penalties
import DecisionEngine.Scoring.Sampling
import DecisionEngine.Config.FeatureToggles
import DecisionEngine.Config.RuleMap
import DecisionEngine.CostIngestion.Coverage
import DecisionEngine.Scoring.PriorityLogic
import DecisionEngine.Euclid.AcceptedRanges
import DecisionEngine.CostIngestion.TierChoice
import DecisionEngine.CostIngestion.MappedColumns
import DecisionEngine.CostIngestion.TruncatedPreview
import DecisionEngine.GatewayFilter.LongestBin
import DecisionEngine.CostIngestion.AdyenInvoice
import DecisionEngine.Scoring.ServedGateways
import DecisionEngine.GatewayFilter.TpvOnly
import DecisionEngine.GatewayFilter.SplitSettlement
import DecisionEngine.GatewayFilter.AuthTypeGateways
import DecisionEngine.Config.PaymentFlows
import DecisionEngine.Config.FeatureLists
import DecisionEngine.AbTest.Stickiness
import DecisionEngine.Debit.Savings
import DecisionEngine.Auth.SessionPermissions
import DecisionEngine.Auth.SingleUse
import DecisionEngine.Config.ToggleEffect
import DecisionEngine.Feedback.ErrorFilter
import DecisionEngine.Feedback.ScoreLock
import DecisionEngine.Analytics.ExperimentStats
import DecisionEngine.Merchant.Reconcile

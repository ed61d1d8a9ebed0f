import Pocketdex.Base.Dict
import Pocketdex.Base.Task
import Pocketdex.Base.Rely
import Pocketdex.Base.Run
import Pocketdex.Base.Components
import Pocketdex.Base.Program
import Pocketdex.Base.Store
import Pocketdex.Base.JsonText
import Pocketdex.Utils.Js
import Pocketdex.Utils.Primitives
import Pocketdex.Utils.Number
import Pocketdex.Utils.Double
import Pocketdex.Utils.Texts
import Pocketdex.IndexerManager
import Pocketdex.Proofs.StakeGroups
import Pocketdex.Proofs.StakeSchedule
import Pocketdex.Pocket.Applications
import Pocketdex.Pocket.Gateways
import Pocketdex.Proofs.IdGetters
import Pocketdex.Pocket.Relays
import Pocketdex.Proofs.BlockWrites
import Pocketdex.Proofs.RewardTransfers
import Pocketdex.Bank.BalanceChange
import Pocketdex.Bank.ModuleAccounts
import Pocketdex.Primitives.Genesis
import Pocketdex.Proofs.BalanceLedger
import Pocketdex.Proofs.BlockBalances
import Pocketdex.Proofs.ApplicationChain
import Pocketdex.Proofs.Reconciliation
import Pocketdex.Pocket.Validators
import Pocketdex.Proofs.ValidatorSync
import Pocketdex.Bank.Supply
import Pocketdex.Proofs.SupplyHistory
import Pocketdex.Pocket.Settlement
import Pocketdex.Proofs.SettlementAccounts
import Pocketdex.DbFunctions.Supply
import Pocketdex.Proofs.MintBreakdown
import Pocketdex.Proofs.ClaimFormats
import Pocketdex.Primitives.GenesisEntities
import Pocketdex.Proofs.GenesisIds
import Pocketdex.Pocket.Params
import Pocketdex.Proofs.ParamsTrack
import Pocketdex.Pocket.Delegations
import Pocketdex.Proofs.Delegations
import Pocketdex.Proofs.DelegationRuns
import Pocketdex.Pocket.Suppliers
import Pocketdex.Pocket.SupplierIndex
import Pocketdex.Pocket.ApplicationServices
import Pocketdex.Pocket.ExactSettlement
import Pocketdex.Pocket.Claims
import Pocketdex.Proofs.SupplierSteps
import Pocketdex.Proofs.SupplierRows
import Pocketdex.Proofs.SupplierLifecycle
import Pocketdex.Proofs.SupplierServices
import Pocketdex.Proofs.SupplierSlashes
import Pocketdex.Proofs.SupplierVersions
import Pocketdex.Proofs.SupplierPhases
import Pocketdex.Proofs.ApplicationStakes
import Pocketdex.Proofs.TransferSummaries
import Pocketdex.Proofs.MintedAmounts
import Pocketdex.Proofs.BurnAttribution
import Pocketdex.Proofs.CreatedClaims
import Pocketdex.Proofs.SupplierRetry
import Pocketdex.Utils.Multisig
import Pocketdex.Proofs.MultisigSigners
import Pocketdex.DbFunctions.Reports
import Pocketdex.Proofs.UnstakedReports
import Pocketdex.Base.Sql
import Pocketdex.DbFunctions.Delegators
import Pocketdex.Proofs.DelegatorData
import Pocketdex.Proofs.DelegatorRewards
import Pocketdex.DbFunctions.UnmigratedSupply
import Pocketdex.Proofs.UnmigratedSupply
import Pocketdex.Pocket.Migration
import Pocketdex.Proofs.MorseClaims
import Pocketdex.Proofs.MorseSupplierIdentity
import Pocketdex.Authz.Grants
import Pocketdex.Proofs.Grants
import Pocketdex.Authz.Exec
import Pocketdex.Proofs.Exec
import Pocketdex.Base.History
import Pocketdex.DbFunctions.DomainRewards
import Pocketdex.Proofs.DomainRewards
import Pocketdex.Base.Reorder
import Pocketdex.Proofs.ChainOrder
import Pocketdex.Proofs.Batches
import Pocketdex.Pocket.Services
import Pocketdex.Proofs.RelayDifficulty
import Pocketdex.Proofs.CoinTexts
import Pocketdex.Proofs.CoinParsers
import Pocketdex.Utils.BlockParser
import Pocketdex.Proofs.BlockJson
import Pocketdex.Utils.Digits
import Pocketdex.Proofs.DecimalTexts
import Pocketdex.Utils.DoubleLaws
import Pocketdex.Proofs.DecimalScaling
import Pocketdex.Utils.DoubleText
import Pocketdex.Base.Sorting
import Pocketdex.Pocket.FlatObjects
import Pocketdex.Proofs.JsonFields
import Pocketdex.Base.Refresh
import Pocketdex.Base.Writes
import Pocketdex.DbFunctions.BlockReports
import Pocketdex.Proofs.BlockReports
import Pocketdex.Proofs.ReportRuns
import Pocketdex.Base.Rollup
import Pocketdex.DbFunctions.RelaySummaries
import Pocketdex.Proofs.RelaySummaries
import Pocketdex.Base.Pool
import Pocketdex.DbFunctions.StakedSummaries
import Pocketdex.IndexingHandler
import Pocketdex.Proofs.BalanceRuns
import Pocketdex.Proofs.BlockFigures
import Pocketdex.DbFunctions.DaoBalance
import Pocketdex.Proofs.DaoBalance
import Pocketdex.Proofs.Dispatch
import Pocketdex.Proofs.StakeRows
import Pocketdex.Proofs.StakedSummaries

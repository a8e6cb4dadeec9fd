import Galoy.Accounts.RewardFailures
import Galoy.Accounts.RewardRaces
import Galoy.Accounts.UpdateRaces
import Galoy.Ledger.BuilderAgreement
import Galoy.Ledger.WholeAmounts
import Galoy.Lightning.ArchivePass
import Galoy.OnChain.AddressSpelling
import Galoy.OnChain.HotWallet
import Galoy.OnChain.ReceiptCompleteness
import Galoy.OnChain.ReceiptRaces
import Galoy.OnChain.SettlementRuns
import Galoy.Payments.AccountLimit
import Galoy.Payments.BuilderErrors
import Galoy.Payments.FailedPayments
import Galoy.Payments.FlowRecords
import Galoy.Payments.IntraledgerRaces
import Galoy.Payments.LimitAgreement
import Galoy.Payments.LnRaces
import Galoy.Payments.LnVoids
import Galoy.Payments.PendingHistory
import Galoy.Payments.PendingPaymentsPass
import Galoy.Payments.QuoteRequests
import Galoy.Payments.RevertedSends
import Galoy.Payments.SolventRuns
import Galoy.Wallets.HistoryQueries
import Galoy.Wallets.InvoiceFailures
import Galoy.Wallets.InvoiceLifecycle
import Galoy.Wallets.InvoiceRaces

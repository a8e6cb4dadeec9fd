import Galoy.Payments.LimitedSends
import Galoy.Shared.Rounding
import Mathlib.Algebra.BigOperators.Group.Finset.Basic
import Mathlib.Algebra.Order.BigOperators.Group.Finset

set_option autoImplicit false

namespace Galoy

open Interleave App

def PriceRatio.rate (priceRatio : PriceRatio) : ℚ := priceRatio.usd.amount / priceRatio.btc.amount

theorem PriceRatio.worth_le_convertFromBtc {ratio : PriceRatio} (usd : 0 < ratio.usd.amount)
    (btc : 0 < ratio.btc.amount) {convert : BtcPaymentAmount} (nonneg : 0 ≤ convert.amount) :
    convert.amount * ratio.rate ≤ (ratio.convertFromBtc convert).amount + 1 / 2 := by
  rcases nonneg.eq_or_lt with zero | positive
  · rw [← zero]
    simp [PriceRatio.convertFromBtc, ← zero]
  · have product := AmountCalculator.le_divRound .usd (convert.amount * ratio.usd.amount) btc
    have rounded : (AmountCalculator.divRound
        (⟨convert.amount * ratio.usd.amount⟩ : UsdPaymentAmount) ratio.btc.amount).amount ≤
          (ratio.convertFromBtc convert).amount := by
      rw [PriceRatio.convertFromBtc_amount usd btc positive]
      exact le_max_right ..
    have below := mul_le_mul_of_nonneg_right rounded btc.le
    have bound : (2 * (convert.amount * ratio.usd.amount) : ℚ) ≤
        2 * ((ratio.convertFromBtc convert).amount * ratio.btc.amount) + ratio.btc.amount := by
      exact_mod_cast product.trans (by linarith)
    have denominator : (0 : ℚ) < ratio.btc.amount := by exact_mod_cast btc
    rw [PriceRatio.rate, ← mul_div_assoc, div_le_iff₀ denominator]
    linarith

def WalletCurrency.worth (price : ℚ) : WalletCurrency → ℚ → ℚ
  | .btc, sats => sats * price
  | .usd, cents => cents

theorem WalletCurrency.worth_mono {price : ℚ} (nonneg : 0 ≤ price) (currency : WalletCurrency)
    {less more : ℚ} (le : less ≤ more) : currency.worth price less ≤ currency.worth price more := by
  cases currency with
  | btc => exact mul_le_mul_of_nonneg_right le nonneg
  | usd => exact le

@[simp] theorem WalletCurrency.worth_zero (price : ℚ) (currency : WalletCurrency) :
    currency.worth price 0 = 0 := by
  cases currency <;> simp [worth]

def Ledger.accountOutgoing (ledger : Ledger) (price : ℚ) (wallets : Finset WalletDescriptor)
    (window : Nat → Bool) : ℚ :=
  ∑ wallet ∈ wallets, wallet.currency.worth price
    (ledger.outgoingWithin .intraledgerTxBaseVolumeSince wallet.id window)

theorem Ledger.accountOutgoing_eq_zero {ledger : Ledger} {wallets : Finset WalletDescriptor}
    (unused : ∀ wallet ∈ wallets, ∀ journal ∈ ledger.journals,
      outgoing (TxnGroup.counts .intraledgerTxBaseVolumeSince wallet.id) journal.legs = 0)
    (price : ℚ) (window : Nat → Bool) : ledger.accountOutgoing price wallets window = 0 := by
  refine Finset.sum_eq_zero fun wallet member => ?_
  rw [Ledger.outgoingWithin_eq_zero (unused wallet member), WalletCurrency.worth_zero]

def midPriceAnswer : (c : Call) → Answer c → Option PriceRatio
  | .getMidPriceRatio _, .ok midPriceRatio => some midPriceRatio
  | _, _ => none

def volumeAsked : (c : Call) → Answer c → Option (WalletDescriptor × Nat)
  | .volumeAmountSince _ wallet, answer => some (wallet, answer.elapsed)
  | _, _ => none

def pricesAt (ratio : PriceRatio) (c : Call) (a : Answer c) : Prop :=
  ∀ midPriceRatio ∈ midPriceAnswer c a, midPriceRatio = ratio

-- No other wallet of the account has sent anything since the day began that is looked at.
def othersUnused (wallets : Finset WalletDescriptor) (wallet : WalletDescriptor) (ledger : Ledger)
    (begins : Nat) : Prop :=
  ∀ other ∈ wallets, other ≠ wallet →
    ledger.outgoingWithin .intraledgerTxBaseVolumeSince other.id (Ledger.since begins) = 0

-- The check takes the sats that are already spent at its own ratio, which is made of rounded
-- amounts. What it counts must not be less than what the sats are worth, up to a cent.
def OutgoingSend.CountedInFull (send : OutgoingSend) (ratio : PriceRatio) (ledger : Ledger)
    (begins : Nat) : Prop :=
  ∀ priceRatio ∈ (send.paymentFlow.priceRatioForLimits ratio).toOption,
    ∀ walletVolume ∈ (ledger.volumeAmountSince .intraledgerTxBaseVolumeSince send.senderWallet
        begins).toOption,
      send.senderWallet.currency.worth ratio.rate
          (walletVolume.outgoingBaseAmount.amount + send.amount) ≤
        (walletVolume.outgoingInUsd priceRatio).amount + send.paymentFlow.usdPaymentAmount.amount +
          1

namespace OutgoingSend

variable {send : OutgoingSend} {ratio : PriceRatio} {ledger : Ledger} {begins : Nat}

-- Of a wallet in dollars nothing is asked. For a wallet in sats it is enough that the ratio of the
-- check is not below the fixed one and that the cents of the flow are those of its sats, rounded.
theorem countedInFull_usd (usd : send.senderWallet.currency = .usd) :
    send.CountedInFull ratio ledger begins := by
  intro priceRatio _ walletVolume _
  have worth (cents : ℚ) : send.senderWallet.currency.worth ratio.rate cents = cents := by
    rw [usd]
    rfl
  have amount : send.amount = send.paymentFlow.usdPaymentAmount.amount := by
    rw [OutgoingSend.amount, usd]
    rfl
  rw [worth, outgoingInUsd_usd usd, amount]
  linarith

theorem countedInFull_btc (btc : send.senderWallet.currency = .btc)
    (sent : 0 ≤ ledger.outgoingWithin .intraledgerTxBaseVolumeSince send.senderWallet.id
      (Ledger.since begins))
    (fair : ∀ priceRatio ∈ (send.paymentFlow.priceRatioForLimits ratio).toOption,
      0 < priceRatio.usd.amount ∧ 0 < priceRatio.btc.amount ∧ ratio.rate ≤ priceRatio.rate)
    (rounded : send.amount * ratio.rate ≤ send.paymentFlow.usdPaymentAmount.amount + 1 / 2) :
    send.CountedInFull ratio ledger begins := by
  intro priceRatio made walletVolume answered
  obtain ⟨usdPositive, btcPositive, fair⟩ := fair priceRatio made
  have read : ledger.volumeAmountSince .intraledgerTxBaseVolumeSince send.senderWallet begins =
      .ok walletVolume := by
    revert answered
    cases ledger.volumeAmountSince .intraledgerTxBaseVolumeSince send.senderWallet begins with
    | error error =>
      intro none
      cases none
    | ok volume => exact fun same => congrArg Except.ok (Option.some.inj same)
  have volume : (0 : ℚ) ≤ walletVolume.outgoingBaseAmount.amount := by
    rw [Ledger.volumeAmountSince_outgoing read]
    exact sent
  have nonneg : 0 ≤ (⟨walletVolume.outgoingBaseAmount.amount⟩ : BtcPaymentAmount).amount := by
    exact_mod_cast volume
  have counted := PriceRatio.worth_le_convertFromBtc usdPositive btcPositive nonneg
  rw [← outgoingInUsd_btc btc] at counted
  have worth (sats : ℚ) : send.senderWallet.currency.worth ratio.rate sats = sats * ratio.rate := by
    rw [btc]
    rfl
  have atCheck := mul_le_mul_of_nonneg_left fair volume
  rw [worth, add_mul]
  linarith

end OutgoingSend

def oneWalletADay (ratio : PriceRatio) (wallets : Finset WalletDescriptor)
    (sends : RunId → OutgoingSend) : Permit services :=
  fun run w c a => pricesAt ratio c a ∧ ∀ asked ∈ volumeAsked c a,
    othersUnused wallets asked.1 w.ledger (w.clock + asked.2 - oneDay) ∧
      (sends run).CountedInFull ratio w.ledger (w.clock + asked.2 - oneDay)

namespace AccountLimit

theorem ratio_spec {permit : Permit services} {keep : World → Prop} {run : RunId}
    {ratio : PriceRatio} (prices : ∀ w c a, permit run w c a → pricesAt ratio c a)
    (flow : PaymentFlow) :
    Spec services permit (.alone keep run) run (fun _ => True) (getPriceRatioForLimits flow)
      (fun priceRatio _ => flow.priceRatioForLimits ratio = .ok priceRatio) (fun _ _ => True) := by
  have ofMade {made : Result PriceRatio} (same : flow.priceRatioForLimits ratio = made) :
      Spec services permit (.alone keep run) run (fun _ => True) (ofResult made)
        (fun priceRatio _ => flow.priceRatioForLimits ratio = .ok priceRatio)
          (fun _ _ => True) := by
    refine ofResult_spec fun _ _ _ => ?_
    cases made with
    | error error => trivial
    | ok priceRatio => exact same
  unfold getPriceRatioForLimits
  by_cases small : flow.btcPaymentAmount.amount < minSatsForPriceRatioPrecision.amount
  · rw [if_pos small]
    refine Spec.seq (fun usd _ => usd = ratio.convertFromBtc minSatsForPriceRatioPrecision) ?_
      fun usd => Spec.of_fact fun converted => ofMade (by
        rw [PaymentFlow.priceRatioForLimits, if_pos small, converted])
    refine Spec.seq (fun midPriceRatio _ => midPriceRatio = ratio)
      (fallible_spec (ask_triple (alone_stable _) ?_))
      fun midPriceRatio => Spec.pure fun _ _ same => by rw [same]
    intro before answer reply after good _ permitted served
    cases served
    refine ⟨alone_guaranteed good, ?_⟩
    cases answer with
    | error error => trivial
    | ok midPriceRatio => exact prices _ _ _ permitted midPriceRatio rfl
  · rw [if_neg small]
    exact ofMade (by rw [PaymentFlow.priceRatioForLimits, if_neg small])

structure Keeps (ratio : PriceRatio) (wallets : Finset WalletDescriptor)
    (account : Account) (limit : Int) (begun : Nat) (w : World) : Prop where
  customers : ∀ wallet ∈ wallets, ∀ currency, w.bank.converting currency ≠ wallet.id
  found : w.accounts account.id = some account
  nonneg : ∀ wallet ∈ wallets, w.ledger.NonnegOutgoing .intraledgerTxBaseVolumeSince wallet.id
  grown : begun ≤ w.ledger.journals.length
  within : ∀ begins, w.ledger.accountOutgoing ratio.rate wallets (Ledger.dayFrom begins) ≤
    limit + (w.ledger.journals.length - begun : Nat)

section Keeps

variable {ratio : PriceRatio} {wallets : Finset WalletDescriptor} {account : Account} {limit : Int}
  {begun : Nat}

theorem keeps_persistent : Persistent (Keeps ratio wallets account limit begun) := by
  rintro before after ⟨ledger, bank, accounts, _⟩ ⟨customers, found, nonneg, grown, within⟩
  constructor
  · rwa [bank]
  · rwa [accounts]
  · rwa [ledger]
  · rwa [ledger]
  · rwa [ledger]

variable {getAccountLimits : AccountLevel → AccountLimits} (send : OutgoingSend) {w : World}

theorem sender_within (check : LimitPassed getAccountLimits send.senderWallet
      send.paymentFlow.usdPaymentAmount w)
    (made : send.paymentFlow.priceRatioForLimits ratio = .ok check.priceRatio)
    (counted : send.CountedInFull ratio w.ledger (check.checkedAt - oneDay)) :
    send.senderWallet.currency.worth ratio.rate
        (check.walletVolume.outgoingBaseAmount.amount + send.amount) ≤
      (getAccountLimits check.account.level).intraLedgerLimit + 1 := by
  have passed : ((check.walletVolume.outgoingInUsd check.priceRatio).amount : ℚ) +
      send.paymentFlow.usdPaymentAmount.amount ≤
        (getAccountLimits check.account.level).intraLedgerLimit := by
    exact_mod_cast checkLimitBase_eq_ok.mp check.passed
  have worth := counted check.priceRatio (by rw [made]; rfl) check.walletVolume
    (by rw [check.read]; rfl)
  linarith

theorem accountOutgoing_committed (customers : ∀ wallet ∈ wallets, ∀ currency,
      w.bank.converting currency ≠ wallet.id) (run : RunId) (recipient : WalletDescriptor)
    (now : Nat) {window : Nat → Bool} (outside : window now = false) :
    (LimitedSend.committed send.toIntraledgerPayment run recipient w now).ledger.accountOutgoing
      ratio.rate wallets window = w.ledger.accountOutgoing ratio.rate wallets window := by
  refine Finset.sum_congr rfl fun wallet member => ?_
  rw [send.outgoingWithin_committed run recipient now (customers wallet member _)]
  simp [outside]

section Window

variable (nonneg : 0 ≤ ratio.rate)
  (ids : ∀ first ∈ wallets, ∀ second ∈ wallets, first.id = second.id → first = second)
  (member : send.senderWallet ∈ wallets) (keeps : Keeps ratio wallets account limit begun w)
  (check : LimitPassed getAccountLimits send.senderWallet send.paymentFlow.usdPaymentAmount w)
  (run : RunId) (recipient : WalletDescriptor) {now begins : Nat} (later : w.clock ≤ now)
  (inside : Ledger.dayFrom begins now = true)

include nonneg member keeps check later inside

theorem sender_committed (owner : send.senderWallet.accountId = account.id)
    (made : send.paymentFlow.priceRatioForLimits ratio = .ok check.priceRatio)
    (counted : send.CountedInFull ratio w.ledger (check.checkedAt - oneDay)) :
    send.senderWallet.currency.worth ratio.rate
        ((LimitedSend.committed send.toIntraledgerPayment run recipient w now).ledger.outgoingWithin
          .intraledgerTxBaseVolumeSince send.senderWallet.id (Ledger.dayFrom begins)) ≤
      (getAccountLimits account.level).intraLedgerLimit + 1 := by
  obtain rfl : check.account = account :=
    Option.some.inj (check.found.symm.trans (owner ▸ keeps.found))
  have covered := check.window_le (keeps.nonneg _ member) later inside
  rw [← Ledger.volumeAmountSince_outgoing check.read] at covered
  rw [send.outgoingWithin_committed run recipient now (keeps.customers _ member _)]
  simp only [inside, and_self, if_true]
  refine le_trans ?_ (sender_within send check made counted)
  exact send.senderWallet.currency.worth_mono nonneg (by linarith)

include ids

theorem others_committed
    (unused : othersUnused wallets send.senderWallet w.ledger (check.checkedAt - oneDay)) :
    ∑ other ∈ wallets.erase send.senderWallet, other.currency.worth ratio.rate
      ((LimitedSend.committed send.toIntraledgerPayment run recipient w now).ledger.outgoingWithin
        .intraledgerTxBaseVolumeSince other.id (Ledger.dayFrom begins)) ≤ 0 := by
  refine Finset.sum_nonpos fun other inAccount => ?_
  obtain ⟨different, inAccount⟩ := Finset.mem_erase.mp inAccount
  have otherId : send.senderWallet.id ≠ other.id := fun same =>
    different (ids _ member _ inAccount same).symm
  have covered := check.window_le (keeps.nonneg other inAccount) later inside
  rw [unused other inAccount different] at covered
  rw [send.outgoingWithin_committed run recipient now (keeps.customers other inAccount _)]
  simp only [otherId, and_false, if_false, add_zero]
  exact (other.currency.worth_mono nonneg covered).trans_eq (other.currency.worth_zero _)

end Window

theorem keeps_commit (nonneg : 0 ≤ ratio.rate)
    (ids : ∀ first ∈ wallets, ∀ second ∈ wallets, first.id = second.id → first = second)
    (member : send.senderWallet ∈ wallets) (owner : send.senderWallet.accountId = account.id)
    (run : RunId) :
    LimitedSend.CommitsKeep getAccountLimits send.toIntraledgerPayment
      (fun priceRatio => send.paymentFlow.priceRatioForLimits ratio = .ok priceRatio)
      (fun ledger now => othersUnused wallets send.senderWallet ledger (now - oneDay) ∧
        send.CountedInFull ratio ledger (now - oneDay))
      (Keeps ratio wallets account (getAccountLimits account.level).intraLedgerLimit begun)
        run := by
  rintro recipient w now check keeps later made ⟨unused, counted⟩
  have longer : (LimitedSend.committed send.toIntraledgerPayment run recipient w
      now).ledger.journals.length = w.ledger.journals.length + 1 := by
    simp [LimitedSend.committed, Ledger.commit]
  have grown := keeps.grown
  refine ⟨keeps.customers, keeps.found, fun wallet inAccount =>
    send.nonnegOutgoing_committed run recipient now (keeps.customers wallet inAccount _)
      (keeps.nonneg wallet inAccount), by omega, fun begins => ?_⟩
  have accepted : (((LimitedSend.committed send.toIntraledgerPayment run recipient w
      now).ledger.journals.length - begun : Nat) : ℚ) =
        (w.ledger.journals.length - begun : Nat) + 1 := by
    rw [longer, Nat.sub_add_comm grown, Nat.cast_succ]
  rw [accepted]
  cases inside : Ledger.dayFrom begins now with
  | false =>
    rw [accountOutgoing_committed send keeps.customers run recipient now inside]
    linarith [keeps.within begins]
  | true =>
    have sender := sender_committed send nonneg member keeps check run recipient later inside owner
      made counted
    have others := others_committed send nonneg ids member keeps check run recipient
      later inside unused
    have counted : (0 : ℚ) ≤ (w.ledger.journals.length - begun : Nat) := Nat.cast_nonneg _
    rw [Ledger.accountOutgoing, ← Finset.add_sum_erase wallets _ member]
    linarith

end Keeps

end AccountLimit

/-- The check is of one wallet and takes its volume at the ratio of the payment itself. The account
stays within its limit when only one of its wallets has sent anything for a day and that ratio does
not undervalue what it has sent. -/
theorem account_volume_within_limit (getAccountLimits : AccountLevel → AccountLimits)
    (ratio : PriceRatio) (nonneg : 0 ≤ ratio.rate) (account : Account)
    (wallets : Finset WalletDescriptor)
    (ids : ∀ first ∈ wallets, ∀ second ∈ wallets, first.id = second.id → first = second)
    (owned : ∀ wallet ∈ wallets, wallet.accountId = account.id) {start : World}
    (customers : ∀ wallet ∈ wallets, ∀ currency, start.bank.converting currency ≠ wallet.id)
    (found : start.accounts account.id = some account)
    (debits : ∀ wallet ∈ wallets,
      start.ledger.NonnegOutgoing .intraledgerTxBaseVolumeSince wallet.id)
    (within : ∀ begins, start.ledger.accountOutgoing ratio.rate wallets (Ledger.dayFrom begins) ≤
      (getAccountLimits account.level).intraLedgerLimit)
    (sends : RunId → OutgoingSend) (ofAccount : ∀ run, (sends run).senderWallet ∈ wallets)
    {after : Config World Call Reply (Result PaymentSendStatus)}
    (reach : SerialReach services (oneWalletADay ratio wallets sends)
      ⟨start, fun run => ((sends run).prog getAccountLimits).run⟩ after) (begins : Nat) :
    after.world.ledger.accountOutgoing ratio.rate wallets (Ledger.dayFrom begins) ≤
      (getAccountLimits account.level).intraLedgerLimit +
        (after.world.ledger.journals.length - start.ledger.journals.length : Nat) := by
  have good : AccountLimit.Keeps ratio wallets account
      (getAccountLimits account.level).intraLedgerLimit start.ledger.journals.length start :=
    ⟨customers, found, debits, le_rfl, fun begins => by simpa using within begins⟩
  refine (serial_inv (fun run w keeps => ?_) good reach).within begins
  refine LimitedSend.send_keeps AccountLimit.keeps_persistent
    (AccountLimit.keeps_commit (sends run) nonneg ids (ofAccount run) (owned _ (ofAccount run)) run)
    (fun w answer permitted => ?_)
    (AccountLimit.ratio_spec (fun _ _ _ permitted => permitted.1) (sends run).paymentFlow)
    (sends run).toOthers w keeps
  exact permitted.2 _ rfl

section Example

instance (ratio : PriceRatio) (c : Call) (a : Answer c) : Decidable (pricesAt ratio c a) :=
  inferInstanceAs (Decidable (∀ midPriceRatio ∈ midPriceAnswer c a, midPriceRatio = ratio))

instance (wallets : Finset WalletDescriptor) (wallet : WalletDescriptor) (ledger : Ledger)
    (begins : Nat) : Decidable (othersUnused wallets wallet ledger begins) :=
  inferInstanceAs (Decidable (∀ other ∈ wallets, _ → _))

instance (send : OutgoingSend) (ratio : PriceRatio) (ledger : Ledger) (begins : Nat) :
    Decidable (send.CountedInFull ratio ledger begins) :=
  inferInstanceAs (Decidable (∀ priceRatio ∈ _, ∀ walletVolume ∈ _, _ ≤ _))

instance (ratio : PriceRatio) (wallets : Finset WalletDescriptor) (sends : RunId → OutgoingSend)
    (run : RunId) (w : World) (c : Call) (a : services.Answer c) :
    Decidable (oneWalletADay ratio wallets sends run w c a) :=
  inferInstanceAs (Decidable (_ ∧ ∀ asked ∈ volumeAsked c a, _ ∧ _))

def aliceWallets : Finset WalletDescriptor :=
  {cashWallet "daily" "alice", cashWallet "savings" "alice"}

def bothSend (run : RunId) : OutgoingSend := cashSend (if run = 0 then "daily" else "savings")

def bothSends : Config World Call Reply (Result PaymentSendStatus) :=
  ⟨cashWorld, fun run => ((bothSend run).prog cashLimits).run⟩

theorem cashWorld_accountOutgoing (window : Nat → Bool) :
    cashWorld.ledger.accountOutgoing centsPerSat.rate aliceWallets window = 0 := by
  have known : ∀ wallet ∈ aliceWallets, wallet.id ∈ ["daily", "savings"] := by decide
  exact Ledger.accountOutgoing_eq_zero
    (fun wallet member => cashWorld_unused wallet.id (known wallet member)) _ window

def unevenRatio : PriceRatio := ⟨⟨48898⟩, ⟨1000000⟩, by decide, by decide⟩

def vault : WalletDescriptor := ⟨"vault", .btc, "alice"⟩

def vaultWallets : Finset WalletDescriptor := {vault, cashWallet "daily" "alice"}

def vaultWorld : World :=
  { sendWorld with
    ledger := (({} : Ledger).commit 100 0 (cashDeposit "daily")).commit 100 0
      (LedgerFacade.recordReceive exampleBank
        { description := "deposit"
          recipientWalletDescriptor := vault
          amountToCreditReceiver := ⟨⟨5000000⟩, ⟨244490⟩⟩
          metadata := lnReceiveLedgerMetadata "deposit of vault" ⟨0⟩ 0 244490 }) }

def vaultSend (sats : Nat) : OutgoingSend :=
  { cashSend "vault" with
    paymentFlow :=
      { (cashSend "vault").paymentFlow with
        senderWalletCurrency := .btc
        btcPaymentAmount := ⟨sats⟩
        usdPaymentAmount := unevenRatio.convertFromBtc ⟨sats⟩
        inputAmount := sats }
    senderWallet := vault
    ofSender := rfl
    toOthers := (cashSend "vault").toOthers
    nonneg := Int.natCast_nonneg sats }

def vaultAnswers (elapsed : Nat) : (c : Call) → Answer c
  | .volumeAmountSince _ _ => { elapsed }
  | c => { sendOutside paymentNoRoute .pending with midPriceRatio := unevenRatio }.answers c

def vaultSends (run : RunId) : OutgoingSend :=
  if run = 0 then cashSend "daily" else if run = 1 then vaultSend 5001 else vaultSend 6007

theorem vaultWorld_unused : ∀ walletId ∈ ["daily", "vault"], ∀ journal ∈ vaultWorld.ledger.journals,
    outgoing (TxnGroup.counts .intraledgerTxBaseVolumeSince walletId) journal.legs = 0 := by
  decide +kernel

theorem vaultWallets_known : ∀ wallet ∈ vaultWallets, wallet.id ∈ ["daily", "vault"] := by decide

theorem vaultWorld_accountOutgoing {wallets : Finset WalletDescriptor}
    (among : wallets ⊆ vaultWallets) (window : Nat → Bool) :
    vaultWorld.ledger.accountOutgoing unevenRatio.rate wallets window = 0 :=
  Ledger.accountOutgoing_eq_zero (fun wallet member =>
    vaultWorld_unused wallet.id (vaultWallets_known wallet (among member))) _ window

theorem account_sends_on_different_days_within_limit :
    ∃ after, SerialReach services (oneWalletADay unevenRatio vaultWallets vaultSends)
        ⟨vaultWorld, fun run => ((vaultSends run).prog fun _ => ⟨540, 0, 0⟩).run⟩ after ∧
      after.world.ledger.journals.length = 5 ∧
      after.world.ledger.accountOutgoing unevenRatio.rate vaultWallets
        (Ledger.dayFrom (2 * oneDay)) =
        11008 * unevenRatio.rate ∧
      after.world.ledger.accountOutgoing unevenRatio.rate vaultWallets (Ledger.dayFrom oneDay) ≤
        540 + 3 := by
  have played : (playTurns services (oneWalletADay unevenRatio vaultWallets vaultSends)
      (fun run => vaultAnswers (if run = 1 then 2 * oneDay else 0)) [(0, 10), (1, 9), (2, 9)]
      ⟨vaultWorld, fun run => ((vaultSends run).prog fun _ => ⟨540, 0, 0⟩).run⟩).map
        (fun after => (after.world.ledger.journals.length,
          after.world.ledger.accountOutgoing unevenRatio.rate vaultWallets
            (Ledger.dayFrom (2 * oneDay)))) =
      some (5, 11008 * unevenRatio.rate) := by
    decide +kernel
  obtain ⟨after, turns, shown⟩ := Option.map_eq_some_iff.mp played
  simp only [Prod.mk.injEq] at shown
  have reach := playTurns_serial turns
  have customers : ∀ wallet ∈ vaultWallets, ∀ currency,
      vaultWorld.bank.converting currency ≠ wallet.id := by
    intro wallet member currency
    have ids := vaultWallets_known wallet member
    cases currency <;> revert ids <;> generalize wallet.id = walletId <;> revert walletId <;> decide
  have debits : ∀ wallet ∈ vaultWallets,
      vaultWorld.ledger.NonnegOutgoing .intraledgerTxBaseVolumeSince wallet.id :=
    fun wallet member journal inLedger =>
      (vaultWorld_unused wallet.id (vaultWallets_known wallet member) journal inLedger).ge
  have within : ∀ begins, vaultWorld.ledger.accountOutgoing unevenRatio.rate vaultWallets
      (Ledger.dayFrom begins) ≤ (540 : Int) := fun begins => by
    rw [vaultWorld_accountOutgoing subset_rfl]
    norm_num
  have ofAccount : ∀ run, (vaultSends run).senderWallet ∈ vaultWallets := by
    intro run
    unfold vaultSends
    split_ifs <;> decide
  have bounded := account_volume_within_limit (fun _ => ⟨540, 0, 0⟩) unevenRatio (by decide +kernel)
    ⟨"alice", "user", none, .one⟩ vaultWallets (by decide) (by decide) customers rfl debits within
    vaultSends ofAccount reach oneDay
  rw [shown.1] at bounded
  have deposits : vaultWorld.ledger.journals.length = 2 := rfl
  rw [deposits] at bounded
  refine ⟨after, reach, shown.1, shown.2, bounded.trans_eq ?_⟩
  norm_num

theorem two_wallets_exceed_account_limit :
    (∀ window, cashWorld.ledger.accountOutgoing centsPerSat.rate aliceWallets window = 0) ∧
      ∃ after, SerialReach services (fun _ _ c a => pricesAt centsPerSat c a) bothSends after ∧
        after.world.ledger.journals.length = cashWorld.ledger.journals.length + 2 ∧
        after.world.ledger.accountOutgoing centsPerSat.rate aliceWallets (Ledger.dayFrom 0) =
          100 := by
  have played : (playTurns services (fun _ _ c a => pricesAt centsPerSat c a) (fun _ => cashAnswers)
      [(0, 10), (1, 10)] bothSends).map
        (fun after => (after.world.ledger.journals.length,
          after.world.ledger.accountOutgoing centsPerSat.rate aliceWallets (Ledger.dayFrom 0))) =
      some (4, 100) := by
    decide +kernel
  obtain ⟨after, turns, shown⟩ := Option.map_eq_some_iff.mp played
  simp only [Prod.mk.injEq] at shown
  exact ⟨cashWorld_accountOutgoing, after, playTurns_serial turns, shown.1, shown.2⟩

-- The wallet has sent sats for 200000 cents, which the ratio of the second payment takes for
-- 199599.
def vaultEmptied (run : RunId) : OutgoingSend := vaultSend (if run = 0 then 4090146 else 5000)

def vaultEmptying : Config World Call Reply (Result PaymentSendStatus) :=
  ⟨vaultWorld, fun run => ((vaultEmptied run).prog fun _ => ⟨200000, 0, 0⟩).run⟩

theorem rounded_ratio_exceeds_account_limit :
    (∀ window, vaultWorld.ledger.accountOutgoing unevenRatio.rate {vault} window = 0) ∧
      (∀ run, (vaultEmptied run).paymentFlow.usdPaymentAmount =
        unevenRatio.convertFromBtc (vaultEmptied run).paymentFlow.btcPaymentAmount) ∧
      ∃ after, SerialReach services (fun _ _ c a => pricesAt unevenRatio c a) vaultEmptying after ∧
        after.world.ledger.journals.length = vaultWorld.ledger.journals.length + 2 ∧
        200000 + 2 <
          after.world.ledger.accountOutgoing unevenRatio.rate {vault} (Ledger.dayFrom 0) := by
  have played : (playTurns services (fun _ _ c a => pricesAt unevenRatio c a)
      (fun _ => vaultAnswers 0) [(0, 9), (1, 9)] vaultEmptying).map
        (fun after => (after.world.ledger.journals.length,
          after.world.ledger.accountOutgoing unevenRatio.rate {vault} (Ledger.dayFrom 0))) =
      some (4, 4095146 * unevenRatio.rate) := by
    decide +kernel
  obtain ⟨after, turns, shown⟩ := Option.map_eq_some_iff.mp played
  simp only [Prod.mk.injEq] at shown
  refine ⟨vaultWorld_accountOutgoing (by decide), fun _ => rfl, after, playTurns_serial turns,
    shown.1, ?_⟩
  rw [shown.2]
  decide +kernel

end Example

end Galoy

import Galoy.Accounts.Updates
import Galoy.Interleave.Pairs
import Galoy.OnChain.WithdrawalBalance

set_option autoImplicit false

namespace Galoy.Withdrawal

open Interleave Interleave.Failing
open OnChain (Wallet)
open Accounts (AccountStatus)

inductive BtcNetwork where
  | mainnet
  | testnet
  | signet
  | regtest
  deriving DecidableEq, Repr

def isBase58 (c : Char) : Bool :=
  ('a' ≤ c && c ≤ 'k') || ('m' ≤ c && c ≤ 'z') || ('A' ≤ c && c ≤ 'H') || ('J' ≤ c && c ≤ 'N') ||
    ('P' ≤ c && c ≤ 'Z') || ('1' ≤ c && c ≤ '9')

def matchesBase58 (firsts : List Char) : List Char → Bool
  | [] => false
  | first :: rest => first ∈ firsts && 26 ≤ rest.length && rest.length ≤ 34 && rest.all isBase58

def isLowerOrDigit (c : Char) : Bool := ('a' ≤ c && c ≤ 'z') || ('0' ≤ c && c ≤ '9')

def lowerCase (value : String) : List Char := value.toList.map Char.toLower

theorem lowerCase_ofList (letters : List Char) : lowerCase (String.ofList letters) =
    letters.map Char.toLower := by
  rw [lowerCase, String.toList_ofList]

def matchesBech32 (start : String) (value : String) : Bool :=
  let data := (lowerCase value).drop start.length
  (lowerCase value).take start.length = start.toList && 39 ≤ data.length && data.length ≤ 59 &&
    data.all isLowerOrDigit

theorem matchesBech32_ofList (start letters : List Char) :
    matchesBech32 (String.ofList start) (String.ofList letters) =
      (let data := (letters.map Char.toLower).drop start.length
       (letters.map Char.toLower).take start.length = start && 39 ≤ data.length &&
       data.length ≤ 59 &&
         data.all isLowerOrDigit) := by
  rw [matchesBech32, lowerCase_ofList, String.toList_ofList, String.length_ofList]

namespace BtcNetwork

def base58Firsts : BtcNetwork → List Char
  | mainnet => ['1', '3']
  | testnet | signet => ['m', 'n', '2']
  | regtest => []

def bech32Start : BtcNetwork → String
  | mainnet => "bc1"
  | testnet | signet => "tb1"
  | regtest => "bcrt1"

end BtcNetwork

def checkedToOnChainAddress (network : BtcNetwork) (value : String) : Result OnChainAddress :=
  if matchesBase58 network.base58Firsts value.toList || matchesBech32 network.bech32Start value
    then .ok value
  else .error { name := .InvalidOnChainAddress }

def checkedToCurrencyBaseAmount (amount : ℚ) : Result ℚ :=
  if ¬ amount > 0 then .error { name := .InvalidCurrencyBaseAmountError } else .ok amount

structure PayOnChainByWalletIdArgs where
  senderAccount : Account
  status : AccountStatus
  senderWalletId : WalletId
  amount : ℚ
  targetConfirmations : Int
  memo : Option String
  sendAll : Bool
  temporaryHash : OnChainTxHash
  deriving DecidableEq, Repr

inductive OnChainRoute where
  | executePaymentViaIntraledger (senderWallet recipientWallet : Wallet) (amount : ℚ)
    (address : OnChainAddress)
  | executePaymentViaOnChain (payment : OnChainPayment)

def OnChainRoute.recipient : OnChainRoute → Option Wallet
  | .executePaymentViaIntraledger _ recipientWallet _ _ => some recipientWallet
  | .executePaymentViaOnChain _ => none

section Programs

variable (network : BtcNetwork) (args : PayOnChainByWalletIdArgs)

def validatePaymentInput (amount : ℚ) : App (ℚ × Wallet) := do
  let validAmount ← ofResult (checkedToCurrencyBaseAmount amount)
  if args.status ≠ .active then throw { name := .InactiveAccountError, message :=
    args.senderAccount.id }
  else
    let senderWalletId ← ofResult (checkedToWalletId args.senderWalletId)
    let senderWallet ← fallible (ask (.findWalletById senderWalletId))
    if senderWallet.accountId ≠ args.senderAccount.id then throw { name := .InvalidWalletId }
    else return (validAmount, senderWallet)

def checkedAmount : App ℚ :=
  if args.sendAll then fallible (ask (.getWalletBalance .estimate args.senderWalletId))
  else ofResult (checkedToSats args.amount)

-- Any error of the lookup makes it a payment on chain.
def chooseRoute (senderWallet : Wallet) (amount : ℚ) (targetConfirmations : Int)
    (address : OnChainAddress) :
    Result Wallet → OnChainRoute
  | .ok recipientWallet => .executePaymentViaIntraledger senderWallet recipientWallet amount address
  | .error _ =>
    .executePaymentViaOnChain {
      senderWallet := ⟨senderWallet.id, senderWallet.currency, senderWallet.accountId⟩
      senderAccount := args.senderAccount
      amount
      address
      targetConfirmations
      memo := args.memo
      sendAll := args.sendAll
      temporaryHash := args.temporaryHash }

def payOnChainByWalletId (address : String) : App OnChainRoute := do
  let checkedAmount ← checkedAmount args
  let (amount, senderWallet) ← validatePaymentInput args checkedAmount
  let checkedAddress ← ofResult (checkedToOnChainAddress network address)
  let checkedTargetConfirmations ← ofResult (checkedToTargetConfs args.targetConfirmations)
  let recipientWallet ← total (ask (.findByAddress .estimate checkedAddress))
  return chooseRoute args senderWallet amount checkedTargetConfirmations checkedAddress
    recipientWallet

end Programs

section Spellings

variable {network : BtcNetwork} {address other : String}

def IsBech32 (network : BtcNetwork) (address : String) : Prop :=
  matchesBech32 network.bech32Start address

theorem isBech32_of_same_letters (bech32 : IsBech32 network address)
    (same : lowerCase address = lowerCase other) :
    IsBech32 network other := by
  unfold IsBech32 matchesBech32 at *
  rwa [← same]

theorem checked_of_bech32 (bech32 : IsBech32 network address) :
    checkedToOnChainAddress network address = .ok address := by
  unfold IsBech32 at bech32
  simp [checkedToOnChainAddress, bech32]

end Spellings

def World.HasAddress (w : World) (address : OnChainAddress) : Prop :=
  ∃ wallet ∈ w.wallets, address ∈ wallet.onChainAddresses

structure World.Stored (w : World) : Prop where
  uuids : ∀ wallet ∈ w.wallets, checkedToWalletId wallet.id = .ok wallet.id
  lowerCased : ∀ address, w.HasAddress address → lowerCase address = address.toList

structure SpellingBlind (answers : (c : Call) → Answer c) (address other : OnChainAddress) :
    Prop where
  findByAddress : ∀ asker, answers (.findByAddress asker address) =
    answers (.findByAddress asker other)
  getOnChainFeeEstimate : ∀ amount targetConfirmations,
    answers (.getOnChainFeeEstimate amount address targetConfirmations) =
      answers (.getOnChainFeeEstimate amount other targetConfirmations)

structure SameTreatment (network : BtcNetwork) (w : World) (address other : OnChainAddress) :
    Prop where
  route : ∀ run answers, SpellingBlind answers address other → ∀ args,
    PairedRun services run answers (fun left right => left.recipient = right.recipient)
      (payOnChainByWalletId network args address) (payOnChainByWalletId network args other) w
  fee : ∀ run answers, SpellingBlind answers address other →
    ∀ config asker walletId account amount targetConfirmations,
      PairedRun services run answers Eq
        (getOnChainFee config asker walletId account amount address targetConfirmations)
        (getOnChainFee config asker walletId account amount other targetConfirmations) w

theorem World.findByAddress_isSome {w : World} {address : OnChainAddress}
    (has : w.HasAddress address) :
    ∃ wallet, w.findByAddress address = .ok wallet := by
  obtain ⟨wallet, listed, held⟩ := has
  unfold World.findByAddress
  cases found : w.wallets.find? (address ∈ ·.onChainAddresses) with
  | none =>
    have missing := List.find?_eq_none.mp found wallet listed
    exact absurd held (by simpa using missing)
  | some wallet => exact ⟨wallet, rfl⟩

theorem World.findByAddress_unknown {w : World} {address : OnChainAddress}
    (unknown : ¬w.HasAddress address) :
    w.findByAddress address = .error { name := .CouldNotFindWalletFromOnChainAddressError } := by
  have missing : w.wallets.find? (address ∈ ·.onChainAddresses) = none := by
    rw [List.find?_eq_none]
    intro wallet listed held
    exact unknown ⟨wallet, listed, by simpa using held⟩
  simp [World.findByAddress, missing]

section Unknown

variable {w : World} {run : RunId} {answers : (c : Call) → Answer c} {network : BtcNetwork}
  {address other : OnChainAddress}

structure Indistinct (answers : (c : Call) → Answer c) (address other : OnChainAddress)
    (w : World) : Prop where
  blind : SpellingBlind answers address other
  minerFee : w.conditions.minerFee address = w.conditions.minerFee other
  lookup : w.findByAddress address = w.findByAddress other

theorem Indistinct.later {α : Type} {p : Prog Call Reply α} {value : α} {after : World}
    (indistinct : Indistinct answers address other w)
    (evaluated : eval services run answers p w = some (value, after)) :
    Indistinct answers address other after := by
  refine eval_keeps ?_ indistinct evaluated
  intro before c reply after now served
  obtain ⟨wallets, conditions⟩ := serve_unchanged served
  have lookup := now.lookup
  unfold World.findByAddress at lookup
  constructor
  case blind => exact now.blind
  case minerFee => rw [conditions, now.minerFee]
  case lookup => rw [World.findByAddress, World.findByAddress, wallets, lookup]

theorem findByAddress_paired (indistinct : Indistinct answers address other w) (asker : Asker) :
    PairedRun services run answers Eq (total (ask (.findByAddress asker address)) : App
      (Result Wallet)) (total (ask (.findByAddress asker other))) w := by
  have sameFault := indistinct.blind.findByAddress asker
  apply PairedRun.total
  apply Paired.of_eval
  rw [ask, ask, eval_request, eval_request]
  simp only [serve, indistinct.lookup]
  rw [sameFault]

theorem getOnChainFeeEstimate_paired (indistinct : Indistinct answers address other w) (amount : ℚ)
    (targetConfirmations : Int) :
    PairedRun services run answers Eq
      (fallible (ask (.getOnChainFeeEstimate amount address targetConfirmations)) : App ℕ)
      (fallible (ask (.getOnChainFeeEstimate amount other targetConfirmations))) w := by
  have sameFault := indistinct.blind.getOnChainFeeEstimate amount targetConfirmations
  apply PairedRun.of_eval
  show eval services run answers
    (Prog.request (.getOnChainFeeEstimate amount address targetConfirmations)) w =
    eval services run answers
      (Prog.request (.getOnChainFeeEstimate amount other targetConfirmations)) w
  rw [eval_request, eval_request]
  dsimp only
  rw [sameFault]
  cases answers (.getOnChainFeeEstimate amount other targetConfirmations) <;>
    simp [serve, indistinct.minerFee]

theorem getOnChainFee_paired (indistinct : Indistinct answers address other w) (config : Config)
    (asker : Asker) (walletId : WalletId) (account : Account) (amount : ℚ)
    (targetConfirmations : Int) :
    PairedRun services run answers Eq
      (getOnChainFee config asker walletId account amount address targetConfirmations)
      (getOnChainFee config asker walletId account amount other targetConfirmations) w := by
  unfold getOnChainFee
  refine PairedRun.step fun amountChecked after evaluated => ?_
  replace indistinct := indistinct.later evaluated
  refine PairedRun.step fun targetConfsChecked after evaluated => ?_
  replace indistinct := indistinct.later evaluated
  refine PairedRun.step fun walletIdChecked after evaluated => ?_
  replace indistinct := indistinct.later evaluated
  refine PairedRun.step fun wallet after evaluated => ?_
  replace indistinct := indistinct.later evaluated
  refine (findByAddress_paired indistinct asker).bind ?_
  rintro payee _ after evaluated rfl
  replace indistinct := indistinct.later evaluated
  split
  · exact .throw _
  · split
    · exact .throw _
    · refine PairedRun.step fun balance after evaluated => ?_
      replace indistinct := indistinct.later evaluated
      split
      · exact .throw _
      · refine PairedRun.step fun _ after evaluated => ?_
        replace indistinct := indistinct.later evaluated
        refine (getOnChainFeeEstimate_paired indistinct _ _).bind ?_
        rintro minerFee _ _ _ rfl
        exact .of_eval rfl
  · exact .of_eval rfl

theorem payOnChainByWalletId_paired (indistinct : Indistinct answers address other w)
    (accepted : checkedToOnChainAddress network address = .ok address)
    (otherAccepted : checkedToOnChainAddress network other = .ok other)
    (args : PayOnChainByWalletIdArgs) :
    PairedRun services run answers (fun left right => left.recipient = right.recipient)
      (payOnChainByWalletId network args address) (payOnChainByWalletId network args other) w := by
  unfold payOnChainByWalletId
  rw [accepted, otherAccepted]
  refine PairedRun.step fun amount after evaluated => ?_
  replace indistinct := indistinct.later evaluated
  refine PairedRun.step fun validated after evaluated => ?_
  replace indistinct := indistinct.later evaluated
  have checked : PairedRun services run answers (fun left right => left = address ∧ right = other)
      (ofResult (.ok address) : App OnChainAddress) (ofResult (.ok other)) after :=
        Paired.pure ⟨rfl, rfl⟩
  refine checked.bind ?_
  rintro _ _ after evaluated ⟨rfl, rfl⟩
  replace indistinct := indistinct.later evaluated
  refine PairedRun.step fun targetConfirmations after evaluated => ?_
  replace indistinct := indistinct.later evaluated
  refine (findByAddress_paired indistinct .estimate).bind ?_
  rintro found _ _ _ rfl
  apply PairedRun.pure
  cases found <;> rfl

end Unknown

section Known

variable {w : World} {network : BtcNetwork} {address other : OnChainAddress}

def noFaults : (c : Call) → Answer c
  | .onChainService | .checkWithdrawalLimits _ _ _ => .ok ()
  | .getCurrentPrice | .getBalance | .lookupOnChainFee _ => .ok 0
  | .getOnChainFeeEstimate _ _ _ => none
  | .findWalletById _ | .findByAddress _ _ => none
  | .getWalletBalance _ _ | .lightningTxBaseVolumeSince _ _ | .onChainTxBaseVolumeSince _ _
  | .setOnChainTxSendHash _ _ => none
  | .acquire _ | .release _ => .done
  | .signalAborted _ => false
  | .addOnChainTxSend _ => {}
  | .revertOnChainPayment _ => {}
  | .payToAddress _ _ _ _ => .ok ""

theorem noFaults_blind : SpellingBlind noFaults address other := ⟨fun _ => rfl, fun _ _ => rfl⟩

def oneSat (walletId : WalletId) (accountId : AccountId) : PayOnChainByWalletIdArgs where
  senderAccount := ⟨accountId, 0⟩
  status := .active
  senderWalletId := walletId
  amount := 1
  targetConfirmations := 1
  memo := none
  sendAll := false
  temporaryHash := ""

variable {sender : Wallet} {walletId : WalletId}

theorem oneSat_validated (uuid : checkedToWalletId walletId = .ok walletId)
    (found : w.findById walletId = .ok sender) :
    EndsRun services 0 noFaults (validatePaymentInput (oneSat walletId sender.accountId) 1) w
      (fun result now => result = .ok (1, sender) ∧ now = w) := by
  have amount : checkedToCurrencyBaseAmount 1 = .ok 1 := by decide
  have served : serve 0 w (.findWalletById walletId) none = some (.ok sender, w) := by
    simp [serve, Stores.readOr, Stores.answerOr, found]
  have own : ¬ sender.accountId ≠ (oneSat walletId sender.accountId).senderAccount.id :=
    not_not.mpr rfl
  unfold validatePaymentInput
  apply EndsRun.next (ends_pure.mpr ⟨amount, rfl⟩)
  apply EndsRun.next (ends_pure.mpr ⟨uuid, rfl⟩)
  refine EndsRun.next (ends_served served ⟨rfl, rfl⟩) ?_
  rw [if_neg own]
  exact ends_pure.mpr ⟨rfl, rfl⟩

theorem oneSat_evaluates (uuid : checkedToWalletId walletId = .ok walletId)
    (found : w.findById walletId = .ok sender)
    (accepted : checkedToOnChainAddress network address = .ok address) :
    EndsRun services 0 noFaults
      (payOnChainByWalletId network (oneSat walletId sender.accountId) address) w
      (fun result now => now = w ∧ ∃ route, result = .ok route ∧
        route.recipient = (w.findByAddress address).toOption) := by
  have sats : checkedToSats 1 = .ok 1 := by decide
  unfold payOnChainByWalletId
  apply EndsRun.next (ends_pure.mpr ⟨sats, rfl⟩)
  apply EndsRun.next (oneSat_validated uuid found)
  apply EndsRun.next (ends_pure.mpr ⟨accepted, rfl⟩)
  apply EndsRun.next (ends_pure.mpr ⟨rfl, rfl⟩)
  apply EndsRun.next (endsRun_total.mpr (ends_served rfl ⟨rfl, rfl⟩))
  refine endsRun_pure.mpr ⟨rfl, _, rfl, ?_⟩
  cases w.findByAddress address <;> rfl

theorem World.findById_listed {wallet : Wallet} (listed : wallet ∈ w.wallets) :
    ∃ sender, w.findById wallet.id = .ok sender := by
  unfold World.findById
  cases found : w.wallets.find? (·.id = wallet.id) with
  | none =>
    have missing := List.find?_eq_none.mp found wallet listed
    simp at missing
  | some sender => exact ⟨sender, rfl⟩

theorem World.findByAddress_hasAddress :
    (w.findByAddress address).toOption.isSome ↔ w.HasAddress address := by
  constructor
  · intro found
    by_contra unknown
    rw [World.findByAddress_unknown unknown] at found
    cases found
  · intro has
    obtain ⟨wallet, found⟩ := World.findByAddress_isSome has
    rw [found]
    rfl

theorem SameTreatment.hasAddress_iff {wallet : Wallet}
    (same : SameTreatment network w address other) (stored : w.Stored) (listed : wallet ∈ w.wallets)
    (accepted : checkedToOnChainAddress network address = .ok address)
    (otherAccepted : checkedToOnChainAddress network other = .ok other) :
    w.HasAddress address ↔ w.HasAddress other := by
  have uuid := stored.uuids wallet listed
  obtain ⟨sender, found⟩ := World.findById_listed listed
  obtain ⟨_, _, evaluated, _, route, rfl, recipient⟩ := oneSat_evaluates uuid found accepted
  obtain ⟨_, _, otherEvaluated, _, otherRoute, rfl, otherRecipient⟩ :=
    oneSat_evaluates uuid found otherAccepted
  have paired := same.route 0 noFaults noFaults_blind (oneSat wallet.id sender.accountId)
  unfold PairedRun Paired at paired
  rw [evaluated, otherEvaluated] at paired
  cases paired with
  | some holds =>
    have agree : route.recipient = otherRoute.recipient := holds.1
    rw [← World.findByAddress_hasAddress, ← World.findByAddress_hasAddress, ← recipient,
      ← otherRecipient, agree]

end Known

section Spellings

variable {network : BtcNetwork} {w : World} {address other : OnChainAddress}

theorem World.Stored.eq_of_same_letters (stored : w.Stored) (has : w.HasAddress address)
    (otherHas : w.HasAddress other) (same : lowerCase address = lowerCase other) :
    address = other := by
  rw [stored.lowerCased address has, stored.lowerCased other otherHas] at same
  exact String.toList_inj.mp same

theorem spellings_treated_alike_iff (stored : w.Stored) (bech32 : IsBech32 network address)
    (letters : lowerCase address = lowerCase other)
    (minerFee : w.conditions.minerFee address = w.conditions.minerFee other) :
    checkedToOnChainAddress network address = .ok address ∧
      checkedToOnChainAddress network other = .ok other ∧
      (SameTreatment network w address other ↔
        address = other ∨ ¬ w.HasAddress address ∧ ¬ w.HasAddress other) := by
  have accepted := checked_of_bech32 bech32
  have otherAccepted := checked_of_bech32 (isBech32_of_same_letters bech32 letters)
  refine ⟨accepted, otherAccepted, ?_, ?_⟩
  · intro treated
    by_contra neither
    rw [not_or] at neither
    obtain ⟨different, known⟩ := neither
    have listed : ∃ wallet, wallet ∈ w.wallets := by
      by_contra none
      have unknown (spelling : OnChainAddress) : ¬ w.HasAddress spelling := by
        rintro ⟨wallet, listed, _⟩
        exact none ⟨wallet, listed⟩
      exact known ⟨unknown address, unknown other⟩
    obtain ⟨wallet, listed⟩ := listed
    have both := treated.hasAddress_iff stored listed accepted otherAccepted
    by_cases has : w.HasAddress address
    · exact different (stored.eq_of_same_letters has (both.mp has) letters)
    · exact known ⟨has, fun otherHas => has (both.mpr otherHas)⟩
  · intro alike
    have lookup : w.findByAddress address = w.findByAddress other := by
      rcases alike with rfl | ⟨unknown, otherUnknown⟩
      · rfl
      · rw [World.findByAddress_unknown unknown, World.findByAddress_unknown otherUnknown]
    constructor
    case route =>
      intro run answers blind args
      exact payOnChainByWalletId_paired ⟨blind, minerFee, lookup⟩ accepted otherAccepted args
    case fee =>
      intro run answers blind config asker walletId account amount targetConfirmations
      exact getOnChainFee_paired ⟨blind, minerFee, lookup⟩ config asker walletId account amount
        targetConfirmations

section OwnAddress

def aliceAddress : OnChainAddress := "bc1qw508d6qejxtdg4y5r3zarvary0c5xw7kv8f3t4"

def aliceAddressInCapitals : OnChainAddress := "BC1QW508D6QEJXTDG4Y5R3ZARVARY0C5XW7KV8F3T4"

def aliceWallet : Wallet := ⟨"aaaaaaaa-aaaa-1aaa-8aaa-aaaaaaaaaaaa", "alice", .btc, [aliceAddress]⟩

def bobWallet : Wallet := ⟨"bbbbbbbb-bbbb-1bbb-8bbb-bbbbbbbbbbbb", "bob", .btc, []⟩

def spellingWorld : World where
  bank := ⟨"owner", "dealerBtc", "dealerUsd", "funder"⟩
  ledger := {
    journals :=
      [{ id := 0
         description := ""
         legs := [⟨toLedgerAccountId bobWallet.id, 0, 100000, .btc,
           { type := .onchainReceipt, pending := false }⟩]
         timestamp := 0
         writtenBy := 0 }] }
  locks := fun _ => none
  wallets := [aliceWallet, bobWallet]
  conditions := {
    minerFee := fun _ _ _ => 300
    minerFee_mono := fun _ _ => monotone_const
    lightningVolume := fun _ => ⟨0, 0⟩
    onChainVolume := fun _ => ⟨0, 0⟩ }
  clock := 0
  balances := fun _ => none

def spellingConfig : Config where
  withdraw := { method := .flat, ratio := 1, threshold := 0, daysLookback := 30, defaultMin :=
    2000 }
  dustThreshold := 5000

def bobPays (address : OnChainAddress) : Option (Result (Option WalletId)) :=
  let args := { oneSat bobWallet.id "bob" with amount := 10000 }
  (eval services 0 noFaults (payOnChainByWalletId .mainnet args address).run spellingWorld).map
    fun out => out.1.map fun route => route.recipient.map (·.id)

def bobIsQuoted (address : OnChainAddress) : Option (Result ℚ) :=
  (eval services 0 noFaults
    (getOnChainFee spellingConfig .estimate bobWallet.id ⟨"bob", 2000⟩ 10000 address 1).run
    spellingWorld).map (·.1)

theorem aliceAddress_letters : lowerCase aliceAddress = lowerCase aliceAddressInCapitals := by
  refine (lowerCase_ofList _).trans (Eq.trans ?_ (lowerCase_ofList _).symm)
  decide

theorem aliceAddress_bech32 : IsBech32 .mainnet aliceAddress := by
  refine (matchesBech32_ofList _ _).trans ?_
  decide

theorem aliceWallet_checked : checkedToWalletId aliceWallet.id = .ok aliceWallet.id := by
  refine checkedToWalletId_ofList ?_
  decide

theorem bobWallet_checked : checkedToWalletId bobWallet.id = .ok bobWallet.id := by
  refine checkedToWalletId_ofList ?_
  decide

theorem capital_letters_paid_on_chain :
    lowerCase aliceAddress = lowerCase aliceAddressInCapitals ∧
      checkedToOnChainAddress .mainnet aliceAddress = .ok aliceAddress ∧
      checkedToOnChainAddress .mainnet aliceAddressInCapitals = .ok aliceAddressInCapitals ∧
      bobPays aliceAddress = some (.ok (some aliceWallet.id)) ∧
      bobPays aliceAddressInCapitals = some (.ok none) ∧
      bobIsQuoted aliceAddress = some (.ok 0) ∧
      bobIsQuoted aliceAddressInCapitals = some (.ok 2300) := by
  have accepted := checked_of_bech32 aliceAddress_bech32
  have capitalsAccepted := checked_of_bech32
    (isBech32_of_same_letters aliceAddress_bech32 aliceAddress_letters)
  have sender : checkedToWalletId (oneSat bobWallet.id "bob").senderWalletId = .ok
      bobWallet.id := bobWallet_checked
  refine ⟨aliceAddress_letters, accepted, capitalsAccepted, ?_, ?_, ?_, ?_⟩
  · simp only [bobPays, payOnChainByWalletId, validatePaymentInput, accepted, sender]
    decide +kernel
  · simp only [bobPays, payOnChainByWalletId, validatePaymentInput, capitalsAccepted, sender]
    decide +kernel
  · simp only [bobIsQuoted, getOnChainFee, bobWallet_checked]
    decide +kernel
  · simp only [bobIsQuoted, getOnChainFee, bobWallet_checked]
    decide +kernel

theorem spellingWorld_hasAddress {address : OnChainAddress} :
    spellingWorld.HasAddress address ↔ address = aliceAddress := by
  simp [World.HasAddress, spellingWorld, aliceWallet, bobWallet]

theorem spellingWorld_stored : spellingWorld.Stored := by
  constructor
  case uuids =>
    intro wallet listed
    rcases List.mem_pair.mp listed with rfl | rfl
    · exact aliceWallet_checked
    · exact bobWallet_checked
  case lowerCased =>
    intro address has
    rw [spellingWorld_hasAddress.mp has]
    refine (lowerCase_ofList _).trans (Eq.trans ?_ String.toList_ofList.symm)
    decide

theorem foreign_address_treated_alike :
    SameTreatment .mainnet spellingWorld "bc1qcr8te4kr609gcawutmrza0j4xv80jy8z306fyu"
      "BC1QCR8TE4KR609GCAWUTMRZA0J4XV80JY8Z306FYU" := by
  have bech32 : IsBech32 .mainnet "bc1qcr8te4kr609gcawutmrza0j4xv80jy8z306fyu" := by
    refine (matchesBech32_ofList _ _).trans ?_
    decide
  have letters : lowerCase "bc1qcr8te4kr609gcawutmrza0j4xv80jy8z306fyu" =
      lowerCase "BC1QCR8TE4KR609GCAWUTMRZA0J4XV80JY8Z306FYU" := by
    refine (lowerCase_ofList _).trans (Eq.trans ?_ (lowerCase_ofList _).symm)
    decide
  have unknown : ¬ spellingWorld.HasAddress "bc1qcr8te4kr609gcawutmrza0j4xv80jy8z306fyu" := by
    rw [spellingWorld_hasAddress]
    refine fun same => absurd (String.ofList_injective same) ?_
    decide
  have otherUnknown : ¬ spellingWorld.HasAddress "BC1QCR8TE4KR609GCAWUTMRZA0J4XV80JY8Z306FYU" := by
    rw [spellingWorld_hasAddress]
    refine fun same => absurd (String.ofList_injective same) ?_
    decide
  exact (spellings_treated_alike_iff spellingWorld_stored bech32 letters rfl).2.2.mpr
    (.inr ⟨unknown, otherUnknown⟩)

end OwnAddress

end Spellings

end Galoy.Withdrawal

import Tokengine.Billing.OneSource
import Tokengine.Service.Settlement

/-! A quota session takes what its first accepted settlement says, or nothing once it is refunded. -/

namespace Tokengine.Billing.Conservation
open Model Database Quota ResetTime Subscription List Function Table Text
open Service Funding Session OneSource

inductive Phase where
  | unsettled
  | settled (actual : Int)
  | refunded

def Phase.settle (accepts : Int → Bool) (actual : Int) : Phase → Phase
  | .unsettled => if accepts actual then .settled actual else .unsettled
  | phase => phase

def Phase.refund : Phase → Phase
  | .unsettled => .refunded
  | phase => phase

def Phase.settles (accepts : Int → Bool) (settles : List Int) (phase : Phase) : Phase :=
  settles.foldl (fun phase actual => phase.settle accepts actual) phase

theorem settles_settled (accepts : Int → Bool) (actual : Int) (settles : List Int) :
    (Phase.settled actual).settles accepts settles = .settled actual := by
  induction settles with
  | nil => rfl
  | cons _ _ tail => exact tail

theorem settles_unsettled (accepts : Int → Bool) (settles : List Int) : Phase.unsettled.settles accepts settles =
      match settles.find? accepts with
      | some actual => .settled actual
      | none => .unsettled := by
  induction settles with
  | nil => rfl
  | cons first rest tail =>
    rw [Phase.settles, foldl_cons]
    cases taken : accepts first with
    | true =>
      simp only [find?_cons_of_pos taken, Phase.settle, taken, ↓reduceIte]
      exact settles_settled accepts first rest
    | false =>
      simp only [find?_cons, Phase.settle, taken, Bool.false_eq_true, ↓reduceIte]
      exact tail

theorem refund_settled (refunds : Nat) (actual : Int) : Phase.refund^[refunds] (.settled actual) = .settled actual :=
  iterate_fixed rfl refunds

theorem refund_unsettled {refunds : Nat} (some : 0 < refunds) : Phase.refund^[refunds] .unsettled = .refunded := by
  obtain ⟨rest, rfl⟩ := Nat.exists_eq_succ_of_ne_zero (Nat.pos_iff_ne_zero.mp some)
  exact iterate_fixed rfl rest

/-- What the calls of `Settle` and then of `Refund` leave; the caller does not stop at an error. -/
def afterSettles (settles : List Int) (o : Open) : Open := settles.foldl (fun o actual => (settle actual o).2) o

def afterRefunds (refunds : Nat) (o : Open) : Open := (fun o => (refund o).2)^[refunds] o

structure Conducts (start : Open) (env : Env) (accepts : Int → Bool) (ledger : Phase → Db) : Prop where
  opened : start.world = healthy env (ledger .unsettled)
  settles : ∀ actual, accepts actual = true → (settle actual start).2.session.settled = true ∧
    (settle actual start).2.world = healthy env (ledger (.settled actual))
  refuses : ∀ actual, accepts actual = false → (settle actual start).2 = start
  refunds : refund (refund start).2 = (.ok (), (refund start).2) ∧
    (refund start).2.world = healthy env (ledger .refunded)

def standing (start : Open) : Phase → Open
  | .unsettled => start
  | .settled actual => (settle actual start).2
  | .refunded => (refund start).2

/-- The phase is one of an accepted settlement, if of any. -/
@[simp]
def Phase.Reached (accepts : Int → Bool) (phase : Phase) : Prop := ∀ actual, phase = .settled actual → accepts actual = true

section Run

variable {start : Open} {env : Env} {accepts : Int → Bool} {ledger : Phase → Db} {phase : Phase}

section

variable (conducts : Conducts start env accepts ledger) (reached : phase.Reached accepts)
include conducts reached

theorem Conducts.world : (standing start phase).world = healthy env (ledger phase) := by
  cases phase with
  | unsettled => exact conducts.opened
  | settled actual => exact (conducts.settles actual (reached actual rfl)).2
  | refunded => exact conducts.refunds.2

theorem Conducts.settle_step (unrefunded : phase ≠ .refunded) (actual : Int) :
    (settle actual (standing start phase)).2 = standing start (phase.settle accepts actual) := by
  cases phase with
  | unsettled =>
    cases taken : accepts actual with
    | true =>
      rw [Phase.settle, taken]
      rfl
    | false =>
      rw [Phase.settle, taken]
      exact conducts.refuses actual taken
  | settled first =>
    have closed := (conducts.settles first (reached first rfl)).1
    rw [standing, settle_settled closed]
    rfl
  | refunded => exact absurd rfl unrefunded

theorem Conducts.refund_step : (refund (standing start phase)).2 = standing start phase.refund := by
  cases phase with
  | unsettled => rfl
  | settled actual =>
    have closed := (conducts.settles actual (reached actual rfl)).1
    rw [standing, refund_closed (Or.inl closed)]
    rfl
  | refunded =>
    rw [standing, conducts.refunds.1]
    rfl

end

theorem settle_reached (reached : phase.Reached accepts) (unrefunded : phase ≠ .refunded) (next : Int) :
    (phase.settle accepts next).Reached accepts ∧ phase.settle accepts next ≠ .refunded := by
  cases phase with
  | unsettled =>
    simp only [Phase.settle]
    split
    next taken => simp [taken]
    · simp
  | settled first => exact ⟨reached, by simp [Phase.settle]⟩
  | refunded => exact absurd rfl unrefunded

theorem Conducts.settle_run (conducts : Conducts start env accepts ledger) (settles : List Int)
    (reached : phase.Reached accepts) (unrefunded : phase ≠ .refunded) :
    afterSettles settles (standing start phase) = standing start (phase.settles accepts settles) := by
  induction settles generalizing phase with
  | nil => rfl
  | cons actual rest tail =>
    obtain ⟨still, unrefundedStill⟩ := settle_reached reached unrefunded actual
    calc
      _ = afterSettles rest (settle actual (standing start phase)).2 := rfl
      _ = afterSettles rest (standing start (phase.settle accepts actual)) := by
        rw [conducts.settle_step reached unrefunded]
      _ = _ := tail still unrefundedStill

theorem Conducts.refund_run (conducts : Conducts start env accepts ledger) (refunds : Nat)
    (reached : phase.Reached accepts) :
    afterRefunds refunds (standing start phase) = standing start (Phase.refund^[refunds] phase) := by
  induction refunds generalizing phase with
  | zero => rfl
  | succ refunds tail =>
    have still : phase.refund.Reached accepts := by
      cases phase with
      | settled first => exact reached
      | _ => simp [Phase.refund]
    calc
      _ = afterRefunds refunds (refund (standing start phase)).2 := rfl
      _ = afterRefunds refunds (standing start phase.refund) := by rw [conducts.refund_step reached]
      _ = _ := tail still

/-- After any settlements followed by any refunds the session stands where its phase says: at the first accepted
settlement, or else at the refund. -/
theorem Conducts.run (conducts : Conducts start env accepts ledger) (settles : List Int) (refunds : Nat) :
    match settles.find? accepts with
    | some actual => afterRefunds refunds (afterSettles settles start) = standing start (.settled actual) ∧
        (standing start (.settled actual)).world = healthy env (ledger (.settled actual))
    | none => 0 < refunds → afterRefunds refunds (afterSettles settles start) = standing start .refunded ∧
        (standing start .refunded).world = healthy env (ledger .refunded) := by
  have settled : afterSettles settles (standing start .unsettled) = _ := conducts.settle_run settles nofun nofun
  rw [settles_unsettled, standing] at settled
  rw [settled]
  cases found : settles.find? accepts with
  | some actual =>
    have reached : (Phase.settled actual).Reached accepts := by
      intro other same
      cases same
      exact find?_some found
    refine ⟨?_, conducts.world reached⟩
    rw [conducts.refund_run refunds reached, refund_settled]
  | none =>
    intro some
    refine ⟨?_, conducts.world (by simp)⟩
    rw [conducts.refund_run refunds (by simp), refund_unsettled some]

end Run

/-! Wallet sessions. -/

variable (env : Env)

theorem walletTables_add (info : RelayInfo) (db : Db) (first second : Int) :
    chargeToken env info second (chargeUser env info.userId second
      (walletTables env info db first)) = walletTables env info db (first + second) := by
  rw [walletTables, chargeUser_chargeToken, chargeUser_add, chargeToken_add]
  rfl

/-- What has been taken in a phase, by a session that pre-consumed `effective`. -/
def Phase.taken (effective : Int) : Phase → Int
  | .unsettled => effective
  | .settled actual => actual
  | .refunded => 0

variable {info' : RelayInfo}

theorem wallet_conducts {info : RelayInfo} (same : SameToken info info') (db : Db) {effective : Int}
    (nonneg : 0 ≤ effective) :
    Conducts ⟨walletSession info.userId effective, info', healthy env (walletTables env info db effective)⟩
      env (fun _ => true) (fun phase => walletTables env info db (phase.taken effective)) where
  opened := rfl
  settles actual _ := by
    by_cases exactly : actual = effective
    · rw [settle_exact rfl exactly, exactly]
      exact ⟨rfl, rfl⟩
    have paid := wallet_settle_healthy env (walletTables env info db effective)
      ⟨info.userId, max effective 0⟩ (actual - effective)
    have whole : effective + (actual - effective) = actual := by omega
    rw [settle_adjusts (walletSession info.userId effective) info' rfl rfl (by change actual - effective ≠ 0; omega) paid,
      same.chargeToken_eq]
    refine ⟨rfl, ?_⟩
    change healthy env (chargeToken env info (actual - effective)
      (chargeUser env info.userId (actual - effective) _)) = _
    rw [walletTables_add, whole]
    rfl
  refuses actual refused := by simp at refused
  refunds := by
    have kept : max effective 0 = effective := by omega
    by_cases pos : 0 < effective
    · have due : needsRefund (walletSession info.userId effective) = true := by
        simp [needsRefund, walletSession, BillingSession.new, pos]
      have returned := wallet_refund_healthy env (walletTables env info db effective)
        ⟨info.userId, max effective 0⟩ (by dsimp only; omega)
      rw [refund_returns (walletSession info.userId effective) info' due rfl rfl (by change 0 ≤ max effective 0; omega)
        returned, same.chargeToken_eq]
      refine ⟨refund_closed (Or.inr rfl), ?_⟩
      change healthy env (chargeToken env info (-max effective 0)
        (chargeUser env info.userId (-max effective 0) _)) = _
      rw [kept, walletTables_add, Int.add_right_neg]
      rfl
    · have zero : effective = 0 := by omega
      have nothing : needsRefund (walletSession info.userId effective) = false := by
        simp [needsRefund, walletSession, BillingSession.new, zero]
      have idle : refund ⟨walletSession info.userId effective, info',
          healthy env (walletTables env info db effective)⟩ = (.ok (), _) := refund_nothing nothing
      rw [idle]
      refine ⟨idle, ?_⟩
      rw [zero]
      rfl

/-! Subscription sessions. -/

section Subscription

variable (env : Env) (info : RelayInfo) (amount : Int) (sub : UserSubscription) (db : Db)

def usageTables (used paid : Int) (status : RecordStatus) : Db :=
  subscriptionTables env info db { sub with amountUsed := used }
    ⟨info.requestId, info.userId, sub.id, amount, status⟩ paid

theorem usageTables_sub (used paid : Int) (status : RecordStatus) :
    (usageTables env info amount sub db used paid status).subs.lookup sub.id =
      some { sub with amountUsed := used } := by
  rw [usageTables, subscriptionTables, (chargeToken_tables _ _ _ _).1]
  exact lookup_save_self _ _

theorem usageTables_record (used paid : Int) (status : RecordStatus) :
    (usageTables env info amount sub db used paid status).records.lookup info.requestId =
      some ⟨info.requestId, info.userId, sub.id, amount, status⟩ := by
  rw [usageTables, subscriptionTables, (chargeToken_tables _ _ _ _).2.2.1]
  exact lookup_save_self _ _

theorem usageTables_use (used paid later : Int) (status : RecordStatus) :
    saveSubscription { sub with amountUsed := later } (usageTables env info amount sub db used paid status) =
      usageTables env info amount sub db later paid status := by
  rw [usageTables, subscriptionTables, chargeToken_saveSubscription, saveSubscription, saveSubscription,
    save_save _ _ _ (by rfl)]
  rfl

theorem usageTables_pay (used paid more : Int) (status : RecordStatus) :
    chargeToken env info more (usageTables env info amount sub db used paid status) =
      usageTables env info amount sub db used (paid + more) status := by
  rw [usageTables, subscriptionTables, chargeToken_add]
  rfl

theorem usageTables_mark (used paid : Int) (status later : RecordStatus) :
    saveRecord ⟨info.requestId, info.userId, sub.id, amount, later⟩
      (usageTables env info amount sub db used paid status) = usageTables env info amount sub db used paid later := by
  rw [usageTables, subscriptionTables, chargeToken_saveRecord]
  simp only [saveRecord, saveSubscription]
  rw [save_save _ _ _ (by rfl)]
  rfl

def Phase.used (before amount : Int) : Phase → Int
  | .unsettled => before + amount
  | .settled actual => max (before + actual) 0
  | .refunded => before

def Phase.status : Phase → RecordStatus
  | .refunded => .refunded
  | _ => .consumed

def subscriptionLedger (phase : Phase) : Db :=
  usageTables env info amount sub db (phase.used sub.amountUsed amount) (phase.taken amount) phase.status

def withinTotal (actual : Int) : Bool := sub.amountTotal ≤ 0 || sub.amountUsed + actual ≤ sub.amountTotal

theorem subscriptionLedger_sub (phase : Phase) : (subscriptionLedger env info amount sub db phase).subs.lookup sub.id =
      some { sub with amountUsed := phase.used sub.amountUsed amount } := usageTables_sub _ _ _ _ _ _ _ _

variable {amount sub} (plan : SubscriptionPlanInfo) (pos : 0 < sub.id)
include pos

theorem subscription_settle {actual : Int} (differs : actual ≠ amount) :
    (subscriptionSession info amount sub plan).funding.settle (actual - amount)
        (healthy env (subscriptionLedger env info amount sub db .unsettled)) =
      match amountMeter.adjusted { sub with amountUsed := sub.amountUsed + amount } (actual - amount) with
      | .error e => (.error e, healthy env (subscriptionLedger env info amount sub db .unsettled))
      | .ok changed =>
        (.ok (), healthy env (saveSubscription changed (subscriptionLedger env info amount sub db .unsettled))) := by
  have nonzero : actual - amount ≠ 0 := by omega
  change SubscriptionFunding.settle (paidFrom (newSubscriptionFunding info amount) sub plan) (actual - amount) _ = _
  rw [SubscriptionFunding.settle, if_neg nonzero, postConsumeUserSubscriptionDelta]
  exact postConsume_healthy amountMeter pos nonzero (subscriptionLedger_sub env info amount sub db _)

theorem subscription_settles {actual : Int} (differs : actual ≠ amount)
    (fits : sub.amountTotal ≤ 0 ∨ sub.amountUsed + actual ≤ sub.amountTotal) :
    (subscriptionSession info amount sub plan).funding.settle (actual - amount)
      (healthy env (subscriptionLedger env info amount sub db .unsettled)) = (.ok (), healthy env
        (usageTables env info amount sub db (max (sub.amountUsed + actual) 0) amount .consumed)) := by
  have sum : sub.amountUsed + amount + (actual - amount) = sub.amountUsed + actual := by omega
  have adjusted := adjusted_within amountMeter { sub with amountUsed := sub.amountUsed + amount } (actual - amount)
    (by change sub.amountTotal ≤ 0 ∨ sub.amountUsed + amount + (actual - amount) ≤ sub.amountTotal; omega)
  rw [subscription_settle env info db plan pos differs, adjusted]
  change (_, healthy env (saveSubscription
    { sub with amountUsed := max (sub.amountUsed + amount + (actual - amount)) 0 } _)) = _
  rw [sum, subscriptionLedger, usageTables_use]
  rfl

theorem subscription_refuses {actual : Int} (differs : actual ≠ amount) (limited : 0 < sub.amountTotal)
    (exceeds : sub.amountTotal < sub.amountUsed + actual) :
    ∃ e, (subscriptionSession info amount sub plan).funding.settle (actual - amount)
      (healthy env (subscriptionLedger env info amount sub db .unsettled)) =
      (.error e, healthy env (subscriptionLedger env info amount sub db .unsettled)) := by
  obtain ⟨e, refused⟩ := adjusted_exceeds amountMeter { sub with amountUsed := sub.amountUsed + amount }
    (actual - amount) limited
    (by change sub.amountTotal < sub.amountUsed + amount + (actual - amount); omega)
  refine ⟨e, ?_⟩
  rw [subscription_settle env info db plan pos differs, refused]

variable (named : trimSpace info.requestId ≠ "") (charged : 0 < amount) (nonneg : 0 ≤ sub.amountUsed)
  (room : sub.amountTotal ≤ 0 ∨ sub.amountUsed + amount ≤ sub.amountTotal)
include named charged nonneg room

theorem subscription_refunds : (subscriptionSession info amount sub plan).funding.refund
      (healthy env (subscriptionLedger env info amount sub db .unsettled)) =
      (.ok (), healthy env (usageTables env info amount sub db sub.amountUsed amount .refunded)) := by
  have back : max (sub.amountUsed + amount + -amount) 0 = sub.amountUsed := by omega
  have fits := adjusted_within amountMeter { sub with amountUsed := sub.amountUsed + amount } (-amount)
    (by change sub.amountTotal ≤ 0 ∨ sub.amountUsed + amount + -amount ≤ sub.amountTotal; omega)
  have returned := refund_healthy amountMeter env named
    (usageTables_record env info amount sub db (sub.amountUsed + amount) amount .consumed) rfl charged
    pos (usageTables_sub env info amount sub db (sub.amountUsed + amount) amount .consumed) fits
  change SubscriptionFunding.refund (paidFrom (newSubscriptionFunding info amount) sub plan) _ = _
  rw [SubscriptionFunding.refund, if_neg (by change ¬amount ≤ 0; omega)]
  apply refundWithRetry_once
  refine returned.trans ?_
  change (_, healthy env (saveRecord ⟨info.requestId, info.userId, sub.id, amount, .refunded⟩
    (saveSubscription { sub with amountUsed := max (sub.amountUsed + amount + -amount) 0 } _))) = _
  rw [back, usageTables_use, usageTables_mark]

theorem subscription_conducts {info' : RelayInfo} (same : SameToken info info') :
    Conducts ⟨subscriptionSession info amount sub plan, info',
        healthy env (subscriptionLedger env info amount sub db .unsettled)⟩
      env (withinTotal sub) (subscriptionLedger env info amount sub db) where
  opened := rfl
  settles actual accepted := by
    have within : sub.amountTotal ≤ 0 ∨ sub.amountUsed + actual ≤ sub.amountTotal := by
      simpa [withinTotal] using accepted
    by_cases exactly : actual = amount
    · have used : max (sub.amountUsed + amount) 0 = sub.amountUsed + amount := by omega
      rw [settle_exact rfl exactly, exactly]
      refine ⟨rfl, ?_⟩
      simp only [subscriptionLedger, Phase.used, Phase.taken, Phase.status, used]
    · have sum : amount + (actual - amount) = actual := by omega
      have paid := subscription_settles env info db plan pos exactly within
      rw [settle_adjusts (subscriptionSession info amount sub plan) info' rfl rfl
        (by change actual - amount ≠ 0; omega) paid, same.chargeToken_eq]
      refine ⟨rfl, ?_⟩
      change healthy env (chargeToken env info (actual - amount) _) = _
      rw [usageTables_pay, sum]
      rfl
  refuses actual refused := by
    have exceeds : 0 < sub.amountTotal ∧ sub.amountTotal < sub.amountUsed + actual := by
      simpa [withinTotal] using refused
    have differs : actual ≠ amount := by omega
    obtain ⟨e, error⟩ := subscription_refuses env info db plan pos differs exceeds.1 exceeds.2
    rw [settle_refused (subscriptionSession info amount sub plan) info' rfl rfl
      (by change actual - amount ≠ 0; omega) error]
  refunds := by
    have due : needsRefund (subscriptionSession info amount sub plan) = true := by
      simp [needsRefund, subscriptionSession, BillingSession.new, charged]
    rw [refund_returns (subscriptionSession info amount sub plan) info' due rfl rfl (by change 0 ≤ amount; omega)
      (subscription_refunds env info db plan pos named charged nonneg room), same.chargeToken_eq]
    refine ⟨refund_closed (Or.inr rfl), ?_⟩
    change healthy env (chargeToken env info (-amount) _) = _
    rw [usageTables_pay, Int.add_right_neg]
    rfl

end Subscription

/-! Conservation. -/

/-- After the reset that was due, the subscription has been used `amount` more, and no less than 0. -/
def SubscriptionUsed (env : Env) (subscriptionId amount : Int) (before after : Db) : Prop :=
  SubscriptionChanged env subscriptionId (fun row =>
    { refresh env before row with amountUsed := max ((refresh env before row).amountUsed + amount) 0 }) before after

def FundingTaken (env : Env) (funding : FundingSource) (amount : Int) (before after : Db) : Prop :=
  match funding with
  | .wallet wallet => WalletTaken wallet.userId amount before after ∧ after.subs = before.subs
  | .subscription sub => WalletTaken sub.userId 0 before after ∧ SubscriptionUsed env sub.subscriptionId amount before after
  | .tokens _ => False

/-- Whether a settlement of an open session is accepted: a wallet accepts any, a subscription one that keeps the
usage within its total. -/
def accepts (o : Open) (actual : Int) : Bool :=
  match o.session.funding with
  | .wallet _ => true
  | .subscription sub =>
    match o.world.db.subs.lookup sub.subscriptionId with
    | some row => row.amountTotal ≤ 0 || row.amountUsed - sub.preConsumed + actual ≤ row.amountTotal
    | none => false
  | .tokens _ => false

structure WellFormed (db : Db) : Prop where
  ids : ∀ sub ∈ db.subs.rows, 0 < sub.id
  usage : ∀ sub ∈ db.subs.rows, 0 ≤ sub.amountUsed ∧ 0 ≤ sub.tokensUsed

variable {db : Db}

theorem WellFormed.resetOf (wellFormed : WellFormed db) {sub later : UserSubscription} (mem : sub ∈ db.subs.rows)
    (reset : ResetOf sub later) : 0 < later.id ∧ 0 ≤ later.amountUsed := by
  obtain ⟨used, last, next, rfl, kept⟩ := reset
  have := wellFormed.usage sub mem
  exact ⟨wellFormed.ids sub mem, by dsimp only; omega⟩

/-- What the theorem of this module says of a session that starts as `start`. -/
def Conserved (env : Env) (info : RelayInfo) (db : Db) (start : Open) (settles : List Int) (refunds : Nat) : Prop :=
  let final := afterRefunds refunds (afterSettles settles start)
  match settles.find? (accepts start) with
  | some actual => final = (settle actual start).2 ∧
      FundingTaken env start.session.funding actual db final.world.db ∧ TokenTaken info actual db final.world.db
  | none => 0 < refunds → final = (refund start).2 ∧
      FundingTaken env start.session.funding 0 db final.world.db ∧ TokenTaken info 0 db final.world.db

/-- A session whose ledger takes from its source and from the token what the phase says is conserved. -/
theorem Conducts.conserved {start : Open} {env : Env} {accepted : Int → Bool} {ledger : Phase → Db}
    (conducts : Conducts start env accepted ledger) (agree : accepts start = accepted) {info : RelayInfo}
    (settled : ∀ actual, FundingTaken env start.session.funding actual db (ledger (.settled actual)) ∧ TokenTaken info actual db (ledger (.settled actual)))
    (refunded : FundingTaken env start.session.funding 0 db (ledger .refunded) ∧ TokenTaken info 0 db (ledger .refunded))
    (settles : List Int) (refunds : Nat) : Conserved env info db start settles refunds := by
  have run := conducts.run settles refunds
  rw [Conserved, agree]
  cases found : settles.find? accepted with
  | some actual =>
    rw [found] at run
    obtain ⟨state, world⟩ := run
    rw [state, world]
    exact ⟨rfl, settled actual⟩
  | none =>
    rw [found] at run
    intro some
    obtain ⟨state, world⟩ := run some
    rw [state, world]
    exact ⟨rfl, refunded⟩

theorem wallet_conserved (info : RelayInfo) (same : SameToken info info') (user : (db.users.lookup info.userId).isSome)
    (token : info.isPlayground = false → (db.tokens.lookup info.tokenId).isSome) {effective : Int}
    (nonneg : 0 ≤ effective) (settles : List Int) (refunds : Nat) :
    Conserved env info db ⟨walletSession info.userId effective, info',
      healthy env (walletTables env info db effective)⟩ settles refunds := by
  have taken : ∀ phase : Phase, FundingTaken env (walletSession info.userId effective).funding (phase.taken effective) db
      (walletTables env info db (phase.taken effective)) ∧
      TokenTaken info (phase.taken effective) db (walletTables env info db (phase.taken effective)) := by
    intro phase
    obtain ⟨wallet, subs, _, paid⟩ := walletTables_taken env info user token (phase.taken effective)
    exact ⟨⟨wallet, subs⟩, paid⟩
  exact (wallet_conducts env same db nonneg).conserved rfl (fun actual => taken (.settled actual))
    (taken .refunded) settles refunds

theorem subscription_conserved (info : RelayInfo) (same : SameToken info info') {before : Db}
    (refreshed : Refreshed env before db)
    (token : info.isPlayground = false → (before.tokens.lookup info.tokenId).isSome) {amount : Int}
    {sub cand : UserSubscription} (plan : SubscriptionPlanInfo) (owner : before.subs.lookup sub.id = some cand)
    (renewed : sub = refresh env before cand) (pos : 0 < sub.id) (named : trimSpace info.requestId ≠ "") (charged : 0 < amount)
    (nonneg : 0 ≤ sub.amountUsed) (room : sub.amountTotal ≤ 0 ∨ sub.amountUsed + amount ≤ sub.amountTotal)
    (settles : List Int) (refunds : Nat) : Conserved env info before ⟨subscriptionSession info amount sub plan, info',
      healthy env (subscriptionLedger env info amount sub db .unsettled)⟩ settles refunds := by
  have agree : accepts ⟨subscriptionSession info amount sub plan, info',
      healthy env (subscriptionLedger env info amount sub db .unsettled)⟩ = withinTotal sub := by
    funext actual
    have row := subscriptionLedger_sub env info amount sub db .unsettled
    have back : sub.amountUsed + amount - amount + actual = sub.amountUsed + actual := by omega
    simp only [accepts, subscriptionSession, BillingSession.new, paidFrom, newSubscriptionFunding, healthy, row,
      Phase.used, withinTotal, back]
  have taken : ∀ phase : Phase, ∀ amountTaken, phase.used sub.amountUsed amount = max (sub.amountUsed + amountTaken) 0 →
      FundingTaken env (subscriptionSession info amount sub plan).funding amountTaken before
        (subscriptionLedger env info amount sub db phase) ∧
      TokenTaken info (phase.taken amount) before (subscriptionLedger env info amount sub db phase) := by
    intro phase amountTaken used
    obtain ⟨wallet, subs, _, paid⟩ := subscriptionTables_taken env info refreshed token
      { sub with amountUsed := phase.used sub.amountUsed amount }
      ⟨info.requestId, info.userId, sub.id, amount, phase.status⟩ (phase.taken amount)
    refine ⟨⟨wallet, subscriptionChanged_save refreshed owner ?_ (subs.trans ?_)⟩, paid⟩
    · rw [← renewed]
    · rw [used, ← renewed]
  exact (subscription_conducts env info db plan pos named charged nonneg room same).conserved agree
    (fun actual => taken (.settled actual) actual rfl)
    (taken .refunded 0 (by simp only [Phase.used]; omega)) settles refunds

/-- Any settlements followed by any refunds take what the first accepted settlement says from the source and from
the token, or nothing if none was accepted and the session was refunded; nothing changes after that. -/
theorem session_conserves (relay relay' : Relay) (quota : Int) (session : BillingSession) (env : Env) (db : Db)
    (succeeds : relay.world = healthy env db) (admitted : Admitted relay) (wellFormed : WellFormed db)
    (run : newBillingSession quota relay = (.ok session, relay')) (inQuota : session.billingMode ≠ some .tokens)
    (requested : session.funding.source = .wallet → 0 ≤ quota ∨ shouldTrust env.trustQuota session relay'.info = true)
    (settles : List Int) (refunds : Nat) :
    Conserved env relay.info db ⟨session, relay'.info, relay'.world⟩ settles refunds := by
  obtain ⟨userQuota, opened, info⟩ := newBillingSession_opened admitted.fresh (by rw [succeeds]; rfl) run
  have user := admitted.user
  have token := admitted.token
  rw [succeeds] at opened user token
  have same : SameToken { relay.info with userQuota } relay'.info := info ▸ syncRelayInfo_sameToken _ _
  cases opened with
  | wallet effective is _ led =>
    have nonneg : 0 ≤ effective := by
      have asked := requested rfl
      rw [info, shouldTrust_synced] at asked
      rw [is, walletQuota, effectiveQuota]
      split
      · exact Int.le_refl 0
      next untrusted =>
        rcases asked with asked | trusted
        · exact asked
        · exact absurd trusted untrusted
    have whole : max effective 0 = effective := by omega
    rw [whole] at led
    rw [led.healthy_eq]
    exact wallet_conserved env { relay.info with userQuota } same user token nonneg settles refunds
  | subscription rows sub plan named refreshed _ chosen led =>
    have room := eligible_room amountMeter (firstEligible_some amountMeter chosen).1
    obtain ⟨cand, owner, renewed⟩ := quota_owner chosen
    change sub = refresh env db cand at renewed
    obtain ⟨pos, nonneg⟩ := wellFormed.resetOf (lookup_some owner).1 (refresh_resetOf env db cand)
    rw [← renewed] at pos nonneg
    rw [led.healthy_eq]
    exact subscription_conserved env { relay.info with userQuota } same refreshed token plan owner renewed
      pos named (subConsume_pos quota) nonneg room settles refunds
  | tokens rows sub plan _ _ _ _ _ => exact absurd rfl inQuota

theorem walletRelay_conserves : ∃ session relay', newBillingSession 100 walletRelay = (.ok session, relay') ∧
      Conserved plainEnv walletRelay.info walletRelay.world.db ⟨session, relay'.info, relay'.world⟩ [150, 30] 1 :=
  ⟨_, _, rfl, session_conserves walletRelay _ 100 _ plainEnv walletRelay.world.db rfl walletRelay_admitted
    ⟨by decide, by decide⟩ rfl (by decide) (fun _ => Or.inl (by decide)) [150, 30] 1⟩

def subscriptionRelay : Relay where
  info := { walletRelay.info with billingPreference := "subscription_only" }
  world := healthy plainEnv { walletRelay.world.db with
    plans := Table.empty.save ⟨5, "plan", "never", 0, .quota⟩
    subs := Table.empty.save ⟨3, 1, 5, 100, 0, 0, 2000, .active, 0, 0, 0, 0, ""⟩ }

theorem subscriptionRelay_admitted : Admitted subscriptionRelay := ⟨by decide, by decide, by decide⟩

/-- A settlement beyond the total is refused, and the subscription has paid the pre-consumption instead of it. -/
theorem subscriptionRelay_refuses_settlement :
    ∃ session relay', newBillingSession 10 subscriptionRelay = (.ok session, relay') ∧ session.billingMode = some .quota ∧
      (afterSettles [200] ⟨session, relay'.info, relay'.world⟩).world.db.subs.column UserSubscription.amountUsed 3 =
        subscriptionRelay.world.db.subs.column UserSubscription.amountUsed 3 + 10 ∧
      tokenRemain (afterSettles [200] ⟨session, relay'.info, relay'.world⟩).world.db 7 =
        tokenRemain subscriptionRelay.world.db 7 - 10 ∧
      Admitted subscriptionRelay ∧ WellFormed subscriptionRelay.world.db :=
  ⟨_, _, rfl, by decide, by decide, by decide, subscriptionRelay_admitted, ⟨by decide, by decide⟩⟩

end Tokengine.Billing.Conservation

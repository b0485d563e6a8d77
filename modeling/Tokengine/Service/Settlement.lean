import Tokengine.Service.Opening

/-! What settlement and refund of an open session do when every statement succeeds. -/

namespace Tokengine.Service.Session
open Program Model Database Quota Funding

variable {delta : Int} {world : World} {e : String}

section Balances

variable (env : Env) (db : Db)

theorem wallet_settle_healthy (funding : WalletFunding) (delta : Int) : funding.settle delta (healthy env db) =
      (.ok (), healthy env (chargeUser env funding.userId delta db)) := by
  unfold WalletFunding.settle
  split
  next nothing => rw [nothing, chargeUser_zero]; rfl
  next nonzero =>
    split
    next pos => exact decreaseUserQuota_healthy env db (by omega)
    next notPositive => exact increaseUserQuota_healthy env db (by omega)

theorem adjustTokenQuota_healthy (tokenId delta : Int) : adjustTokenQuota tokenId delta (healthy env db) =
      (.ok (), healthy env (changeTokenQuota env.batchUpdateEnabled tokenId (-delta) db)) := by
  unfold adjustTokenQuota
  split
  next pos => exact decreaseTokenQuota_healthy env db (by omega)
  next notPositive => exact increaseTokenQuota_healthy env db (by omega)

omit db env in
theorem wallet_settle_changes (funding : WalletFunding) (delta : Int) :
    Changes (fun env => chargeUser env funding.userId delta) (funding.settle delta) := by
  unfold WalletFunding.settle
  split
  next nothing =>
    refine ⟨fun run => ?_, fun run => by cases run⟩
    cases run
    rw [nothing, chargeUser_zero]
    exact Leads.refl _
  · split
    · exact decreaseUserQuota_changes
    · exact increaseUserQuota_changes

omit db env in
theorem adjustTokenQuota_changes (tokenId delta : Int) :
    Changes (fun env => changeTokenQuota env.batchUpdateEnabled tokenId (-delta)) (adjustTokenQuota tokenId delta) := by
  unfold adjustTokenQuota
  split
  · exact decreaseTokenQuota_changes
  · exact increaseTokenQuota_changes

end Balances

section Settle

variable {o : Open} {actual : Int} {env : Env} {db db' : Db}

theorem settle_settled (closed : o.session.settled = true) : settle actual o = (.ok (), o) := by
  rw [settle, get_bind, if_pos closed]
  rfl

theorem settle_exact (unsettled : o.session.settled = false) (exactly : actual = o.session.preConsumedQuota) :
    settle actual o = (.ok (), { o with session := { o.session with settled := true } }) := by
  rw [settle, get_bind]
  dsimp only
  rw [if_neg (by simp [unsettled]), if_pos (by omega)]
  rfl

def notePostDelta (session : BillingSession) (delta : Int) (info : RelayInfo) : RelayInfo :=
  if session.funding.source = .subscription then
    { info with subscriptionPostDelta := info.subscriptionPostDelta + delta }
  else info

variable (session : BillingSession) (info : RelayInfo) {after : World}

theorem settleFunding_ok (uncommitted : session.fundingSettled = false)
    (paid : session.funding.settle delta world = (.ok (), after)) :
    settleFunding delta ⟨session, info, world⟩ = (.ok (), ⟨{ session with fundingSettled := true }, info, after⟩) := by
  rw [settleFunding, get_bind, if_neg (by simp [uncommitted]), bind_at, onWorld_at]
  dsimp only
  rw [paid]
  rfl

theorem settleFunding_error
    (uncommitted : session.fundingSettled = false) (refused : session.funding.settle delta world = (.error e, after)) :
    settleFunding delta ⟨session, info, world⟩ = (.error e, ⟨session, info, after⟩) := by
  rw [settleFunding, get_bind, if_neg (by simp [uncommitted]), bind_at, onWorld_at]
  dsimp only
  rw [refused]

variable (unsettled : session.settled = false) (uncommitted : session.fundingSettled = false)

include unsettled uncommitted

theorem settle_adjusts (differs : actual - session.preConsumedQuota ≠ 0)
    (paid : session.funding.settle (actual - session.preConsumedQuota) (healthy env db) = (.ok (), healthy env db')) :
    settle actual ⟨session, info, healthy env db⟩ = (.ok (), ⟨{ session with fundingSettled := true, settled := true },
        notePostDelta session (actual - session.preConsumedQuota) info,
        healthy env (chargeToken env info (actual - session.preConsumedQuota) db')⟩) := by
  rw [settle, get_bind]
  dsimp only
  rw [if_neg (by simp [unsettled]), if_neg differs, bind_ok (settleFunding_ok session info uncommitted paid), attempt_bind]
  have adjusted : (if info.isPlayground then pure () else onWorld (adjustTokenQuota info.tokenId
      (actual - session.preConsumedQuota)) : Program Open String Unit)
      ⟨{ session with fundingSettled := true }, info, healthy env db'⟩ =
      (.ok (), ⟨{ session with fundingSettled := true }, info,
        healthy env (chargeToken env info (actual - session.preConsumedQuota) db')⟩) := by
    unfold chargeToken
    split
    · rfl
    · rw [onWorld_at, adjustTokenQuota_healthy]
  rw [adjusted]
  unfold notePostDelta
  split <;> rfl

theorem settle_refused (differs : actual - session.preConsumedQuota ≠ 0)
    (refused : session.funding.settle (actual - session.preConsumedQuota) (healthy env db) = (.error e, healthy env db)) :
    settle actual ⟨session, info, healthy env db⟩ = (.error e, ⟨session, info, healthy env db⟩) := by
  rw [settle, get_bind]
  dsimp only
  rw [if_neg (by simp [unsettled]), if_neg differs, bind_error (settleFunding_error session info uncommitted refused)]

omit unsettled uncommitted

/-- How a settlement can end, whatever the driver answers: the source pays before the token. -/
inductive Settled (session : BillingSession) (info : RelayInfo) (actual : Int) (world : World) :
    Except String Unit → World → Prop
  | exactly (same : actual = session.preConsumedQuota) : Settled session info actual world (.ok ()) world
  | refused {e : String} {after : World} (differs : actual ≠ session.preConsumedQuota)
      (unpaid : session.funding.settle (actual - session.preConsumedQuota) world = (.error e, after)) :
      Settled session info actual world (.error e) after
  | playground {after : World} (differs : actual ≠ session.preConsumedQuota) (free : info.isPlayground = true)
      (paid : session.funding.settle (actual - session.preConsumedQuota) world = (.ok (), after)) :
      Settled session info actual world (.ok ()) after
  | token {res : Except String Unit} {middle after : World} (differs : actual ≠ session.preConsumedQuota)
      (charged : info.isPlayground = false)
      (paid : session.funding.settle (actual - session.preConsumedQuota) world = (.ok (), middle))
      (adjusted : adjustTokenQuota info.tokenId (actual - session.preConsumedQuota) middle = (res, after)) :
      Settled session info actual world res after

theorem settle_settles (world : World) (unsettled : session.settled = false)
    (uncommitted : session.fundingSettled = false) :
    Settled session info actual world (settle actual ⟨session, info, world⟩).1 (settle actual ⟨session, info, world⟩).2.world ∧
      ∃ post, (settle actual ⟨session, info, world⟩).2.info = { info with subscriptionPostDelta := post } := by
  by_cases same : actual = session.preConsumedQuota
  · rw [settle_exact unsettled same]
    exact ⟨.exactly same, info.subscriptionPostDelta, rfl⟩
  rw [settle, get_bind]
  dsimp only
  rw [if_neg (by simp [unsettled]), if_neg (by omega)]
  rcases paid : session.funding.settle (actual - session.preConsumedQuota) world with ⟨e | _, middle⟩
  · rw [bind_error (settleFunding_error session info uncommitted paid)]
    exact ⟨.refused same paid, info.subscriptionPostDelta, rfl⟩
  rw [bind_ok (settleFunding_ok session info uncommitted paid), attempt_bind]
  by_cases free : info.isPlayground = true
  · rw [if_pos free]
    have ended := Settled.playground same free paid
    by_cases sub : session.funding.source = .subscription
    · rw [if_pos sub]
      exact ⟨ended, _, rfl⟩
    · rw [if_neg sub]
      exact ⟨ended, info.subscriptionPostDelta, rfl⟩
  · rw [if_neg free, onWorld_at]
    dsimp only
    rcases adjusted : adjustTokenQuota info.tokenId (actual - session.preConsumedQuota) middle with ⟨res, after⟩
    have ended := Settled.token same (Bool.not_eq_true _ ▸ free) paid adjusted
    by_cases sub : session.funding.source = .subscription
    · rw [if_pos sub]
      cases res <;> exact ⟨ended, _, rfl⟩
    · rw [if_neg sub]
      cases res <;> exact ⟨ended, info.subscriptionPostDelta, rfl⟩

theorem settleTokens_exact (unsettled : o.session.settled = false) (inTokens : o.session.billingMode = some .tokens)
    (exactly : actual = o.session.preConsumedTokens) :
    settleTokens actual o = (.ok (), { o with session := { o.session with settled := true } }) := by
  rw [settleTokens, get_bind]
  dsimp only
  rw [if_neg (by simp [unsettled]), if_neg (by simp [inTokens]), if_pos (by omega)]
  rfl

include unsettled uncommitted in
theorem settleTokens_adjusts (inTokens : session.billingMode = some .tokens)
    (differs : actual - session.preConsumedTokens ≠ 0)
    (paid : session.funding.settleTokens (actual - session.preConsumedTokens) (healthy env db) = (.ok (), healthy env db')) :
    settleTokens actual ⟨session, info, healthy env db⟩ =
      (.ok (), ⟨{ session with fundingSettled := true, tokensConsumed := actual, settled := true }, info,
        healthy env db'⟩) := by
  have funded : onWorld (session.funding.settleTokens (actual - session.preConsumedTokens))
      ⟨session, info, healthy env db⟩ = (.ok (), ⟨session, info, healthy env db'⟩) := by
    rw [onWorld_at, paid]
  rw [settleTokens, get_bind]
  dsimp only
  rw [if_neg (by simp [unsettled]), if_neg (by simp [inTokens]), if_neg differs, if_pos (by simp [uncommitted]),
    bind_ok funded]
  rfl

end Settle

section Refund

variable {o : Open} {env : Env} {db db' : Db}

theorem refund_closed (closed : o.session.settled = true ∨ o.session.refunded = true) : refund o = (.ok (), o) := by
  rw [refund, get_bind, if_pos (by rcases closed with closed | closed <;> simp [closed])]
  rfl

theorem refund_nothing (nothing : needsRefund o.session = false) : refund o = (.ok (), o) := by
  rw [refund, get_bind, if_pos (by simp [nothing])]
  rfl

theorem refund_returns (session : BillingSession) (info : RelayInfo) (due : needsRefund session = true)
    (unsettled : session.settled = false) (unrefunded : session.refunded = false) (nonneg : 0 ≤ session.tokenConsumed)
    (returned : session.funding.refund (healthy env db) = (.ok (), healthy env db')) :
    refund ⟨session, info, healthy env db⟩ = (.ok (), ⟨{ session with refunded := true }, info,
        healthy env (chargeToken env info (-session.tokenConsumed) db')⟩) := by
  have balances : refundBalances session info (healthy env db) =
      (.ok (), healthy env (chargeToken env info (-session.tokenConsumed) db')) := by
    rw [refundBalances, attempt_bind, returned]
    cases playground : info.isPlayground with
    | true =>
      rw [if_neg (by simp), chargeToken, if_pos playground]
      rfl
    | false =>
      have charged : chargeToken env info (-session.tokenConsumed) db' =
          changeTokenQuota env.batchUpdateEnabled info.tokenId session.tokenConsumed db' := by
        rw [chargeToken, if_neg (by simp [playground]), Int.neg_neg]
      rw [charged]
      by_cases pos : 0 < session.tokenConsumed
      · rw [if_pos ⟨pos, rfl⟩, attempt_bind, increaseTokenQuota_healthy env db' nonneg]
        rfl
      · have zero : session.tokenConsumed = 0 := by omega
        rw [if_neg (fun both => pos both.1), zero, changeTokenQuota_zero]
        rfl
  rw [refund, get_bind, if_neg (by simp [due, unsettled, unrefunded])]
  change onWorld (refundBalances session info) ⟨{ session with refunded := true }, info, healthy env db⟩ = _
  rw [onWorld_at, balances]

theorem wallet_refund_healthy (env : Env) (db : Db) (funding : WalletFunding) (nonneg : 0 ≤ funding.consumed) :
    funding.refund (healthy env db) = (.ok (), healthy env (chargeUser env funding.userId (-funding.consumed) db)) := by
  unfold WalletFunding.refund
  split
  next nothing =>
    have zero : funding.consumed = 0 := by omega
    rw [zero, Int.neg_zero, chargeUser_zero]
    rfl
  · rw [increaseUserQuota_healthy env db nonneg, chargeUser, Int.neg_neg]

theorem refundWithRetry_once {fn : Program World String Unit}
    (returned : fn world = (.ok (), after)) : refundWithRetry fn world = (.ok (), after) := by
  rw [refundWithRetry, retry, attempt_bind, returned]
  rfl

end Refund

end Tokengine.Service.Session

import Tokengine.Payments.Handling

/-! Who may make an order paid. Anybody can send a request to the notification endpoints; an order should become paid only
on a verified message of the gateway, on the bank's answer to a query, or by an administrator. Two handlers do not
look at the signature of the form, and Creem accepts any message in test mode without a secret. -/

namespace Tokengine.Payments.ProofOfPayment
open Transactions Interleaving Model.Database List Table Function Runs

structure Signatures where
  (zsPay helipay : Form → Bool)

section Requests

variable (gateways : Gateways) (signatures : Signatures)

def Confirms : Request → String → Prop
  | .epay (some params), tradeNo => ∃ verify, gateways.epayVerify = some verify ∧
      verify params = some ⟨true, "TRADE_SUCCESS", tradeNo⟩
  | .zsPay (some form), tradeNo =>
    signatures.zsPay form = true ∧ gateways.zsDecode (formValue form "biz_content") = some tradeNo
  | .helipay (some form), tradeNo =>
    signatures.helipay form = true ∧ formValue form "orderId" = tradeNo ∧ formValue form "tradeState" = "SUCCESS"
  | .stripe payload sig, tradeNo => ∃ event, gateways.stripeEvent payload sig = some event ∧
      event.type = .completed ∧ event.status = "complete" ∧ event.clientReferenceId = tradeNo
  | .creem payload sig, tradeNo => gateways.creemSecret ≠ "" ∧
      sig = gateways.generateCreemSignature payload gateways.creemSecret ∧
      ∃ event, gateways.creemDecode payload = some event ∧ event.orderStatus = "paid" ∧ event.requestId = tradeNo
  | .waffo payload sig, tradeNo => ∃ verify, gateways.waffoVerify = some verify ∧ verify payload sig = true ∧
      gateways.waffoDecode payload = .ok (some ⟨tradeNo, "PAY_SUCCESS"⟩)
  | .queryZS asked resp, tradeNo => asked = tradeNo ∧ resp = .ok "S"
  | .complete asked, tradeNo => asked = tradeNo
  | _, _ => False

def Authentic : Request → Prop
  | .zsPay (some form) => signatures.zsPay form = true
  | .helipay (some form) => formValue form "tradeState" = "SUCCESS" → signatures.helipay form = true
  | .creem _ _ => gateways.creemSecret = "" → gateways.creemTestMode = false
  | _ => True

end Requests

/-! A row is saved as paid only if that is allowed for its order. -/

section Discipline

variable (paid : String → Prop)

def Proves : Write → Prop
  | .saveTopUp row => row.status = .success → paid row.tradeNo
  | _ => True

def allowed : Statement schema → Prop
  | .write _ write => Proves paid write
  | _ => True

def answered : (stmt : Statement schema) → Answer stmt → Prop
  | .read _ (.topUp tradeNo), answer => ∀ row, answer = .ok (some row) → row.tradeNo = tradeNo
  | _, _ => True

def discipline : Discipline (@Answer schema) Unit := ⟨fun _ => allowed paid, fun _ => answered, fun _ _ _ => ()⟩

structure Proven (shared : Shared schema) : Prop where
  tables : ∀ tradeNo, Paid tradeNo shared.db → paid tradeNo
  pending : ∀ pid, ∀ write ∈ shared.pending pid, Proves paid write

end Discipline

variable {paid : String → Prop} {shared : Shared schema} {writes : List Write}

theorem paid_apply {write : Write} (proves : Proves paid write) {db : Store} (tables : ∀ tradeNo, Paid tradeNo db → paid tradeNo)
    (tradeNo : String) (marked : Paid tradeNo (apply write db)) : paid tradeNo := by
  cases write with
  | saveTopUp row =>
    by_cases mine : row.tradeNo = tradeNo
    · rw [← mine]
      exact proves ((paid_saveTopUp mine db).mp marked)
    refine tables tradeNo ?_
    have same : (db.topUps.save row).lookup tradeNo = db.topUps.lookup tradeNo :=
      lookup_save_of_ne (Ne.symm mine) db.topUps
    rw [Paid, ← same]
    exact marked
  | credit credit => exact tables tradeNo marked
  | expirePending cutoff => exact tables tradeNo ((paid_expirePending tradeNo cutoff db).mp marked)
  | saveSubscriptionOrder row => exact tables tradeNo marked

theorem paid_applyAll (proves : ∀ write ∈ writes, Proves paid write) {db : Store}
    (tables : ∀ tradeNo, Paid tradeNo db → paid tradeNo) :
    ∀ tradeNo, Paid tradeNo (@applyAll schema writes db) → paid tradeNo := by
  induction writes generalizing db with
  | nil => exact tables
  | cons write rest tail =>
    exact tail (fun other mem => proves other (mem_cons_of_mem _ mem))
      (paid_apply (proves write mem_cons_self) tables)

theorem Proven.replace (proven : Proven paid shared) {pid : Nat} (proves : ∀ write ∈ writes, Proves paid write) :
    ∀ other, ∀ write ∈ update shared.pending pid writes other, Proves paid write :=
  (forall_update_iff shared.pending fun _ writes => ∀ write ∈ writes, Proves paid write).mpr
    ⟨proves, fun other _ => proven.pending other⟩

theorem proven_preserved (paid : String → Prop) (count : Nat) : Preserved exec (fun _ => discipline paid)
    (fun shared _ => Proven paid shared) (fun _ _ _ => True) count := by
  intro pid shared accts stmt answer after _ proven kept _ performed
  have nothing : ∀ write ∈ ([] : List Write), Proves paid write := fun _ mem => by cases mem
  cases exec_effect performed with
  | unread handle query e =>
    refine ⟨?_, proven.tables, proven.pending⟩
    cases query with
    | topUp => exact nofun
    | _ => trivial
  | read handle query =>
    refine ⟨?_, proven.tables, proven.pending⟩
    cases query with
    | topUp tradeNo => exact fun row same => (lookup_some (Except.ok.inj same)).2
    | _ => trivial
  | unwritten handle write e => exact ⟨trivial, proven.tables, proven.pending⟩
  | staged write =>
    refine ⟨trivial, proven.tables, proven.replace fun other mem => ?_⟩
    rcases mem_append.mp mem with before | last
    · exact proven.pending pid other before
    · rw [mem_singleton.mp last]
      exact kept
  | taken write => exact ⟨trivial, paid_apply kept proven.tables, proven.pending⟩
  | refused e => exact ⟨trivial, proven.tables, proven.replace nothing⟩
  | committed => exact ⟨trivial, paid_applyAll (proven.pending pid) proven.tables, proven.replace nothing⟩
  | rolledBack => exact ⟨trivial, proven.tables, proven.replace nothing⟩
  | locked | unlocked => exact ⟨trivial, proven.tables, proven.pending⟩

/-! The functions on orders. -/

variable {now userId : Int}

variable {α β : Type} {body : Action schema β}

abbrev Keeps (paid : String → Prop) (body : Action schema α) : Prop := Obeys (discipline paid) () body fun _ _ => True

theorem keeps_pure {val : α} : Keeps paid (pure val) := obeys_pure trivial

theorem keeps_throw {e : String} : Keeps paid (throw e : Action schema α) := obeys_throw trivial

theorem keeps_bind {rest : β → Action schema α} (first : Keeps paid body)
    (continues : ∀ val, Keeps paid (rest val)) : Keeps paid (body >>= rest) :=
  obeys_bind first (fun _ val _ => continues val) fun _ _ _ => trivial

theorem keeps_attempt {rest : Except String β → Action schema α} (first : Keeps paid body)
    (continues : ∀ res, Keeps paid (rest res)) : Keeps paid (attempt body >>= rest) :=
  obeys_attempt first fun _ res _ => continues res

variable {handle : Handle} {body : Action schema α}

theorem keeps_query {query : Query} : Keeps paid (find handle query) :=
  obeys_query trivial fun _ _ => trivial

theorem keeps_run {write : Write} (proves : Proves paid write) : Keeps paid (run handle write) :=
  obeys_execute proves fun _ _ => trivial

theorem keeps_withLock {name : String} (inside : Keeps paid body) : Keeps paid (withLock name body) :=
  obeys_withLock trivial (obeys_mono inside fun _ _ _ => ⟨trivial, trivial⟩)

theorem keeps_transaction (inside : Keeps paid body) : Keeps paid (transaction body) := by
  refine obeys_transaction (obeys_mono inside fun _ res _ => ?_)
  cases res with
  | error e => exact ⟨trivial, fun _ => trivial⟩
  | ok val => exact ⟨trivial, fun _ _ => trivial⟩

variable {tradeNo customerEmail : String}

theorem obeys_topUp : Obeys (discipline paid) () (find handle (.topUp tradeNo))
    fun _ res => ∀ row, res = .ok (some row) → row.tradeNo = tradeNo :=
  obeys_query trivial fun _ keyed => keyed

theorem keeps_getTopUp {rest : Option TopUp → Action schema α} (missing : Keeps paid (rest none))
    (present : ∀ row, row.tradeNo = tradeNo → Keeps paid (rest (some row))) :
    Keeps paid (getTopUpByTradeNo tradeNo >>= rest) := by
  have reads : Obeys (discipline paid) () (getTopUpByTradeNo tradeNo) fun _ res =>
      ∀ row, res = .ok (some row) → row.tradeNo = tradeNo := by
    refine obeys_attempt obeys_topUp fun _ res keyed => ?_
    cases res with
    | ok found => exact obeys_pure keyed
    | error e => exact obeys_pure nofun
  refine obeys_bind reads (fun _ found keyed => ?_) fun _ _ _ => trivial
  cases found with
  | none => exact missing
  | some row => exact present row (keyed row rfl)

theorem keeps_lockedTopUp {rest : TopUp → Action schema α}
    (present : ∀ row, row.tradeNo = tradeNo → Keeps paid (rest row)) : Keeps paid (lockedTopUp tradeNo >>= rest) := by
  have reads : Obeys (discipline paid) () (lockedTopUp tradeNo) fun _ res =>
      ∀ row, res = .ok row → row.tradeNo = tradeNo := by
    refine obeys_attempt_option obeys_topUp (fun _ row keyed => obeys_pure fun found same => ?_)
      (fun _ _ => obeys_throw nofun) fun _ _ _ => obeys_throw nofun
    cases same
    exact keyed row rfl
  exact obeys_bind reads (fun _ row keyed => present row (keyed row rfl)) fun _ _ _ => trivial

theorem keeps_settle {topUp : TopUp} {quotaToAdd : Int} (may : paid topUp.tradeNo) : Keeps paid (settle topUp quotaToAdd) :=
  keeps_bind (keeps_run fun _ => may) fun _ => obeys_ite (fun _ => keeps_throw) fun _ => keeps_run trivial

theorem keeps_completeTx {topUp : TopUp} {amount : Int} {stripeCustomer email : Option String}
    (may : paid topUp.tradeNo) : Keeps paid (completeTx now topUp amount stripeCustomer email) :=
  keeps_bind (keeps_run fun _ => may) fun _ => keeps_run trivial

theorem keeps_emailToSet : Keeps paid (emailToSet userId customerEmail) := by
  refine obeys_ite (fun _ => keeps_pure) fun _ => keeps_bind keeps_query fun found => ?_
  cases found with
  | none => exact keeps_throw
  | some user => exact keeps_pure

theorem keeps_rechargeCreemTx (may : paid tradeNo) : Keeps paid (rechargeCreemTx now tradeNo customerEmail) := by
  refine keeps_lockedTopUp fun row keyed => obeys_ite (fun _ => keeps_throw) fun _ => keeps_bind (keeps_run fun _ => ?_) fun _ => ?_
  · exact keyed ▸ may
  · exact keeps_bind keeps_emailToSet fun _ => keeps_run trivial

theorem keeps_expireSubscriptionOrder : Keeps paid (expireSubscriptionOrder now tradeNo) := by
  have asked : Keeps paid (find .own (.subscriptionOrder tradeNo)) := keeps_query
  refine obeys_ite (fun _ => keeps_throw) fun _ => keeps_transaction (obeys_attempt_option asked (fun _ found _ => ?_)
    (fun _ _ => keeps_throw) fun _ _ _ => keeps_throw)
  exact obeys_ite (fun _ => keeps_pure) fun _ => keeps_run trivial

theorem keeping_rules (cfg : Settings) : Handling.Rules cfg paid (fun tradeNo row => row.tradeNo = tradeNo)
    (Keeps paid) (Keeps paid) where
  ends := keeps_pure
  fails := keeps_throw
  stops := keeps_pure
  aborts := keeps_throw
  follows := keeps_bind
  catches := keeps_attempt
  locks := keeps_withLock
  commits := keeps_transaction
  reads := keeps_getTopUp
  looks := keeps_lockedTopUp
  saves _ other := ⟨keeps_run fun same => absurd same other, keeps_run fun same => absurd same other⟩
  settles may keyed := ⟨keeps_settle (keyed ▸ may), keeps_settle (keyed ▸ may)⟩
  completes may keyed := keeps_completeTx (keyed ▸ may)
  creem := keeps_rechargeCreemTx
  expires := keeps_expireSubscriptionOrder
  sweeps := keeps_run trivial

/-! The handlers: what each has found out about its request allows what it marks. -/

section Handlers

variable {gateways : Gateways} {signatures : Signatures} {cfg : Settings}

theorem epayOrder_ok {params : Option Form} (found : epayOrder gateways params = .ok tradeNo) :
    Confirms gateways signatures (.epay params) tradeNo := by
  match params with
  | none => cases found
  | some [] => cases found
  | some (first :: rest) =>
    simp only [epayOrder] at found
    split at found
    next checked =>
      obtain ⟨verify, configured, verified⟩ := Option.map_eq_some_iff.mp checked
      obtain ⟨valid, found⟩ := passed found
      split at found
      next success =>
        cases found
        refine ⟨verify, configured, verified.trans ?_⟩
        rw [Bool.not_eq_false] at valid
        rw [← valid, ← success]
      · cases found
    · cases found

variable {form : Option Form}

theorem zsOrder_ok (found : zsOrder gateways form = .ok tradeNo) (authentic : Authentic gateways signatures (.zsPay form)) :
    Confirms gateways signatures (.zsPay form) tradeNo := by
  cases form with
  | none => cases found
  | some form =>
    obtain ⟨_, found⟩ := passed found
    split at found
    · cases found
    next decoded =>
    obtain ⟨_, found⟩ := passed found
    obtain ⟨_, found⟩ := passed found
    cases found
    exact ⟨authentic, decoded⟩

theorem helipayOrder_ok (found : helipayOrder form = .ok (tradeNo, "SUCCESS"))
    (authentic : Authentic gateways signatures (.helipay form)) : Confirms gateways signatures (.helipay form) tradeNo := by
  cases form with
  | none => cases found
  | some form =>
    obtain ⟨_, found⟩ := passed found
    obtain ⟨same, state⟩ := Prod.mk.inj (Except.ok.inj found)
    exact ⟨authentic state, same, state⟩

variable {payload sig : String}

theorem creemOrder_ok {email : String} (found : creemOrder gateways payload sig = .ok (tradeNo, email))
    (authentic : Authentic gateways signatures (.creem payload sig)) :
    Confirms gateways signatures (.creem payload sig) tradeNo := by
  obtain ⟨_, found⟩ := passed found
  obtain ⟨verified, found⟩ := passed found
  have secret : gateways.creemSecret ≠ "" := fun none => verified (by rw [verifyCreemSignature, if_pos none, authentic none])
  rw [verifyCreemSignature, if_neg secret, Bool.not_eq_false, beq_iff_eq] at verified
  split at found
  · cases found
  next event decoded =>
  obtain ⟨_, found⟩ := passed found
  obtain ⟨orderPaid, found⟩ := passed found
  obtain ⟨_, found⟩ := passed found
  obtain ⟨_, found⟩ := passed found
  obtain ⟨rfl, _⟩ := Prod.mk.inj (Except.ok.inj found)
  exact ⟨secret, verified, event, decoded, not_not.mp orderPaid, rfl⟩

theorem waffoPayment_ok {payment : WaffoPayment} (found : waffoPayment gateways payload sig = .ok payment)
    (success : payment.orderStatus = "PAY_SUCCESS") :
    Confirms gateways signatures (.waffo payload sig) payment.merchantOrderId := by
  simp only [waffoPayment] at found
  split at found
  · cases found
  next verify configured =>
  obtain ⟨verified, found⟩ := passed found
  split at found
  · cases found
  · cases found
  next decoded =>
    cases found
    refine ⟨verify, configured, Bool.not_eq_false _ ▸ verified, decoded.trans ?_⟩
    rw [← success]

theorem confirms_of_marks {req : Request} (authentic : Authentic gateways signatures req)
    (marks : Handling.Marks gateways req tradeNo) : Confirms gateways signatures req tradeNo := by
  cases req with
  | epay params => exact epayOrder_ok marks
  | zsPay form => exact zsOrder_ok marks authentic
  | helipay form => exact helipayOrder_ok marks authentic
  | stripe payload sig => exact marks
  | creem payload sig =>
    obtain ⟨_, found⟩ := marks
    exact creemOrder_ok found authentic
  | waffo payload sig =>
    obtain ⟨_, found, success, rfl⟩ := marks
    exact waffoPayment_ok found success
  | queryZS asked resp => exact marks
  | complete asked => exact marks
  | cancelZS => exact marks
  | cancelHelipay => exact marks
  | expire => exact marks

end Handlers

def Accounted (gateways : Gateways) (signatures : Signatures) (store : Store) (requests : List (Int × Request))
    (tradeNo : String) : Prop :=
  Paid tradeNo store ∨ ∃ req ∈ requests, Confirms gateways signatures req.2 tradeNo

theorem paid_orders_confirmed {gateways : Gateways} {signatures : Signatures} {cfg : Settings} {store : Store}
    {faults : List (Option String)} {requests : List (Int × Request)}
    (authentic : ∀ req ∈ requests, Authentic gateways signatures req.2) {schedule : List Nat} {server : Server}
    (run : Runs.exec (step exec) (serve gateways cfg store faults requests) schedule = some server)
    {tradeNo : String} (marked : Paid tradeNo server.shared.db) : Accounted gateways signatures store requests tradeNo := by
  have begins : Proven (Accounted gateways signatures store requests) { quiet store with faults := faults } :=
    ⟨fun _ => Or.inl, fun _ _ mem => by cases mem⟩
  have obeys : ∀ program ∈ requests.map fun req => req.2.script gateways cfg req.1,
      Keeps (Accounted gateways signatures store requests) program := by
    intro program mem
    obtain ⟨req, listed, rfl⟩ := mem_map.mp mem
    exact (keeping_rules cfg).script req.2 fun _ marks =>
      Or.inr ⟨req, listed, confirms_of_marks (authentic req listed) marks⟩
  have free : Runs.Guarded (step exec) (whenPerforming fun _ _ _ => True)
      (serve gateways cfg store faults requests) schedule :=
    guarded_always (fun _ _ => fun _ _ _ => trivial) schedule _
  have coherent : Coherent (fun _ => discipline (Accounted gateways signatures store requests)) (fun _ _ _ => True)
      (fun shared _ => Proven (Accounted gateways signatures store requests) shared) _
      (serve gateways cfg store faults requests) := launch_coherent begins obeys
  obtain ⟨_, _, proven, _⟩ := coherent_run (proven_preserved _ _) coherent free run
  exact proven.tables tradeNo marked

def forged : Signatures := ⟨fun _ => false, fun _ => false⟩

/-- The gateway's own notification. -/
theorem signed_notification_confirmed : ∃ server, Runs.exec (step exec) (serve openGateways usualSettings orderStore []
      [(1100, .zsPay (some [("biz_content", "order")]))]) [0, 0, 0, 0, 0] = some server ∧
    Paid "order" server.shared.db ∧ Accounted openGateways ⟨fun _ => true, fun _ => true⟩ orderStore
      [(1100, .zsPay (some [("biz_content", "order")]))] "order" := by
  have ran : (Runs.exec (step exec) (serve openGateways usualSettings orderStore []
      [(1100, .zsPay (some [("biz_content", "order")]))]) [0, 0, 0, 0, 0]).any (fun server =>
        decide (Paid "order" server.shared.db)) = true := by decide +kernel
  obtain ⟨server, run, marked⟩ := exists_end ran
  refine ⟨server, run, marked, paid_orders_confirmed (fun req mem => ?_) run marked⟩
  cases mem_singleton.mp mem
  rfl

/-- A stranger's form makes an order paid and credits the user, at either gateway. -/
theorem forged_notification_pays : (∃ server, Runs.exec (step exec) (serve openGateways usualSettings orderStore []
        [(1100, .zsPay (some [("biz_content", "order"), ("sign", "forged")]))]) [0, 0, 0, 0, 0] = some server ∧
      Paid "order" server.shared.db ∧ server.shared.db.users.column User.quota 7 = 684931 ∧
      ¬Accounted openGateways forged orderStore
        [(1100, .zsPay (some [("biz_content", "order"), ("sign", "forged")]))] "order") ∧
    ∃ server, Runs.exec (step exec) (serve openGateways usualSettings orderStore []
        [(1100, .helipay (some [("orderId", "order"), ("tradeState", "SUCCESS")]))]) [0, 0, 0, 0, 0] = some server ∧
      Paid "order" server.shared.db ∧ server.shared.db.users.column User.quota 7 = 684931 ∧
      ¬Accounted openGateways forged orderStore
        [(1100, .helipay (some [("orderId", "order"), ("tradeState", "SUCCESS")]))] "order" := by
  have unpaid : ¬Paid "order" orderStore := by decide +kernel
  have unaccounted : ∀ req : Int × Request, ¬Confirms openGateways forged req.2 "order" →
      ¬Accounted openGateways forged orderStore [req] "order" := by
    rintro req unconfirmed (paid | ⟨other, mem, confirms⟩)
    · exact unpaid paid
    · rw [mem_singleton.mp mem] at confirms
      exact unconfirmed confirms
  have pays : ∀ req : Int × Request, ¬Confirms openGateways forged req.2 "order" →
      ((Runs.exec (step exec) (serve openGateways usualSettings orderStore [] [req]) [0, 0, 0, 0, 0]).any fun server =>
        decide (Paid "order" server.shared.db ∧ server.shared.db.users.column User.quota 7 = 684931)) = true →
      ∃ server, Runs.exec (step exec) (serve openGateways usualSettings orderStore [] [req]) [0, 0, 0, 0, 0] = some server ∧
        Paid "order" server.shared.db ∧ server.shared.db.users.column User.quota 7 = 684931 ∧
        ¬Accounted openGateways forged orderStore [req] "order" := by
    intro req unconfirmed shown
    obtain ⟨server, run, paid, credited⟩ := exists_end shown
    exact ⟨server, run, paid, credited, unaccounted req unconfirmed⟩
  refine ⟨pays _ ?_ (by decide +kernel), pays _ ?_ (by decide +kernel)⟩
  all_goals
    rintro ⟨signed, _⟩
    cases signed

end Tokengine.Payments.ProofOfPayment

import Mathlib.Algebra.Ring.Int.Defs
import Tokengine.Model.Subscription

/-! The operations on a subscription with the arithmetic of `int64`, in which every sum and difference wraps
around. The other modules compute with unbounded integers: as long as the sums are in range, the operations
are the same. -/

namespace Tokengine.Model.Wrapping
open Program Database ResetTime Subscription

/-- The values of `int64`. -/
def InRange (val : Int) : Prop := -2 ^ 63 ≤ val ∧ val < 2 ^ 63

instance (val : Int) : Decidable (InRange val) := inferInstanceAs (Decidable (_ ∧ _))

theorem wrap64_of_inRange {val : Int} (inRange : InRange val) : wrap64 val = val := by
  rw [wrap64, BitVec.toInt_ofInt]
  exact Int.bmod_eq_of_le (by have := inRange.1; omega) (by have := inRange.2; omega)

theorem wrap64_inRange (val : Int) : InRange (wrap64 val) := ⟨BitVec.le_toInt _, BitVec.toInt_lt⟩

def preConsumeUserSubscription (requestId : String) (userId : Int) (modelName : String) (amount : Int) :
    Program World String PreConsumeResult :=
  amountMeter.int64.preConsume prepareQuota s!"subscription quota insufficient, need={amount}" "amount must be > 0"
    requestId userId modelName amount

def preConsumeUserSubscriptionTokens (requestId : String) (userId : Int) (modelName : String) (tokens : Int) :
    Program World String PreConsumeResult :=
  tokensMeter.int64.preConsume prepareTokens
    s!"tokens subscription quota insufficient or model not applicable, need={tokens} tokens"
    "tokensToConsume must be > 0" requestId userId modelName tokens

def postConsumeUserSubscriptionDelta : Int → Int → Program World String Unit := amountMeter.int64.postConsume

def postConsumeUserSubscriptionTokensDelta : Int → Int → Program World String Unit := tokensMeter.int64.postConsume

def refundSubscriptionPreConsume : String → Program World String Unit := amountMeter.int64.refund

def refundSubscriptionTokensPreConsume : String → Program World String Unit := tokensMeter.int64.refund

end Tokengine.Model.Wrapping

import Keypad.Currency.Rates

/-!
# Fixed rate lists

A fixed list of rates against one base currency, and the replies it gives to
requests for the rates against any currency it lists. The arithmetic is left
open, so that the replies can also be read in exact numbers.
-/

namespace Keypad

/-- A reply to a request for rates. A reply without success carries no rates. -/
structure RatesReply (α : Type) where
  success : Bool
  base : Text
  rates : Rates α

/-- The reply of a service that has no rates for a base currency. -/
def RatesReply.unavailable {α : Type} (base : Text) : RatesReply α :=
  ⟨false, base, Rates.empty⟩

/-- Rates against one base currency. -/
structure RateList (α : Type) where
  base : Text
  rates : Rates α

namespace RateList

variable {α : Type} [OfNat α 0] [OfNat α 1] [Div α] [BEq α]

/-- The rates of the list against the currency whose own rate is `pivot`. The
base of the list is quoted too, whether or not the list mentions it. -/
def requote (list : RateList α) (pivot : α) : Rates α :=
  (list.rates.map (· / pivot)).insert list.base (1 / pivot)

/-- The reply to a request for the rates against `base`: the list itself for its
own base, and otherwise the list requoted, unless it has no rate for `base` or a
rate of zero. -/
def reply (list : RateList α) (base : Text) : RatesReply α :=
  if list.base = base then ⟨true, base, list.rates⟩
  else match list.rates.get? base with
    | some pivot =>
        if pivot == 0 then .unavailable base else ⟨true, base, list.requote pivot⟩
    | none => .unavailable base

/-- The list answers a request for its own base with its own rates. -/
@[simp] theorem reply_base (list : RateList α) :
    list.reply list.base = ⟨true, list.base, list.rates⟩ := by
  simp [reply]

/-- A reply is for the base that was asked for. -/
@[simp] theorem base_reply (list : RateList α) (base : Text) :
    (list.reply base).base = base := by
  unfold reply
  split
  · rfl
  · split
    · split <;> rfl
    · rfl

end RateList

end Keypad

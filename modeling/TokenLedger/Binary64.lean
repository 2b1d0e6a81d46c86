/-!
# The range of binary64

A number with a fraction or an exponent is kept in 64 bits, and a text that spells a number beyond
their range is refused. Which texts those are depends on how the number is put together: one that is
rounded once leaves the range at `bound`, and one that is got by scaling a whole number with a power
of ten has both factors rounded before the product is.
-/

namespace TokenLedger.Binary64

/-- The numbers from here on round to infinity. -/
def bound : Nat := 1 <<< 1024 - 1 <<< 970

/-- The number of 53 significant bits nearest to a whole number, the even one of two. -/
def nearest (value : Nat) : Nat :=
  if value < 1 <<< 53 then value
  else
    let unit := 1 <<< (value.log2 - 52)
    let kept := value / unit
    let rest := value % unit
    if unit < 2 * rest || (unit = 2 * rest && kept % 2 = 1) then (kept + 1) * unit
    else kept * unit

/-- Whether `significand * 10 ^ exponent`, rounded once, is in range. The number of digits is looked
at first, so that no large power is taken. -/
def holds (significand : Nat) (exponent : Int) : Bool :=
  if significand = 0 then true
  else
    let scale : Int := (Nat.toDigits 10 significand).length + exponent
    if scale > 310 then false
    else if scale < 300 then true
    else match exponent with
      | .ofNat power => significand * Nat.pow 10 power < bound
      | .negSucc power => significand < bound * Nat.pow 10 (power + 1)

/-- Whether a whole number scaled by `10 ^ exponent` is in range, when both are rounded before they
are multiplied. No power of ten beyond `10 ^ 308` is in range itself. -/
def holdsScaled (significand : Nat) (exponent : Int) : Bool :=
  significand = 0 ||
    match exponent with
    | .negSucc _ => true
    | .ofNat power => power ≤ 308 && nearest significand * nearest (Nat.pow 10 power) < bound

end TokenLedger.Binary64

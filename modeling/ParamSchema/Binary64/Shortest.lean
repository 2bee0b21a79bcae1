import ParamSchema.Binary64.Basic

/-!
Contract: the shortest decimal that reads back as a given binary64 number.

Owns:
- the interval of reals that round to a number;
- the search for the coarsest decimal grid with a point in that interval, and the point chosen.

Does not own: where the decimal point or an exponent is written (`Binary64.Layout`).
-/

namespace ParamSchema.Binary64

/-- A decimal stands for `digits * 10 ^ exponent`. -/
structure Decimal where
  digits : Nat
  exponent : Int

/-- The number of decimal digits of a natural number. -/
def digitCount (value : Nat) : Nat :=
  (Nat.toDigits 10 value).length

/-- The exponent of the leading decimal digit of `magnitude / 2 ^ 1074`, a number above zero. -/
def leadingExponent (magnitude : Nat) : Int :=
  if one ≤ magnitude then (digitCount (magnitude / one) : Int) - 1
  else -(digitCount ((one - 1) / magnitude) : Int)

/-- The reals between `lower` and `upper`, in quarters of `2 ^ -1074`, round to one number; the
two ends belong to it when its significand is even. -/
structure Interval where
  lower : Nat
  upper : Nat
  closed : Bool

/-- The interval reaches half way to each neighbour; the one below a power of two is nearer. -/
def interval (number : Binary64) : Interval :=
  let unit := Nat.pow 2 number.scale
  let isPower := number.fraction = 0 ∧ 1 < number.biasedExponent
  { lower := 4 * number.magnitude - (if isPower then unit else 2 * unit)
    upper := 4 * number.magnitude + 2 * unit
    closed := number.significand % 2 == 0 }

/-- Whether `quarters / weight` lies in the interval. -/
def Interval.contains (interval : Interval) (quarters weight : Nat) : Bool :=
  if interval.closed then
    interval.lower * weight ≤ quarters && quarters ≤ interval.upper * weight
  else interval.lower * weight < quarters && quarters < interval.upper * weight

/-- Which of two decimals is chosen when a number lies half way between them. -/
inductive Tie where
  | even
  | above

/-- Whether the lower neighbour on a grid is preferred to the upper one, from the remainder above
the lower neighbour out of a whole step. -/
def Tie.prefersBelow (tie : Tie) (below remainder step : Nat) : Bool :=
  2 * remainder < step ||
    (2 * remainder == step &&
      match tie with
      | .even => below % 2 == 0
      | .above => false)

/-- The point of the grid of multiples of `10 ^ exponent` that reads back as the number: of its two
neighbours there the preferred one in the interval. -/
def nearestOnGrid? (tie : Tie) (number : Binary64) (exponent : Int) : Option Decimal :=
  let weight := Nat.pow 10 (-exponent).toNat
  let step := one * Nat.pow 10 exponent.toNat
  let numerator := number.magnitude * weight
  let below := numerator / step
  let reach := number.interval
  let belowFits := reach.contains (4 * below * step) weight
  let aboveFits := reach.contains (4 * (below + 1) * step) weight
  let preferred := tie.prefersBelow below (numerator % step) step
  if belowFits && (preferred || !aboveFits) then some ⟨below, exponent⟩
  else if aboveFits then some ⟨below + 1, exponent⟩
  else none

/-- The decimal of fewest digits that reads back as a finite number other than zero.

Seventeen digits always read back, so the last grid is never passed over. -/
def shortest (tie : Tie) (number : Binary64) : Decimal :=
  let leading := leadingExponent number.magnitude
  let grids := (List.range 17).map fun (count : Nat) => leading - count
  (grids.findSome? (nearestOnGrid? tie number)).getD ⟨0, 0⟩

end ParamSchema.Binary64

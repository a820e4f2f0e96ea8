import SeriesDecoding.Number
import SeriesDecoding.Sink.Ring

namespace SeriesDecoding

-- A bound on a count: at most `n`, or none at all. A setting bounds a count by the test whether the
-- count exceeds it, compared exactly, so positive infinity and a NaN bound nothing.
inductive Bound where
  | atMost (n : Nat)
  | unbounded
  deriving DecidableEq, Inhabited

namespace Bound

-- Whether the count `k` is within the bound.
def admits : Bound → Nat → Bool
  | .atMost n, k => k ≤ n
  | .unbounded, _ => true

-- The last items of a list, as many as the bound admits, in their order.
def keepLast {α : Type} : Bound → List α → List α
  | .atMost n, l => Ring.keepLast n l
  | .unbounded, l => l

@[simp] theorem admits_zero (b : Bound) : b.admits 0 = true := by
  cases b <;> simp only [admits, Nat.zero_le, decide_true]

theorem admits_length_keepLast {α : Type} (b : Bound) (l : List α) :
    b.admits (b.keepLast l).length = true := by
  cases b with
  | atMost n => exact decide_eq_true (Ring.length_keepLast_le n l)
  | unbounded => rfl

-- The integer part of the magnitude `m * 2 ^ q`.
def wholePart (m : Nat) (q : Int) : Nat :=
  if 0 ≤ q then m * Nat.pow 2 q.toNat else m / Nat.pow 2 (-q).toNat

-- The bound that a setting puts on a count, or `none` for a setting below one.
def ofNumber? : Number → Option Bound
  | .int n => if n < 1 then none else some (.atMost n.toNat)
  | .float x =>
    match Binary64.parts x with
    | .notANumber => some .unbounded
    | .infinite negative => if negative then none else some .unbounded
    | .finite negative m q =>
      if negative || wholePart m q = 0 then none else some (.atMost (wholePart m q))

-- A setting that is not refused admits a count of one.
theorem admits_one_of_ofNumber? {x : Number} {b : Bound} (h : ofNumber? x = some b) :
    b.admits 1 = true := by
  cases x with
  | int n =>
    simp only [ofNumber?] at h
    split at h
    · cases h
    · cases h
      simp only [admits, decide_eq_true_eq]
      omega
  | float x =>
    simp only [ofNumber?] at h
    split at h
    · cases h
      rfl
    · split at h
      · cases h
      · cases h
        rfl
    · split at h
      · cases h
      · rename_i hw
        cases h
        simp only [Bool.or_eq_true, decide_eq_true_eq, not_or] at hw
        simp only [admits, decide_eq_true_eq]
        omega

example : ofNumber? (.float 1.5) = some (.atMost 1) ∧ ofNumber? (.float 0.5) = none ∧
    ofNumber? (.int 3) = some (.atMost 3) := by
  decide +kernel

end Bound

end SeriesDecoding

import SeriesDecoding.Proofs.ExactFloat
import SeriesDecoding.Number

namespace SeriesDecoding

namespace Number

open Binary64

-- Whether a number is a NaN.
def isNaN : Number → Bool
  | .int _ => false
  | .float x => Binary64.isNaN x

-- Converting a number fails only on an integer beyond the finite range.
theorem toFloat_error {r : Number} {e : ArithFault} (h : r.toFloat = .error e) :
    e = .intTooLarge := by
  cases r with
  | int n =>
    cases hy : ofInt? n with
    | none =>
      simp only [toFloat, hy, Except.error.injEq] at h
      exact h.symm
    | some y => simp [toFloat, hy] at h
  | float x => simp [toFloat] at h

-- A resolution above zero that is no NaN converts to a float above zero, unless it is an
-- integer beyond the finite range.
theorem toFloat_resolution {r : Number} (hr : r.atMostZero = false) (hnan : r.isNaN = false) :
    r.toFloat = .error .intTooLarge ∨ ∃ y, r.toFloat = .ok y ∧ Positive y.toModel.unpack := by
  cases r with
  | int n =>
    have hn : 0 < n := by simpa [atMostZero] using hr
    cases hy : ofInt? n with
    | none => exact .inl (by simp [toFloat, hy])
    | some y => exact .inr ⟨y, by simp [toFloat, hy], positive_of_ofInt? hn hy⟩
  | float y => exact .inr ⟨y, rfl, positive_of_le_zero hr hnan⟩

-- A finite timestamp divided by such a resolution is no NaN: the test for a zero divisor never
-- fails, and the only failure is the conversion of the resolution.
theorem divide_resolution {r : Number} (hr : r.atMostZero = false) (hnan : r.isNaN = false)
    {x : Float} (hx : isFinite x = true) :
    (Number.float x).divide r = .error .intTooLarge ∨
      ∃ z, (Number.float x).divide r = .ok z ∧ Binary64.isNaN z = false := by
  have hdiv : (Number.float x).divide r = r.toFloat.bind fun y =>
      if y == 0 then .error .floatDivisionByZero else .ok (x / y) := by
    cases r <;> rfl
  rw [hdiv]
  rcases toFloat_resolution hr hnan with hfail | ⟨y, hy, hpos⟩
  · exact .inl (by rw [hfail]; rfl)
  · refine .inr ⟨x / y, ?_, isNaN_div hx hpos⟩
    rw [hy]
    simp [Except.bind, beq_zero_of_positive hpos]

-- Rounding to an integer fails only on an infinity or a NaN.
theorem roundEven_error {x : Float} {e : ArithFault} (hnan : Binary64.isNaN x = false)
    (h : roundEven x = .error e) : e = .infinityToInt := by
  unfold Binary64.isNaN at hnan
  unfold roundEven at h
  cases hp : parts x with
  | finite negative m q => simp [hp] at h
  | infinite negative =>
    simp only [hp, Except.error.injEq] at h
    exact h.symm
  | notANumber => simp [hp] at hnan

-- A multiple of the resolution fails only on a count beyond the finite range.
theorem times_error {n : Int} {r : Number} {e : ArithFault} (h : times n r = .error e) :
    e = .intTooLarge := by
  cases r with
  | int m => simp [times] at h
  | float y =>
    cases hx : (Number.int n).toFloat with
    | error e' =>
      simp only [times, hx, bind, Except.bind, Except.error.injEq] at h
      exact h ▸ toFloat_error hx
    | ok x => simp [times, hx, bind, Except.bind] at h

-- Snapping a finite timestamp to the grid of a resolution above zero that is no NaN fails only
-- with an overflow: a quotient that is infinite before it is rounded, or an integer, the
-- resolution or a multiple of it, beyond the finite range.
theorem snap_error {r : Number} (hr : r.atMostZero = false) (hnan : r.isNaN = false) {t : Float}
    (ht : isFinite t = true) {e : ArithFault} (h : snap r (.float t) = .error e) :
    e = .intTooLarge ∨ e = .infinityToInt := by
  unfold snap at h
  rcases divide_resolution hr hnan ht with hfail | ⟨z, hz, hzn⟩
  · simp only [hfail, bind, Except.bind, Except.error.injEq] at h
    exact .inl h.symm
  · simp only [hz, bind, Except.bind] at h
    cases hc : roundEven z with
    | error e' =>
      simp only [hc, Except.error.injEq] at h
      exact .inr (h ▸ roundEven_error hzn hc)
    | ok count =>
      cases hp : times count r with
      | error e' =>
        simp only [hc, hp, Except.error.injEq] at h
        exact .inl (h ▸ times_error hp)
      | ok product =>
        simp only [hc, hp] at h
        exact .inl (toFloat_error h)

-- On an integer grid the snapped timestamp is the float of a multiple of the grid.
theorem snap_int_eq {r : Int} {t : Number} {q : Float} (h : snap (.int r) t = .ok q) :
    ∃ c, ofInt? (c * r) = some q := by
  unfold snap at h
  cases hq : t.divide (.int r) with
  | error e => simp [hq, bind, Except.bind] at h
  | ok quotient =>
    cases hc : roundEven quotient with
    | error e => simp [hq, hc, bind, Except.bind] at h
    | ok c =>
      refine ⟨c, ?_⟩
      cases hy : ofInt? (c * r) with
      | none => simp [hq, hc, hy, bind, Except.bind, times, toFloat] at h
      | some y =>
        simp only [hq, hc, hy, bind, Except.bind, times, toFloat, Except.ok.injEq] at h
        rw [h]

-- On an integer grid the snapped timestamp is an exact integer product converted once, so it is
-- finite.
theorem isFinite_snap_int {n : Int} {t : Number} {stamp : Float} (h : snap (.int n) t = .ok stamp) :
    isFinite stamp = true := by
  obtain ⟨c, hc⟩ := snap_int_eq h
  exact isFinite_of_ofInt? hc

-- Rounding a float whose mantissa is a whole number padded with `k` zeros, at exponent `-k`, gives
-- that whole number with the float's sign.
theorem roundEven_of_parts {z : Float} {negative : Bool} {m a k : Nat} {e : Int}
    (h : parts z = .finite negative m e) (he : e = -(k : Int)) (hm : m = a * 2 ^ k) :
    roundEven z = .ok (if negative then -(a : Int) else a) := by
  have hmag : (if 0 ≤ e then m * Nat.pow 2 e.toNat else roundHalfEven m (Nat.pow 2 (-e).toNat)) =
      a := by
    subst hm he
    split_ifs with hk
    · have hk0 : k = 0 := by omega
      subst hk0
      simp
    · rw [neg_neg, Int.toNat_natCast, Nat.pow_eq, roundHalfEven_mul_self _ (by positivity)]
  unfold roundEven
  rw [h]
  simp only [hmag]

theorem roundEven_ofInt? {c : Int} {z : Float} (hlt : c.natAbs < 2 ^ 53) (h : ofInt? c = some z) :
    roundEven z = .ok c := by
  rcases eq_or_ne c 0 with rfl | hc
  · have hzero : roundRatio (Int.natAbs 0) 1 = some (0, -1074) := rfl
    simp only [ofInt?, hzero, Option.some.injEq] at h
    subst h
    have hparts := parts_ofBits_bitsOf (decide ((0 : Int) < 0)) (q := 0) (e := -1074)
      (by norm_num) le_rfl (by norm_num) (.inr rfl)
    rw [roundEven_of_parts hparts (k := 1074) (by norm_num) (Nat.zero_mul _).symm]
    rfl
  · have hlog : c.natAbs.log2 < 53 := (Nat.log2_lt (Int.natAbs_pos.2 hc).ne').2 hlt
    rw [roundEven_of_parts (parts_ofInt?_of_lt hc hlt h) (k := 52 - c.natAbs.log2) (by omega) rfl]
    split_ifs with hneg <;> simp at hneg <;> congr 1 <;> omega

-- Snapping to an integer grid that floats can hold fixes every snapped timestamp below `2 ^ 53` in
-- magnitude: such a timestamp is the float of a multiple `c * r` held exactly, the division by the
-- grid gives back `c` exactly, and `c * r` converts to the same float again.
theorem snap_fixes_snapped_below_two_pow_53 {r : Int} (hr : 0 < r) (hgrid : (ofInt? r).isSome)
    {t : Number} {q : Float} (hq : snap (.int r) t = .ok q) (hsmall : q.abs < 9007199254740992) :
    snap (.int r) (.float q) = .ok q := by
  obtain ⟨c, hc⟩ := snap_int_eq hq
  have hm := natAbs_lt_of_abs_lt hc hsmall
  obtain ⟨y, hy⟩ := Option.isSome_iff_exists.1 hgrid
  have hcount : c.natAbs < 2 ^ 53 := by
    have hle := Nat.le_mul_of_pos_right c.natAbs (Int.natAbs_pos.2 hr.ne')
    rw [Int.natAbs_mul] at hm
    omega
  obtain ⟨z, hz⟩ := exists_ofInt?_of_lt hcount
  -- dividing by the grid gives back the count exactly
  have hdivide : (Number.float q).divide (.int r) = .ok z := by
    rw [← div_ofInt? hr hm hc hy hz]
    simp [divide, toFloat, hy, beq_zero_of_positive (positive_of_ofInt? hr hy), bind,
      Except.bind]
  simp [snap, hdivide, roundEven_ofInt? hcount hz, times, toFloat, hc, bind, Except.bind]

theorem snap_fixes_snapped_below_two_pow_53_on_grid_of_ten :
    snap (.int 10) (.int 1700000004) = .ok 1700000000 ∧
      (1700000000 : Float).abs < 9007199254740992 ∧
      snap (.int 10) (.float 1700000000) = .ok 1700000000 := by
  have hq : snap (.int 10) (.int 1700000004) = .ok 1700000000 := rfl
  have hsmall : (1700000000 : Float).abs < 9007199254740992 := by decide
  exact ⟨hq, hsmall, snap_fixes_snapped_below_two_pow_53 (by decide) rfl hq hsmall⟩

-- Past the integers that floats hold exactly, snapping twice can move a snapped timestamp. On the
-- grid of 3, the multiple 2 ^ 53 + 1 becomes the float 2 ^ 53, which is no multiple of 3 and moves
-- to 2 ^ 53 - 2. On a grid of integers that floats cannot hold, the timestamp is divided by the
-- float nearest to the grid but multiplied by the grid itself, so 2.5959128362370002e39 moves
-- again.
theorem snap_twice_moves_past_exact_integers :
    (snap (.int 3) (.int 9007199254740993) = .ok 9007199254740992 ∧
      snap (.int 3) (.float 9007199254740992) = .ok 9007199254740990) ∧
    (snap (.int 9115909320841633) (.float (Float.ofBits 0x481E83CA817799D4)) =
        .ok (Float.ofBits 0x481E83CA817799D5) ∧
      snap (.int 9115909320841633) (.float (Float.ofBits 0x481E83CA817799D5)) =
        .ok (Float.ofBits 0x481E83CA817799D6)) :=
  ⟨⟨rfl, rfl⟩, rfl, rfl⟩

end Number

end SeriesDecoding

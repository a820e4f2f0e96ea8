import SeriesDecoding.Series.Basic

namespace SeriesDecoding

-- The last warnings received, at most `capacity` of them, oldest first.
structure Ring where
  capacity : Nat
  records : List Warning
  capacity_pos : 0 < capacity
  length_le : records.length ≤ capacity

namespace Ring

-- The last `n` items of a list, in their order.
def keepLast {α : Type} (n : Nat) (l : List α) : List α := l.drop (l.length - n)

theorem length_keepLast_le {α : Type} (n : Nat) (l : List α) : (keepLast n l).length ≤ n := by
  simp only [keepLast, List.length_drop]
  omega

-- A list that fits is kept whole.
theorem keepLast_of_length_le {α : Type} {n : Nat} {l : List α} (h : l.length ≤ n) :
    keepLast n l = l := by
  simp only [keepLast, Nat.sub_eq_zero_of_le h, List.drop_zero]

-- The largest capacity a ring may have: a capacity is a signed 64-bit count.
def capacityLimit : Nat := Nat.pow 2 63 - 1

def empty (capacity : Nat) (h : 0 < capacity) : Ring := ⟨capacity, [], h, Nat.zero_le _⟩

-- The ring after receiving `w`: the warnings and `w`, without the oldest beyond the capacity.
def push (r : Ring) (w : Warning) : Ring where
  capacity := r.capacity
  records := keepLast r.capacity (r.records ++ [w])
  capacity_pos := r.capacity_pos
  length_le := length_keepLast_le r.capacity _

@[simp] theorem records_empty (capacity : Nat) (h : 0 < capacity) :
    (empty capacity h).records = [] := rfl

@[simp] theorem records_push (r : Ring) (w : Warning) :
    (r.push w).records = keepLast r.capacity (r.records ++ [w]) := rfl

@[simp] theorem capacity_push (r : Ring) (w : Warning) : (r.push w).capacity = r.capacity := rfl

end Ring

end SeriesDecoding

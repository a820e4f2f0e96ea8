import Mathlib
import SeriesDecoding.Session

namespace SeriesDecoding

namespace Ring

variable {α : Type}

theorem length_keepLast (n : Nat) (l : List α) : (keepLast n l).length = min n l.length := by
  simp only [keepLast, List.length_drop]
  omega

theorem keepLast_map {β : Type} (f : α → β) (n : Nat) (l : List α) :
    keepLast n (l.map f) = (keepLast n l).map f := by
  simp only [keepLast, List.length_map, List.map_drop]

-- Whatever stands before the last `n` items is dropped.
theorem keepLast_append_of_le {n : Nat} (a : List α) {b : List α} (h : n ≤ b.length) :
    keepLast n (a ++ b) = keepLast n b := by
  simp only [keepLast, List.length_append, List.drop_append]
  rw [List.drop_eq_nil_of_le (by omega), List.nil_append]
  congr 1
  omega

-- In a list without repeats, `w` followed by `g` is among the last `n` items exactly when `g` has
-- fewer than `n` items.
theorem mem_keepLast_iff {p g : List α} {w : α} (hnd : (p ++ w :: g).Nodup) (n : Nat) :
    w ∈ keepLast n (p ++ w :: g) ↔ g.length < n := by
  have hw : w ∉ g := (List.nodup_cons.mp hnd.of_append_right).1
  simp only [keepLast, List.length_append, List.length_cons, List.drop_append]
  constructor
  · intro hmem
    by_contra hge
    obtain ⟨k, hk⟩ : ∃ k, p.length + (g.length + 1) - n - p.length = k + 1 :=
      ⟨p.length + (g.length + 1) - n - p.length - 1, by omega⟩
    rw [List.drop_eq_nil_of_le (by omega), List.nil_append, hk, List.drop_succ_cons] at hmem
    exact hw (List.mem_of_mem_drop hmem)
  · intro hlt
    rw [show p.length + (g.length + 1) - n - p.length = 0 by omega, List.drop_zero]
    exact List.mem_append_right _ List.mem_cons_self

end Ring

open SeriesDecoding.Ring (keepLast)

section History

variable {α : Type} [DecidableEq α]

-- Seeing `w` once more moves it to the end of the distinct items, in the order last seen.
theorem dedup_append_singleton (l : List α) (w : α) :
    (l ++ [w]).dedup = l.dedup.filter (· != w) ++ [w] := by
  induction l with
  | nil => simp
  | cons a l ih =>
    by_cases ha : a ∈ l
    · simp [List.dedup_cons_of_mem ha, ih, List.dedup_cons_of_mem (List.mem_append_left _ ha)]
    · by_cases haw : a = w
      · subst haw
        simp [List.dedup_cons_of_notMem ha, ih, List.dedup_cons_of_mem]
      · simp [List.dedup_cons_of_notMem ha, ih, List.dedup_cons_of_notMem, ha, haw]

-- An item of a list splits it at its last occurrence.
theorem exists_eq_append_cons_of_mem {w : α} {h : List α} (hw : w ∈ h) :
    ∃ a g, h = a ++ w :: g ∧ w ∉ g := by
  induction h with
  | nil => simp at hw
  | cons v h ih =>
    by_cases hin : w ∈ h
    · obtain ⟨a, g, rfl, hg⟩ := ih hin
      exact ⟨v :: a, g, rfl, hg⟩
    · have hv : v = w := by simpa [hin, eq_comm] using hw
      exact ⟨[], h, by simp [hv], hin⟩

-- The distinct items of a list end with its last item of `w` and the distinct items after it.
theorem exists_dedup_eq_append_cons {w : α} {g : List α} (a : List α) (hw : w ∉ g) :
    ∃ p, (a ++ w :: g).dedup = p ++ w :: g.dedup := by
  obtain ⟨p, hp⟩ := List.suffix_union_right a (w :: g).dedup
  rw [List.dedup_cons_of_notMem hw] at hp
  exact ⟨p, by rw [List.dedup_append, List.dedup_cons_of_notMem hw, hp]⟩

-- `w` is among the `n` items last seen exactly when fewer than `n` distinct items came after it.
theorem mem_keepLast_dedup_iff {w : α} {g : List α} (a : List α) (hw : w ∉ g) (n : Nat) :
    w ∈ keepLast n (a ++ w :: g).dedup ↔ g.dedup.length < n := by
  obtain ⟨p, hp⟩ := exists_dedup_eq_append_cons a hw
  rw [hp]
  exact Ring.mem_keepLast_iff (hp ▸ List.nodup_dedup _) n

-- The item just seen is among the last `n` seen, for `n` of one or more.
theorem mem_keepLast_dedup_append_singleton (l : List α) (w : α) {n : Nat} (hn : 1 ≤ n) :
    w ∈ keepLast n (l ++ [w]).dedup := by
  refine (mem_keepLast_dedup_iff l List.not_mem_nil n).mpr ?_
  simp only [List.dedup_nil, List.length_nil]
  omega

-- Leaving `w` out of a list without repeats takes at most one item out.
theorem length_le_length_filter_add_one {X : List α} (hX : X.Nodup) (w : α) :
    X.length ≤ (X.filter (· != w)).length + 1 := by
  rw [← hX.erase_eq_filter, List.length_erase]
  split <;> omega

-- Keeping the last `n` distinct items, then seeing `w`, keeps what seeing `w` first would keep:
-- the kept part loses at most `w`, so it still fills the `n` places with `w` after it.
theorem keepLast_filter_append {X : List α} (hX : X.Nodup) (n : Nat) (w : α) :
    keepLast n ((keepLast n X).filter (· != w) ++ [w]) =
      keepLast n (X.filter (· != w) ++ [w]) := by
  by_cases hlen : X.length ≤ n
  · rw [Ring.keepLast_of_length_le hlen]
  · have hsplit : X = X.take (X.length - n) ++ keepLast n X := (List.take_append_drop _ _).symm
    have hkept : (keepLast n X).length = n := by
      rw [Ring.length_keepLast]
      omega
    have hnd : (keepLast n X).Nodup := hX.sublist (List.drop_sublist _ _)
    have hfilter := length_le_length_filter_add_one hnd w
    have hfull : n ≤ ((keepLast n X).filter (· != w) ++ [w]).length := by
      rw [List.length_append, List.length_singleton]
      omega
    conv_rhs => rw [hsplit, List.filter_append, List.append_assoc]
    rw [Ring.keepLast_append_of_le _ hfull]

end History

namespace Throttle

-- The final run of `w` in a history read backwards, most recent first; `others` holds the warnings
-- met since the last `w` read so far.
def runBack (bound : Nat) (w : Warning) (others : List Warning) : List Warning → Nat
  | [] => 0
  | v :: older =>
    if v = w then (if bound ≤ others.dedup.length then 0 else runBack bound w [] older + 1)
    else runBack bound w (v :: others) older

-- The length of the final run of `w` in `history`, oldest first: reading back from the last `w`,
-- the run goes on while each gap between two `w` holds fewer than `bound` distinct other warnings.
-- It is zero when `w` never came, or when `bound` or more distinct others came after it last did.
def finalRun (bound : Nat) (w : Warning) (history : List Warning) : Nat :=
  runBack bound w [] history.reverse

-- With two distinct others between its first and second occurrence, the first `a` falls out of
-- the run on a bound of two.
example : finalRun 2 ⟨"a", "", ""⟩ [⟨"a", "", ""⟩, ⟨"b", "", ""⟩, ⟨"c", "", ""⟩, ⟨"a", "", ""⟩,
    ⟨"b", "", ""⟩, ⟨"a", "", ""⟩] = 2 := by
  decide

-- The counts a throttle holds after `history`: the `bound` distinct warnings last seen, in the
-- order they were last seen, each with its final run.
def counts (bound : Nat) (history : List Warning) : List (Warning × Nat) :=
  (keepLast bound history.dedup).map fun w => (w, finalRun bound w history)

variable {bound : Nat} {w v : Warning} {history : List Warning}

-- Reading back over warnings other than `w` only gathers them.
theorem runBack_append_of_not_mem {g : List Warning} (hw : w ∉ g) (others older : List Warning) :
    runBack bound w others (g ++ older) = runBack bound w (g.reverse ++ others) older := by
  induction g generalizing others with
  | nil => rfl
  | cons u g ih =>
    have hu : u ≠ w := fun h => hw (h ▸ List.mem_cons_self)
    simp only [List.cons_append, runBack, hu, if_false, List.reverse_cons, List.append_assoc]
    exact ih (fun h => hw (List.mem_cons_of_mem _ h)) _

theorem finalRun_of_not_mem (hw : w ∉ history) : finalRun bound w history = 0 := by
  have h : runBack bound w [] (history.reverse ++ []) =
      runBack bound w (history.reverse.reverse ++ []) [] :=
    runBack_append_of_not_mem (by simpa using hw) [] []
  simpa [finalRun, runBack] using h

-- The last `w` ends the run when `bound` or more distinct warnings came after it; otherwise it
-- adds one to the run before it.
theorem finalRun_append_cons {a g : List Warning} (hw : w ∉ g) :
    finalRun bound w (a ++ w :: g) =
      if bound ≤ g.dedup.length then 0 else finalRun bound w a + 1 := by
  have hg : w ∉ g.reverse := by simpa using hw
  simp only [finalRun, List.reverse_append, List.reverse_cons, List.append_assoc,
    List.singleton_append, runBack_append_of_not_mem hg, List.reverse_reverse, List.append_nil,
    runBack, if_true]

-- A warning that is not among the last `bound` distinct ones has a run of zero.
theorem finalRun_of_not_mem_keepLast (hw : w ∉ keepLast bound history.dedup) :
    finalRun bound w history = 0 := by
  by_cases hin : w ∈ history
  · obtain ⟨a, g, rfl, hg⟩ := exists_eq_append_cons_of_mem hin
    have hlong : bound ≤ g.dedup.length := by
      rw [mem_keepLast_dedup_iff a hg] at hw
      omega
    rw [finalRun_append_cons hg, if_pos hlong]
  · exact finalRun_of_not_mem hin

-- Seeing `w` adds one to its run.
theorem finalRun_append_self (hb : 1 ≤ bound) :
    finalRun bound w (history ++ [w]) = finalRun bound w history + 1 := by
  rw [finalRun_append_cons (g := []) List.not_mem_nil, if_neg (by simp; omega)]

-- Seeing `w` leaves the run of another warning that stays among the last `bound` as it was: the
-- gap after its last occurrence is still short.
theorem finalRun_append_of_mem (hne : v ≠ w) (hv : v ∈ keepLast bound (history ++ [w]).dedup) :
    finalRun bound v (history ++ [w]) = finalRun bound v history := by
  have hin : v ∈ history := by
    have := List.mem_append.mp (List.mem_dedup.mp (List.mem_of_mem_drop hv))
    simpa [hne] using this
  obtain ⟨a, g, rfl, hg⟩ := exists_eq_append_cons_of_mem hin
  have hgw : v ∉ g ++ [w] := by simp [hg, hne]
  have hshort : (g ++ [w]).dedup.length < bound := by
    rw [List.append_assoc, List.cons_append] at hv
    exact (mem_keepLast_dedup_iff a hgw bound).mp hv
  have hle : g.dedup.length ≤ (g ++ [w]).dedup.length := by
    rw [dedup_append_singleton, List.length_append, List.length_singleton]
    exact length_le_length_filter_add_one (List.nodup_dedup g) w
  rw [List.append_assoc, List.cons_append, finalRun_append_cons hgw, finalRun_append_cons hg,
    if_neg (by omega), if_neg (by omega)]

theorem find?_beq_of_mem {L : List Warning} (h : w ∈ L) : L.find? (· == w) = some w := by
  have hsome : (L.find? (· == w)).isSome := List.find?_isSome.mpr ⟨w, h, beq_self_eq_true w⟩
  obtain ⟨u, hu⟩ := Option.isSome_iff_exists.mp hsome
  have hu' : u = w := by simpa using List.find?_some hu
  exact hu' ▸ hu

theorem find?_beq_of_not_mem {L : List Warning} (h : w ∉ L) : L.find? (· == w) = none :=
  List.find?_eq_none.mpr fun u hu => by simpa using fun he : u = w => h (he ▸ hu)

-- A throttle that holds the counts of a history counts each warning by its final run.
theorem count_of_seen {t : Throttle} (hs : t.seen = counts bound history) (w : Warning) :
    t.count w = finalRun bound w history := by
  have hfind : t.seen.find? (·.1 == w) =
      ((keepLast bound history.dedup).find? (· == w)).map
        fun u => (u, finalRun bound u history) := by
    rw [hs, counts, List.find?_map]
    rfl
  by_cases hw : w ∈ keepLast bound history.dedup
  · simp [count, hfind, find?_beq_of_mem hw]
  · simp [count, hfind, find?_beq_of_not_mem hw, finalRun_of_not_mem_keepLast hw]

-- Receiving a warning takes the counts of a history to those of the history with it: the step
-- lemma of the throttle.
theorem seen_receive {t : Throttle} (hb : 1 ≤ bound) (ht : t.maxTracked = .atMost bound)
    (hs : t.seen = counts bound history) (w : Warning) :
    (t.receive w).1.seen = counts bound (history ++ [w]) := by
  -- the count of `w` on receipt, and of every other warning afterwards
  let c : Warning → Nat := fun u => if u = w then t.count w + 1 else finalRun bound u history
  have hpairs : t.seen.filter (·.1 != w) ++ [(w, t.count w + 1)] =
      ((keepLast bound history.dedup).filter (· != w) ++ [w]).map fun u => (u, c u) := by
    rw [hs, counts, List.filter_map, List.map_append]
    congr 1
    · refine List.map_congr_left fun u hu => ?_
      have hne : u ≠ w := by simpa using (List.mem_filter.mp hu).2
      simp [c, hne]
    · simp [c]
  have hkeep : keepLast bound ((keepLast bound history.dedup).filter (· != w) ++ [w]) =
      keepLast bound (history ++ [w]).dedup := by
    rw [keepLast_filter_append (List.nodup_dedup _), dedup_append_singleton]
  have hc : ∀ u ∈ keepLast bound (history ++ [w]).dedup,
      c u = finalRun bound u (history ++ [w]) := by
    intro u hu
    by_cases hne : u = w
    · subst hne
      simp [c, count_of_seen hs, finalRun_append_self hb]
    · simp [c, hne, finalRun_append_of_mem hne hu]
  simp only [receive, ht, Bound.keepLast]
  rw [hpairs, Ring.keepLast_map, hkeep, counts]
  exact List.map_congr_left fun u hu => by rw [hc u hu]

end Throttle

namespace Session

-- Whether a step is a call that a throttle answers.
def Step.callsThrottle : Step → Bool
  | .warn _ | .occurrences _ | .tracked | .reset => true
  | _ => false

-- The warnings received since the last reset, after one more step.
def Step.record (history : List Warning) : Step → List Warning
  | .warn w => history ++ [w]
  | .reset => []
  | _ => history

-- The warnings received since the last reset in a run of steps, oldest first.
def sinceReset (xs : List Step) : List Warning := xs.foldl Step.record []

-- The session after a run of steps.
def after (s : Session) (xs : List Step) : Session := xs.foldl (fun s x => (s.step x).1) s

-- The sink of the session is a throttle with the bounds `M` and `T` that holds the counts of
-- `history`.
def Throttles (M T : Nat) (history : List Warning) (s : Session) : Prop :=
  ∃ t, s.sink = .throttle t ∧ t.maxOccurrences = .atMost M ∧ t.maxTracked = .atMost T ∧
    t.seen = Throttle.counts T history

variable {M T : Nat} {history : List Warning} {s : Session}

-- A throttle call takes the counts of a history to those of the history it records.
theorem Throttles.call (hT : 1 ≤ T) (hs : Throttles M T history s) {x : Step}
    (hx : x.callsThrottle = true) : Throttles M T (x.record history) (s.step x).1 := by
  obtain ⟨t, hsink, hM, hTr, hseen⟩ := hs
  cases x with
  | warn w =>
    refine ⟨(t.receive w).1, ?_, hM, hTr, Throttle.seen_receive hT hTr hseen w⟩
    simp [Session.step, Sink.warn, hsink, Sink.receive]
  | occurrences w => exact ⟨t, hsink, hM, hTr, hseen⟩
  | tracked => exact ⟨t, hsink, hM, hTr, hseen⟩
  | reset =>
    refine ⟨t.reset, ?_, hM, hTr, by simp [Step.record, Throttle.reset, Throttle.counts,
      Ring.keepLast]⟩
    simp [Session.step, change, Sink.reset, hsink]
  | decode | decodeBody | read | length | clear => simp [Step.callsThrottle] at hx

-- The run lemma: a run of throttle calls keeps the counts of the history it records.
theorem Throttles.after (hT : 1 ≤ T) (xs : List Step) (hxs : ∀ x ∈ xs, x.callsThrottle = true)
    (hs : Throttles M T history s) :
    Throttles M T (xs.foldl Step.record history) (s.after xs) := by
  induction xs generalizing history s with
  | nil => exact hs
  | cons x xs ih =>
    exact ih (fun y hy => hxs y (List.mem_cons_of_mem _ hy))
      (hs.call hT (hxs x List.mem_cons_self))

-- Settings of one or more make a throttle that holds nothing yet.
theorem exists_build_throttle (hM : 1 ≤ M) (hT : 1 ≤ T) :
    ∃ sink, SinkSpec.build (.throttle (.int M) (.int T)) = .ok sink ∧
      ∀ d, Throttles M T [] ⟨sink, d⟩ := by
  have hm : Bound.ofNumber? (.int M) = some (.atMost M) := by
    simp only [Bound.ofNumber?, Int.toNat_natCast]
    rw [if_neg (by omega)]
  have ht : Bound.ofNumber? (.int T) = some (.atMost T) := by
    simp only [Bound.ofNumber?, Int.toNat_natCast]
    rw [if_neg (by omega)]
  have hMa : (Bound.atMost M).admits 1 = true := by simp [Bound.admits]; omega
  have hTa : (Bound.atMost T).admits 1 = true := by simp [Bound.admits]; omega
  refine ⟨.throttle (Throttle.empty (.atMost M) (.atMost T) hMa hTa), ?_,
    fun d => ⟨_, rfl, rfl, rfl, by simp [Throttle.empty, Throttle.counts, Ring.keepLast]⟩⟩
  simp only [SinkSpec.build]
  -- neither setting is refused, and each gives the bound of its integer
  split <;> simp_all

theorem tracked_of_throttles (hs : Throttles M T history s) :
    (s.step .tracked).2.reply = .ok (.count (min T history.dedup.length)) := by
  obtain ⟨t, hsink, -, -, hseen⟩ := hs
  simp [Session.step, Sink.tracked, hsink, Throttle.tracked, hseen, Throttle.counts,
    Ring.length_keepLast, Except.map]

theorem occurrences_of_throttles (hs : Throttles M T history s) (w : Warning) :
    (s.step (.occurrences w)).2.reply = .ok (.count (Throttle.finalRun T w history)) := by
  obtain ⟨t, hsink, -, -, hseen⟩ := hs
  simp [Session.step, Sink.occurrences, hsink, Throttle.count_of_seen hseen, Except.map]

-- A warning is logged, with its count, while its count after receipt is at most `M`.
theorem logs_warn_of_throttles (hT : 1 ≤ T) (hs : Throttles M T history s) (w : Warning) :
    (s.step (.warn w)).2.logs =
      if Throttle.finalRun T w (history ++ [w]) ≤ M then
        [Throttle.entry w (Throttle.finalRun T w (history ++ [w]))]
      else [] := by
  obtain ⟨t, hsink, hM, -, hseen⟩ := hs
  rw [Throttle.finalRun_append_self hT, ← Throttle.count_of_seen hseen]
  simp only [Session.step, Sink.warn, hsink, Sink.receive, Throttle.receive, hM, Bound.admits,
    decide_eq_true_eq]
  split <;> rfl

end Session

open Session in
-- A throttle with settings `M` and `T` of one or more, after any run of warnings, counts, reads
-- and resets: it tracks the `T` distinct warnings last seen since the reset (or all of them, when
-- fewer), in the order they were last seen, and tracks the one just warned; it counts each warning
-- by its final run since the reset; and it logs a warning, with that count, while the count is at
-- most `M`.
theorem throttle_tracks_recent_and_counts_final_runs (M T : Nat) (hM : 1 ≤ M) (hT : 1 ≤ T)
    (d : Decoder) (xs : List Step) (hxs : ∀ x ∈ xs, x.callsThrottle = true) :
    ∃ sink, SinkSpec.build (.throttle (.int M) (.int T)) = .ok sink ∧
      (∃ t, (Session.after ⟨sink, d⟩ xs).sink = .throttle t ∧
        t.seen.map Prod.fst = keepLast T (sinceReset xs).dedup) ∧
      ((Session.after ⟨sink, d⟩ xs).step .tracked).2.reply =
        .ok (.count (min T (sinceReset xs).dedup.length)) ∧
      (∀ w, ((Session.after ⟨sink, d⟩ xs).step (.occurrences w)).2.reply =
        .ok (.count (Throttle.finalRun T w (sinceReset xs)))) ∧
      ∀ w, (∃ t, ((Session.after ⟨sink, d⟩ xs).step (.warn w)).1.sink = .throttle t ∧
          w ∈ t.seen.map Prod.fst) ∧
        ((Session.after ⟨sink, d⟩ xs).step (.warn w)).2.logs =
          if Throttle.finalRun T w (sinceReset xs ++ [w]) ≤ M then
            [Throttle.entry w (Throttle.finalRun T w (sinceReset xs ++ [w]))]
          else [] := by
  obtain ⟨sink, hbuild, hstart⟩ := exists_build_throttle hM hT
  have hs : Throttles M T (sinceReset xs) (Session.after ⟨sink, d⟩ xs) :=
    (hstart d).after hT xs hxs
  refine ⟨sink, hbuild, ?_, tracked_of_throttles hs, occurrences_of_throttles hs,
    fun w => ⟨?_, logs_warn_of_throttles hT hs w⟩⟩
  · obtain ⟨t, hsink, -, -, hseen⟩ := hs
    exact ⟨t, hsink, by simp [hseen, Throttle.counts, Function.comp_def]⟩
  · obtain ⟨t, hsink, -, -, hseen⟩ := hs.call hT (x := .warn w) rfl
    refine ⟨t, hsink, ?_⟩
    simpa [hseen, Throttle.counts, Step.record, Function.comp_def] using
      mem_keepLast_dedup_append_singleton (sinceReset xs) w hT

-- Warnings `a`, `b` and `a` again, a count, a reset, and `b`.
def Session.sampleCalls : List Session.Step :=
  [.warn ⟨"a", "", ""⟩, .warn ⟨"b", "", ""⟩, .warn ⟨"a", "", ""⟩, .tracked, .reset,
    .warn ⟨"b", "", ""⟩]

open Session in
-- Logging at most twice and tracking one warning: `b` evicts `a` in between, so the count of `a`
-- starts again at one.
theorem throttle_tracks_recent_and_counts_final_runs_one_tracked :
    (1 ≤ 2 ∧ 1 ≤ 1 ∧ ∀ x ∈ sampleCalls, x.callsThrottle = true) ∧
    ∃ sink, SinkSpec.build (.throttle (.int 2) (.int 1)) = .ok sink ∧
      (∃ t, (Session.after ⟨sink, Decoder.standard⟩ sampleCalls).sink = .throttle t ∧
        t.seen.map Prod.fst = keepLast 1 (sinceReset sampleCalls).dedup) ∧
      ((Session.after ⟨sink, Decoder.standard⟩ sampleCalls).step .tracked).2.reply =
        .ok (.count (min 1 (sinceReset sampleCalls).dedup.length)) ∧
      (∀ w, ((Session.after ⟨sink, Decoder.standard⟩ sampleCalls).step (.occurrences w)).2.reply =
        .ok (.count (Throttle.finalRun 1 w (sinceReset sampleCalls)))) ∧
      ∀ w, (∃ t, ((Session.after ⟨sink, Decoder.standard⟩ sampleCalls).step (.warn w)).1.sink =
          .throttle t ∧ w ∈ t.seen.map Prod.fst) ∧
        ((Session.after ⟨sink, Decoder.standard⟩ sampleCalls).step (.warn w)).2.logs =
          if Throttle.finalRun 1 w (sinceReset sampleCalls ++ [w]) ≤ 2 then
            [Throttle.entry w (Throttle.finalRun 1 w (sinceReset sampleCalls ++ [w]))]
          else [] :=
  ⟨⟨by decide, by decide, by decide⟩, throttle_tracks_recent_and_counts_final_runs 2 1
    (by decide) (by decide) Decoder.standard sampleCalls (by decide)⟩

end SeriesDecoding

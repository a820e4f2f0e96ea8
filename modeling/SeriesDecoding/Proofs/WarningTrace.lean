import SeriesDecoding.Proofs.CheckOrder
import SeriesDecoding.Session

namespace SeriesDecoding

namespace Series

-- The anomalies of the data points read before the first one refused, in order.
def anomaliesRead (r : Number) (q : Text) : List Document → List Anomaly
  | [] => []
  | p :: ps =>
    match Sample.ofPair r q p with
    | .error _ => []
    | .ok (_, a) => a.toList ++ anomaliesRead r q ps

-- The warning of an anomaly found in the series with the given rendered labels.
def warningOf (q labels : Text) (a : Anomaly) : Warning := ⟨a.message, q, labels⟩

-- Leaving out the anomalies already reported before leaving out repeats is leaving out the one
-- just reported as well.
theorem removeAll_filter_ne (as reported : List Anomaly) (a : Anomaly) :
    (as.removeAll reported).filter (fun b => !b == a) = as.removeAll (a :: reported) := by
  simp only [List.removeAll, List.filter_filter, List.elem_cons]
  apply List.filter_congr
  intro x _
  cases x == a <;> simp

-- Each anomaly is warned when it is first found and was not reported before; a refused data
-- point ends the warnings with the samples.
theorem warnings_decodePairs (r : Number) (q labels : Text) (reported : List Anomaly)
    (ps : List Document) :
    (decodePairs r q labels reported ps).warnings =
      ((anomaliesRead r q ps).removeAll reported).eraseDups.map (warningOf q labels) := by
  induction ps generalizing reported with
  | nil => rfl
  | cons p ps ih =>
    cases hp : Sample.ofPair r q p with
    | error e => simp [decodePairs, anomaliesRead, hp]
    | ok sa =>
      obtain ⟨s, a⟩ := sa
      cases a with
      | none => simp [decodePairs, anomaliesRead, hp, ih]
      | some a =>
        by_cases ha : a ∈ reported
        · simp [decodePairs, anomaliesRead, hp, ha, ih, List.removeAll]
        · have hcons : ((a :: anomaliesRead r q ps).removeAll reported).eraseDups =
              a :: ((anomaliesRead r q ps).removeAll (a :: reported)).eraseDups := by
            rw [← removeAll_filter_ne, ← List.eraseDups_cons]
            simp [List.removeAll, ha]
          simp [decodePairs, anomaliesRead, hp, ha, ih, hcons, warningOf]

theorem warnings_decode (r : Number) (q : Text) (entry : List (Text × Document)) :
    (decode r q entry).warnings =
      match parts q entry with
      | .error _ => []
      | .ok (metric, ps) =>
        (anomaliesRead r q ps).eraseDups.map (warningOf q (Labels.render metric)) := by
  rw [decode_eq]
  cases parts q entry with
  | error f => rfl
  | ok mp => simp [warnings_decodePairs, List.removeAll]

-- Anomalies come in two kinds, so a series warns at most twice.
theorem length_eraseDups_le_two (as : List Anomaly) : as.eraseDups.length ≤ 2 := by
  -- a list that holds one kind only keeps one element
  have hone : ∀ (b : Anomaly) (l : List Anomaly), (∀ x ∈ l, x = b) → l.eraseDups.length ≤ 1 := by
    intro b l hl
    cases l with
    | nil => simp
    | cons x l =>
      have hfilter : l.filter (fun y => !y == x) = [] := by
        simp only [List.filter_eq_nil_iff, Bool.not_eq_eq_eq_not, Bool.not_true,
          beq_eq_false_iff_ne, ne_eq, Decidable.not_not]
        intro y hy
        rw [hl y (by simp [hy]), hl x (by simp)]
      simp [List.eraseDups_cons, hfilter]
  cases as with
  | nil => simp
  | cons a as =>
    rw [List.eraseDups_cons, List.length_cons]
    -- an anomaly of another kind than the first is of the one other kind
    obtain ⟨b, hb⟩ : ∃ b : Anomaly, ∀ x, x ≠ a → x = b := by
      cases a
      · exact ⟨.notANumber, fun x hx => by cases x <;> simp_all⟩
      · exact ⟨.infinite, fun x hx => by cases x <;> simp_all⟩
    have hrest : ∀ x ∈ as.filter (fun y => !y == a), x = b := by
      intro x hx
      simp only [List.mem_filter, Bool.not_eq_eq_eq_not, Bool.not_true, beq_eq_false_iff_ne] at hx
      exact hb x hx.2
    have := hone _ _ hrest
    omega

end Series

namespace Response

-- The warnings sent for a result entry: when it passes its own checks, one for each kind of anomaly
-- among its data points read before the first refused one, in order of first occurrence, with the
-- query and the entry's rendered labels; none when its own checks refuse it.
def entryWarnings (r : Number) (q : Text) : Document → List Warning
  | .object entry =>
    match Series.parts q entry with
    | .error _ => []
    | .ok (metric, ps) =>
      (Series.anomaliesRead r q ps).eraseDups.map (Series.warningOf q (Labels.render metric))
  | _ => []

-- The entries that decoding looks at: up to and including the first that fails, all of them when
-- none fails.
def entriesChecked (r : Number) (q : Text) : List Document → List Document
  | [] => []
  | e :: es => if entryFailures r q e = [] then e :: entriesChecked r q es else [e]

-- The warnings sent while decoding a response: those of each entry that decoding looks at, in
-- order; none when the outer checks refuse it.
def warningTrace (r : Number) (q : Text) (raw : Document) : List Warning :=
  match entries? q raw with
  | .error _ => []
  | .ok entries => (entriesChecked r q entries).flatMap (entryWarnings r q)

section Trace

variable (r : Number) (q : Text)

theorem warnings_entrySeries (e : Document) :
    (entrySeries r q e).warnings = entryWarnings r q e := by
  cases e
  case object entry => exact Series.warnings_decode r q entry
  all_goals rfl

theorem warnings_decodeEntries (es : List Document) :
    (decodeEntries r q es).warnings = (entriesChecked r q es).flatMap (entryWarnings r q) := by
  induction es with
  | nil => rfl
  | cons e es ih =>
    rw [decodeEntries_cons]
    have hreports := reportsFirst_entrySeries r q e
    cases he : (entrySeries r q e).outcome with
    | error f =>
      -- a failed entry is the last one looked at
      have hfail : entryFailures r q e ≠ [] := by
        intro hnil
        obtain ⟨s, hs⟩ := hreports.exists_ok_iff.2 hnil
        simp [he] at hs
      simp [Traced.bind, he, entriesChecked, hfail, warnings_entrySeries]
    | ok s =>
      have hpass : entryFailures r q e = [] := hreports.exists_ok_iff.1 ⟨s, he⟩
      simp [Traced.bind, he, entriesChecked, hpass, warnings_entrySeries, ih]

theorem warnings_decode (raw : Document) :
    (decode r q raw).warnings = warningTrace r q raw := by
  rw [decode_eq]
  unfold warningTrace
  cases entries? q raw with
  | error f => rfl
  | ok entries => simp [warnings_decodeEntries]

theorem length_entryWarnings_le (e : Document) : (entryWarnings r q e).length ≤ 2 := by
  cases e
  case object entry =>
    rcases hparts : Series.parts q entry with f | ⟨metric, ps⟩
    · simp [entryWarnings, hparts]
    · simpa [entryWarnings, hparts] using Series.length_eraseDups_le_two _
  all_goals simp [entryWarnings]

end Trace

-- A sink that is not there keeps nothing and logs nothing.
theorem receiveAll_none (ws : List Warning) : Sink.none.receiveAll ws = (.none, []) := by
  induction ws with
  | nil => rfl
  | cons w ws ih => simp [Sink.receiveAll, Sink.receive, ih]

-- The warnings of decoding a response go out series by series: each entry looked at sends one
-- warning per kind of anomaly among its samples read, in order of first occurrence, so at most two,
-- and the next entry starts afresh; a failure ends them where it is found. A session's sink
-- receives exactly these warnings in order, and the reply does not depend on the sink: with no sink
-- nothing is logged or kept.
theorem decode_warns_once_per_kind_and_series (r : Number) (q : Text) (raw : Document) :
    (decode r q raw).warnings = warningTrace r q raw ∧
      (∀ e, (entryWarnings r q e).length ≤ 2) ∧
      ∀ s : Session,
        (s.step (.decode q raw)).1.sink =
            (s.sink.receiveAll (warningTrace s.decoder.resolution q raw)).1 ∧
          (s.step (.decode q raw)).2.logs =
            (s.sink.receiveAll (warningTrace s.decoder.resolution q raw)).2 ∧
          (s.step (.decode q raw)).2.reply =
            ({ s with sink := .none }.step (.decode q raw)).2.reply ∧
          ({ s with sink := .none }.step (.decode q raw)).1.sink = .none ∧
          ({ s with sink := .none }.step (.decode q raw)).2.logs = [] := by
  refine ⟨warnings_decode r q raw, length_entryWarnings_le r q, fun s => ?_⟩
  -- a session decodes within its room, which changes faults only
  have hwarnings : (decodeWithin Request.room s.decoder.resolution q raw).warnings =
      warningTrace s.decoder.resolution q raw := by
    simp [decodeWithin, warnings_decode]
  simp [Session.step, Session.absorb, hwarnings, receiveAll_none]

end Response

end SeriesDecoding

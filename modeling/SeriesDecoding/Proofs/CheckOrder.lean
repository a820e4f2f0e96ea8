import SeriesDecoding.Proofs.Levels
import SeriesDecoding.Request

namespace SeriesDecoding

namespace Response

-- The failure of a data point, by its checks in order: a pair of a finite number and a text, else
-- `pointFormat` for the whole pair; a numeral text, else `sampleValue`; a timestamp that snaps to
-- the grid of `r`, else the fault of that arithmetic.
def pointFailure (r : Number) (q : Text) (p : Document) : Option Fault :=
  match p with
  | .array [t, .str text] =>
    match Sample.timestamp? t with
    | none => some (.decode q (.shape (.pointFormat p)))
    | some ts =>
      match Sample.readValue text with
      | .error _ => some (.decode q (.shape (.sampleValue p text)))
      | .ok _ =>
        match Number.snap r (.float ts) with
        | .error e => some (.arith e)
        | .ok _ => none
  | _ => some (.decode q (.shape (.pointFormat p)))

-- Every failure of a result entry, in check order: the failure of its own checks, which hides its
-- data points, or else the failures of its data points in order.
def entryFailures (r : Number) (q : Text) : Document → List Fault
  | .object entry =>
    match Series.parts q entry with
    | .error f => [f]
    | .ok (_, ps) => ps.flatMap fun p => (pointFailure r q p).toList
  | other => [.decode q (.shape (.entryFormat other))]

-- Every failure of a response, in check order: the failure of its outer checks, which hides its
-- entries, or else the failures of its entries in order. The decoder reports the first.
def failures (r : Number) (q : Text) (raw : Document) : List Fault :=
  match entries? q raw with
  | .error f => [f]
  | .ok entries => entries.flatMap (entryFailures r q)

-- A data point the decoder reads under `r`: a finite timestamp and a numeral text, the timestamp
-- snapping to the grid of `r`.
def PointConforms (r : Number) : Document → Prop
  | .array [t, .str text] =>
    ∃ ts x stamp, Sample.timestamp? t = some ts ∧ Sample.readValue text = .ok x ∧
      Number.snap r (.float ts) = .ok stamp
  | _ => False

-- A result entry the decoder reads: an object whose metric is an object and whose data points (its
-- values, or else its one value: `Series.points_eq_ok_iff`) all conform.
def EntryConforms (r : Number) : Document → Prop
  | .object entry =>
    (∃ metric, Document.lookup entry "metric" = some (.object metric)) ∧
      ∃ ps, Series.points entry = .ok ps ∧ ∀ p ∈ ps, PointConforms r p
  | _ => False

-- The response grammar: an object whose data is an object whose result is an array of conforming
-- entries. Under a resolution that snaps every timestamp of the document, it does not depend on the
-- resolution.
def Conforms (r : Number) (raw : Document) : Prop :=
  ∃ document data entries, raw = .object document ∧
    Document.lookup document "data" = some (.object data) ∧
    Document.lookup data "result" = some (.array entries) ∧ ∀ e ∈ entries, EntryConforms r e

section Leaves

variable (r : Number) (q : Text)

theorem reportsFirst_ofPair (p : Document) :
    ReportsFirst (Sample.ofPair r q p) (pointFailure r q p).toList := by
  unfold Sample.ofPair pointFailure
  rcases p with _ | _ | _ | _ | _ | items | _ <;> dsimp only <;> try exact reportsFirst_error _
  rcases items with _ | ⟨t, _ | ⟨v, _ | ⟨w, rest⟩⟩⟩
  · exact reportsFirst_error _
  · exact reportsFirst_error _
  · cases v
    case str text =>
      dsimp only
      cases Sample.timestamp? t with
      | none => exact reportsFirst_error _
      | some ts =>
        dsimp only
        cases Sample.readValue text with
        | error _ => exact reportsFirst_error _
        | ok x =>
          dsimp only
          cases Number.snap r (.float ts) with
          | error e => exact reportsFirst_error _
          | ok stamp => exact reportsFirst_ok _
    -- a second item that is no text is refused whatever the timestamp
    all_goals
      try dsimp only
      cases Sample.timestamp? t <;> exact reportsFirst_error _
  · cases v <;> exact reportsFirst_error _

theorem pointFailure_eq_none_iff (p : Document) :
    pointFailure r q p = none ↔ PointConforms r p := by
  unfold pointFailure PointConforms
  rcases p with _ | _ | _ | _ | _ | items | _ <;> try simp
  rcases items with _ | ⟨t, _ | ⟨v, _ | ⟨w, rest⟩⟩⟩ <;> try simp
  cases v <;> try simp
  rename_i text
  cases Sample.timestamp? t with
  | none => simp
  | some ts =>
    cases Sample.readValue text with
    | error _ => simp
    | ok x => cases h : Number.snap r (.float ts) <;> simp [h]

end Leaves

section Levels

variable (r : Number) (q : Text)

theorem reportsFirst_entrySeries (e : Document) :
    ReportsFirst (entrySeries r q e).outcome (entryFailures r q e) := by
  cases e
  case object entry =>
    simp only [entrySeries, entryFailures, Series.decode_eq]
    cases Series.parts q entry with
    | error f => exact reportsFirst_error f
    | ok parts =>
      obtain ⟨metric, ps⟩ := parts
      simp only [Traced.outcome_map, Series.outcome_decodePairs, reportsFirst_map_iff]
      exact reportsFirst_mapM ps fun p _ => reportsFirst_ofPair r q p
  all_goals exact reportsFirst_error _

theorem reportsFirst_decode (raw : Document) :
    ReportsFirst (decode r q raw).outcome (failures r q raw) := by
  rw [decode_eq]
  unfold failures
  cases entries? q raw with
  | error f => exact reportsFirst_error f
  | ok entries =>
    rw [Traced.outcome_map, reportsFirst_map_iff, outcome_decodeEntries]
    exact reportsFirst_mapM entries fun e _ => reportsFirst_entrySeries r q e

theorem entryFailures_eq_nil_iff (e : Document) :
    entryFailures r q e = [] ↔ EntryConforms r e := by
  cases e
  case object entry =>
    simp only [entryFailures, EntryConforms]
    cases hparts : Series.parts q entry with
    | error f =>
      simp only [reduceCtorEq, false_iff, not_and, not_exists]
      -- an entry whose metric and points are in order passes its checks
      intro ⟨metric, hm⟩ ps hps _
      have := (Series.parts_eq_ok_iff q entry metric ps).2 ⟨hm, hps⟩
      simp [hparts] at this
    | ok parts =>
      obtain ⟨metric, ps⟩ := parts
      obtain ⟨hm, hps⟩ := (Series.parts_eq_ok_iff q entry metric ps).1 hparts
      simp [hm, hps, List.flatMap_eq_nil_iff, pointFailure_eq_none_iff]
  all_goals simp [entryFailures, EntryConforms]

theorem failures_eq_nil_iff (raw : Document) : failures r q raw = [] ↔ Conforms r raw := by
  unfold failures Conforms
  cases hentries : entries? q raw with
  | error f =>
    simp only [reduceCtorEq, false_iff, not_exists, not_and]
    -- a response whose data and result are in order passes the outer checks
    intro document data entries hraw hdata hresult _
    have := (entries?_eq_ok_iff q raw entries).2 ⟨document, data, hraw, hdata, hresult⟩
    simp [hentries] at this
  | ok entries =>
    obtain ⟨document, data, hraw, hdata, hresult⟩ := (entries?_eq_ok_iff q raw entries).1 hentries
    subst hraw
    simp [hdata, hresult, List.flatMap_eq_nil_iff, entryFailures_eq_nil_iff]

end Levels

-- Decoding a response checks it from the outside in and each entry in full before the next: it
-- fails with the first failure in that order, carrying the part of the response that breaks the
-- rule, and succeeds exactly on the documents of the response grammar.
theorem decode_reports_first_failure (r : Number) (q : Text) (raw : Document) :
    ((∃ rs, (decode r q raw).outcome = .ok rs) ↔ Conforms r raw) ∧
      ∀ f, (decode r q raw).outcome = .error f ↔ (failures r q raw).head? = some f := by
  have h := reportsFirst_decode r q raw
  exact ⟨h.exists_ok_iff.trans (failures_eq_nil_iff r q raw), h⟩

end Response

section Depth

variable {room : Nat} {f₀ f : Fault}

-- A fault that has no message within `room`: a violation of the response shape whose part is
-- higher than the room left at the level where the rule is checked.
def Fault.TooDeepFor (room : Nat) (f : Fault) : Prop :=
  ∃ q v, f = .decode q (.shape v) ∧ room - v.level < v.response.height

theorem Fault.within_of_tooDeepFor (h : f₀.TooDeepFor room) :
    Fault.within room f₀ = .literalTooDeep := by
  obtain ⟨q, v, rfl, hv⟩ := h
  simp [Fault.within, Fault.withinAt, hv]

-- Every other fault keeps its message.
theorem Fault.within_of_not_tooDeepFor (h : ¬f₀.TooDeepFor room) : Fault.within room f₀ = f₀ := by
  unfold Fault.within Fault.withinAt
  split
  case h_1 q v =>
    have hv : ¬room - v.level < v.response.height := fun hv => h ⟨q, v, rfl, hv⟩
    simp [hv]
  case h_2 => rfl

theorem Fault.within_eq_iff :
    Fault.within room f₀ = f ↔
      f₀.TooDeepFor room ∧ f = .literalTooDeep ∨ ¬f₀.TooDeepFor room ∧ f = f₀ := by
  by_cases hdeep : f₀.TooDeepFor room
  case pos =>
    rw [Fault.within_of_tooDeepFor hdeep]
    simp [hdeep, eq_comm]
  case neg =>
    rw [Fault.within_of_not_tooDeepFor hdeep]
    simp [hdeep, eq_comm]

end Depth

namespace Request

-- Decoding a response on its own checks it in the same order and succeeds on the same documents.
-- It reports the same first failure, except that a shape violation whose part is too high for the
-- room of a request at its level has no message, and is reported as a document too deep.
theorem decode_reports_first_failure_within_room (r : Number) (q : Text) (raw : Document) :
    ((∃ rs, (decode r q raw).outcome = .ok rs) ↔ Response.Conforms r raw) ∧
      ∀ f, (decode r q raw).outcome = .error f ↔
        ∃ f₀, (Response.failures r q raw).head? = some f₀ ∧
          (f₀.TooDeepFor room ∧ f = .literalTooDeep ∨ ¬f₀.TooDeepFor room ∧ f = f₀) := by
  have h := (Response.reportsFirst_decode r q raw).mapError (Fault.within room)
  have hout : (decode r q raw).outcome =
      (Response.decode r q raw).outcome.mapError (Fault.within room) := by
    simp [decode, Response.decodeWithin]
  rw [hout]
  refine ⟨h.exists_ok_iff.trans ?_, fun f => ?_⟩
  · rw [List.map_eq_nil_iff, Response.failures_eq_nil_iff]
  · rw [h f, List.head?_map, Option.map_eq_some_iff]
    simp only [Fault.within_eq_iff]

end Request

end SeriesDecoding

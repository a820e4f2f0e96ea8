import SeriesDecoding.Proofs.Levels

namespace SeriesDecoding

namespace Sample

theorem isFinite_zero : Binary64.isFinite Binary64.zero = true := by
  decide

-- An infinity or a NaN becomes zero; a finite value is kept.
theorem sanitize_fst (x : Float) :
    (sanitize x).1 = if Binary64.isFinite x then x else Binary64.zero := by
  unfold sanitize Binary64.isFinite
  cases Binary64.parts x <;> rfl

-- A data point that is read gives its snapped timestamp and its sanitized value.
theorem ofPair_eq_ok {r : Number} {q : Text} {p : Document} {s : Sample} {a : Option Anomaly}
    (h : ofPair r q p = .ok (s, a)) :
    ∃ t text ts x, p = .array [t, .str text] ∧ timestamp? t = some ts ∧ readValue text = .ok x ∧
      Number.snap r (.float ts) = .ok s.timestamp ∧ s.value = (sanitize x).1 ∧
        a = (sanitize x).2 := by
  unfold ofPair at h
  rcases p with _ | _ | _ | _ | _ | items | _ <;> try simp at h
  rcases items with _ | ⟨t, _ | ⟨v, _ | ⟨w, rest⟩⟩⟩ <;> try simp at h
  cases hts : timestamp? t with
  | none => cases v <;> simp [hts] at h
  | some ts =>
    cases v <;> simp only [hts, reduceCtorEq] at h
    rename_i text
    cases hx : readValue text with
    | error _ => simp [hx] at h
    | ok x =>
      cases hstamp : Number.snap r (.float ts) with
      | error _ => simp [hx, hstamp] at h
      | ok stamp =>
        simp only [hx, hstamp, Except.ok.injEq, Prod.mk.injEq] at h
        obtain ⟨rfl, rfl⟩ := h
        exact ⟨t, text, ts, x, rfl, hts, hx, hstamp, rfl, rfl⟩

end Sample

namespace Response

-- A sample read from a data point under `r`: the point is a finite timestamp and a numeral text;
-- the sample's timestamp is that timestamp snapped to the grid of `r`, and its value is the
-- numeral's float, or zero when that is infinite or NaN.
def SampleOf (r : Number) (p : Document) (s : Sample) : Prop :=
  ∃ t text ts x, p = .array [t, .str text] ∧ Sample.timestamp? t = some ts ∧
    Sample.readValue text = .ok x ∧ Number.snap r (.float ts) = .ok s.timestamp ∧
    s.value = if Binary64.isFinite x then x else Binary64.zero

-- A series read from a result entry under `r`: the entry is an object whose metric is the series'
-- labels, unchanged; its data points are its values, or its one value when it has no values; and
-- the series has one sample read from each data point, in order.
def SeriesOf (r : Number) (e : Document) (s : Series) : Prop :=
  ∃ entry ps, e = .object entry ∧ Document.lookup entry "metric" = some (.object s.labels) ∧
    (Document.lookup entry "values" = some (.array ps) ∨
      Document.lookup entry "values" = none ∧ ∃ v, Document.lookup entry "value" = some v ∧
        ps = [v]) ∧
    List.Forall₂ (SampleOf r) ps s.samples

variable {r : Number} {q : Text}

theorem sampleOf_of_ofPair {p : Document} {s : Sample} {a : Option Anomaly}
    (h : Sample.ofPair r q p = .ok (s, a)) : SampleOf r p s := by
  obtain ⟨t, text, ts, x, hp, hts, hx, hstamp, hvalue, -⟩ := Sample.ofPair_eq_ok h
  exact ⟨t, text, ts, x, hp, hts, hx, hstamp, hvalue.trans (Sample.sanitize_fst x)⟩

theorem isFinite_of_sampleOf {p : Document} {s : Sample} (h : SampleOf r p s) :
    Binary64.isFinite s.value = true := by
  obtain ⟨-, -, -, x, -, -, -, -, hvalue⟩ := h
  rw [hvalue]
  split
  · assumption
  · exact Sample.isFinite_zero

theorem seriesOf_of_entrySeries {e : Document} {s : Series}
    (h : (entrySeries r q e).outcome = .ok s) : SeriesOf r e s := by
  cases e
  case object entry =>
    simp only [entrySeries, Series.decode_eq] at h
    cases hparts : Series.parts q entry with
    | error f => simp [hparts] at h
    | ok parts =>
      obtain ⟨metric, ps⟩ := parts
      obtain ⟨hm, hps⟩ := (Series.parts_eq_ok_iff q entry metric ps).1 hparts
      simp only [hparts, Traced.outcome_map, Series.outcome_decodePairs] at h
      -- the samples come from one successful traversal of the points
      cases hread : ps.mapM (Sample.ofPair r q) with
      | error f => simp [hread, Except.map] at h
      | ok read =>
        simp only [hread, Except.map, Except.ok.injEq] at h
        subst h
        have hpairs := (mapM_eq_ok_iff ps read).1 hread
        refine ⟨entry, ps, rfl, hm, (Series.points_eq_ok_iff entry ps).1 hps, ?_⟩
        rw [List.forall₂_map_right_iff]
        exact hpairs.imp fun p sa hsa => sampleOf_of_ofPair (a := sa.2) hsa
  all_goals simp [entrySeries] at h

-- A decoded response keeps its query and has one series read from each result entry, in order.
theorem seriesOf_of_decode_ok {raw : Document} {rs : ResultSet}
    (h : (decode r q raw).outcome = .ok rs) :
    rs.query = q ∧
      ∃ document data entries, raw = .object document ∧
        Document.lookup document "data" = some (.object data) ∧
        Document.lookup data "result" = some (.array entries) ∧
        List.Forall₂ (SeriesOf r) entries rs.series := by
  rw [decode_eq] at h
  cases hentries : entries? q raw with
  | error f => simp [hentries] at h
  | ok entries =>
    simp only [hentries, Traced.outcome_map, outcome_decodeEntries] at h
    cases hseries : entries.mapM (fun e => (entrySeries r q e).outcome) with
    | error f => simp [hseries, Except.map] at h
    | ok series =>
      simp only [hseries, Except.map, Except.ok.injEq] at h
      subst h
      obtain ⟨document, data, hraw, hdata, hresult⟩ := (entries?_eq_ok_iff q raw entries).1 hentries
      have hrel : List.Forall₂ (SeriesOf r) entries series :=
        ((mapM_eq_ok_iff entries series).1 hseries).imp fun _ _ hs => seriesOf_of_entrySeries hs
      exact ⟨rfl, document, data, entries, hraw, hdata, hresult, hrel⟩

-- Each sample of a decoded response was read from a data point of the entry its series came from.
theorem sampleOf_of_decode_ok {raw : Document} {rs : ResultSet}
    (h : (decode r q raw).outcome = .ok rs) :
    ∀ s ∈ rs.series, ∀ x ∈ s.samples, ∃ p, SampleOf r p x := by
  obtain ⟨-, document, data, entries, -, -, -, hrel⟩ := seriesOf_of_decode_ok h
  intro s hs x hx
  obtain ⟨e, -, ⟨entry, ps, -, -, -, hsamples⟩⟩ := Forall₂.exists_left_of_mem hrel hs
  obtain ⟨p, -, hp⟩ := Forall₂.exists_left_of_mem hsamples hx
  exact ⟨p, hp⟩

-- A decoded response keeps its query and has one series for each result entry, in order: the
-- entry's metric as labels, and one sample for each data point of its values (or of its one value),
-- in order, holding the snapped timestamp and the value with infinities and NaN made zero. So every
-- sample value is finite.
theorem decode_ok_series_of_entries {raw : Document} {rs : ResultSet}
    (h : (decode r q raw).outcome = .ok rs) :
    rs.query = q ∧
      (∃ document data entries, raw = .object document ∧
        Document.lookup document "data" = some (.object data) ∧
        Document.lookup data "result" = some (.array entries) ∧
        List.Forall₂ (SeriesOf r) entries rs.series) ∧
      ∀ s ∈ rs.series, ∀ x ∈ s.samples, Binary64.isFinite x.value = true := by
  obtain ⟨hquery, hentries⟩ := seriesOf_of_decode_ok h
  refine ⟨hquery, hentries, fun s hs x hx => ?_⟩
  obtain ⟨p, hp⟩ := sampleOf_of_decode_ok h s hs x hx
  exact isFinite_of_sampleOf hp

-- One series of one data point, a timestamp of 12 on the grid of ten and an infinite value.
theorem decode_ok_series_of_entries_single_point :
    (decode (.int 10) "up" (.object [("data", .object [("result", .array
        [.object [("metric", .object [("job", .str "api")]),
          ("value", .array [.int 12, .str "+Inf"])]])])])).outcome =
      .ok ⟨"up", [⟨[("job", .str "api")], [⟨Float.ofBits 0x4024000000000000, Binary64.zero⟩]⟩]⟩ ∧
    (ResultSet.query ⟨"up", [⟨[("job", .str "api")],
        [⟨Float.ofBits 0x4024000000000000, Binary64.zero⟩]⟩]⟩ = "up" ∧
      (∃ document data entries, Document.object [("data", .object [("result", .array
          [.object [("metric", .object [("job", .str "api")]),
            ("value", .array [.int 12, .str "+Inf"])]])])] = .object document ∧
        Document.lookup document "data" = some (.object data) ∧
        Document.lookup data "result" = some (.array entries) ∧
        List.Forall₂ (SeriesOf (.int 10)) entries
          [⟨[("job", .str "api")], [⟨Float.ofBits 0x4024000000000000, Binary64.zero⟩]⟩]) ∧
      ∀ s ∈ ResultSet.series ⟨"up", [⟨[("job", .str "api")],
          [⟨Float.ofBits 0x4024000000000000, Binary64.zero⟩]⟩]⟩,
        ∀ x ∈ s.samples, Binary64.isFinite x.value = true) :=
  ⟨rfl, decode_ok_series_of_entries rfl⟩

end Response

end SeriesDecoding

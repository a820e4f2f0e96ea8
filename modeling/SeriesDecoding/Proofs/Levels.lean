import Mathlib.Data.List.Forall2
import SeriesDecoding.Response

namespace SeriesDecoding

section Reports

variable {ε α β : Type}

-- An outcome reports the first of a list of failures when it fails with the head of the list
-- and with nothing else. An empty list then means success (`ReportsFirst.exists_ok_iff`).
def ReportsFirst (o : Except ε α) (failures : List ε) : Prop :=
  ∀ f, o = .error f ↔ failures.head? = some f

theorem reportsFirst_ok (a : α) : ReportsFirst (.ok a : Except ε α) [] := by
  intro f
  simp

theorem reportsFirst_error (f : ε) : ReportsFirst (.error f : Except ε α) [f] := by
  intro f'
  simp

theorem ReportsFirst.exists_ok_iff {o : Except ε α} {failures : List ε}
    (h : ReportsFirst o failures) : (∃ a, o = .ok a) ↔ failures = [] := by
  cases o with
  | ok a =>
    cases failures with
    | nil => simp
    | cons f rest => simpa using (h f).2 rfl
  | error e =>
    have hf := (h e).1 rfl
    cases failures with
    | nil => simp at hf
    | cons f rest => simp

theorem reportsFirst_map_iff (g : α → β) (o : Except ε α) (failures : List ε) :
    ReportsFirst (o.map g) failures ↔ ReportsFirst o failures := by
  cases o <;> simp [ReportsFirst, Except.map]

-- Turning each fault into another reports the first failure turned.
theorem ReportsFirst.mapError {ε' : Type} {o : Except ε α} {failures : List ε}
    (h : ReportsFirst o failures) (g : ε → ε') : ReportsFirst (o.mapError g) (failures.map g) := by
  intro f
  cases o with
  | ok a =>
    have hnil : failures = [] := h.exists_ok_iff.1 ⟨a, rfl⟩
    simp [Except.mapError, hnil]
  | error e =>
    have he : failures.head? = some e := (h e).1 rfl
    simp [Except.mapError, List.head?_map, he]

-- A traversal that stops at the first failing item reports the first failure of the items
-- taken in order: each item that succeeds contributes no failure.
theorem reportsFirst_mapM {g : α → Except ε β} {L : α → List ε} (xs : List α)
    (h : ∀ x ∈ xs, ReportsFirst (g x) (L x)) : ReportsFirst (xs.mapM g) (xs.flatMap L) := by
  induction xs with
  | nil => exact reportsFirst_ok []
  | cons x xs ih =>
    have hx := h x (by simp)
    have hxs := ih (fun y hy => h y (by simp [hy]))
    cases hg : g x with
    | error e =>
      have he : (L x).head? = some e := (hx e).1 hg
      intro f
      simp [List.mapM_cons, hg, bind, Except.bind, List.head?_append, he]
    | ok y =>
      have hnil : L x = [] := hx.exists_ok_iff.1 ⟨y, hg⟩
      have hcons : (x :: xs).mapM g = (xs.mapM g).map (y :: ·) := by
        rw [List.mapM_cons, hg]
        cases xs.mapM g <;> rfl
      rw [hcons, List.flatMap_cons, hnil, List.nil_append]
      exact (reportsFirst_map_iff _ _ _).2 hxs

-- A traversal succeeds exactly with the results of its items, item by item.
theorem mapM_eq_ok_iff {g : α → Except ε β} (xs : List α) (ys : List β) :
    xs.mapM g = .ok ys ↔ List.Forall₂ (fun x y => g x = .ok y) xs ys := by
  induction xs generalizing ys with
  | nil => cases ys <;> simp [pure, Except.pure]
  | cons x xs ih =>
    cases hg : g x with
    | error e => cases ys <;> simp [List.mapM_cons, hg, bind, Except.bind]
    | ok y =>
      cases hr : xs.mapM g with
      | error e => cases ys <;> simp [List.mapM_cons, hg, hr, bind, Except.bind, ← ih]
      | ok zs =>
        cases ys <;> simp [List.mapM_cons, hg, hr, bind, Except.bind, pure, Except.pure, ← ih]

-- Each item related on the right has a partner on the left.
theorem Forall₂.exists_left_of_mem {R : α → β → Prop} {xs : List α} {ys : List β}
    (h : List.Forall₂ R xs ys) {y : β} (hy : y ∈ ys) : ∃ x ∈ xs, R x y := by
  induction h with
  | nil => simp at hy
  | @cons x y' xs ys hxy _ ih =>
    rcases List.mem_cons.1 hy with rfl | hy
    · exact ⟨x, List.mem_cons_self, hxy⟩
    · obtain ⟨x', hx', hr⟩ := ih hy
      exact ⟨x', List.mem_cons_of_mem _ hx', hr⟩

end Reports

namespace Series

-- The labels and data points of a result entry, or the fault of the first entry check it breaks: no
-- metric, a metric that is not an object, values that are not an array, or neither values nor a
-- value.
def parts (q : Text) (entry : List (Text × Document)) :
    Except Fault (List (Text × Document) × List Document) :=
  match Document.lookup entry "metric" with
  | none => .error (.decode q (.shape (.metricMissing (.object entry))))
  | some (.object metric) =>
    match points entry with
    | .error v => .error (.decode q (.shape v))
    | .ok ps => .ok (metric, ps)
  | some other => .error (.decode q (.shape (.metricFormat other)))

-- Decoding an entry is its checks, then its data points under its rendered labels.
theorem decode_eq (r : Number) (q : Text) (entry : List (Text × Document)) :
    decode r q entry =
      match parts q entry with
      | .error f => .fail f
      | .ok (metric, ps) => (decodePairs r q (Labels.render metric) [] ps).map (⟨metric, ·⟩) := by
  unfold decode parts
  cases Document.lookup entry "metric" with
  | none => rfl
  | some metric =>
    cases metric <;> try rfl
    cases points entry <;> rfl

theorem parts_eq_ok_iff (q : Text) (entry : List (Text × Document))
    (metric : List (Text × Document)) (ps : List Document) :
    parts q entry = .ok (metric, ps) ↔
      Document.lookup entry "metric" = some (.object metric) ∧ points entry = .ok ps := by
  unfold parts
  cases Document.lookup entry "metric" with
  | none => simp
  | some m =>
    cases m <;> try simp
    cases points entry <;> simp [and_comm, eq_comm]

-- Values win over a value; a lone value is one data point.
theorem points_eq_ok_iff (entry : List (Text × Document)) (ps : List Document) :
    points entry = .ok ps ↔
      Document.lookup entry "values" = some (.array ps) ∨
        Document.lookup entry "values" = none ∧ ∃ v, Document.lookup entry "value" = some v ∧
          ps = [v] := by
  unfold points
  cases Document.lookup entry "values" with
  | none =>
    cases Document.lookup entry "value" with
    | none => simp
    | some v => simp [eq_comm]
  | some vs => cases vs <;> simp

-- The samples of data points are those of each point in order; the reported anomalies only
-- decide which warnings are sent.
theorem outcome_decodePairs (r : Number) (q labels : Text) (reported : List Anomaly)
    (ps : List Document) :
    (decodePairs r q labels reported ps).outcome =
      (ps.mapM (Sample.ofPair r q)).map (List.map Prod.fst) := by
  induction ps generalizing reported with
  | nil => rfl
  | cons p ps ih =>
    cases hp : Sample.ofPair r q p with
    | error e => simp [decodePairs, hp, List.mapM_cons, bind, Except.bind, Except.map]
    | ok sa =>
      obtain ⟨s, a⟩ := sa
      have hcons : ((p :: ps).mapM (Sample.ofPair r q)).map (List.map Prod.fst) =
          ((ps.mapM (Sample.ofPair r q)).map (List.map Prod.fst)).map (s :: ·) := by
        rw [List.mapM_cons, hp]
        cases ps.mapM (Sample.ofPair r q) <;> rfl
      rw [hcons]
      cases a with
      | none => simp [decodePairs, hp, ih]
      | some a =>
        by_cases ha : a ∈ reported
        · simp [decodePairs, hp, ha, ih]
        · simp [decodePairs, hp, ha, ih]

end Series

namespace Response

-- The result entries of a response, or the fault of the first outer check it breaks: no response, a
-- response that is not an object, no data (an engine error in its place), data that is not an
-- object, no result, a result that is not an array.
def entries? (q : Text) (raw : Document) : Except Fault (List Document) :=
  let refuse (f : DecodeFault) : Except Fault (List Document) := .error (.decode q f)
  match raw with
  | .null => refuse .noData
  | .object document =>
    match Document.lookup document "data" with
    | none =>
      match Document.lookup document "error" with
      | some (.str message) => refuse (.engine message raw)
      | _ => refuse (.shape (.unexpected raw))
    | some (.object data) =>
      match Document.lookup data "result" with
      | none => refuse (.shape (.resultMissing (.object data)))
      | some (.array entries) => .ok entries
      | some other => refuse (.shape (.resultFormat other))
    | some other => refuse (.shape (.dataFormat other))
  | other => refuse (.shape (.unexpected other))

-- Decoding a response is its outer checks, then its entries in order.
theorem decode_eq (r : Number) (q : Text) (raw : Document) :
    decode r q raw =
      match entries? q raw with
      | .error f => .fail f
      | .ok entries => (decodeEntries r q entries).map (⟨q, ·⟩) := by
  unfold decode entries?
  cases raw <;> dsimp only
  rename_i document
  cases Document.lookup document "data" with
  | none =>
    cases Document.lookup document "error" with
    | none => rfl
    | some message => cases message <;> rfl
  | some data =>
    cases data <;> dsimp only
    rename_i data
    cases Document.lookup data "result" with
    | none => rfl
    | some result => cases result <;> rfl

theorem entries?_eq_ok_iff (q : Text) (raw : Document) (entries : List Document) :
    entries? q raw = .ok entries ↔
      ∃ document data, raw = .object document ∧
        Document.lookup document "data" = some (.object data) ∧
        Document.lookup data "result" = some (.array entries) := by
  unfold entries?
  cases raw <;> simp only [reduceCtorEq, false_and, exists_false, Document.object.injEq,
    exists_and_left, exists_eq_left']
  rename_i document
  cases Document.lookup document "data" with
  | none =>
    cases Document.lookup document "error" with
    | none => simp
    | some message => cases message <;> simp
  | some data =>
    cases data <;> simp only [reduceCtorEq, false_and, exists_false, Option.some.injEq,
      Document.object.injEq, exists_eq_left']
    rename_i data
    cases Document.lookup data "result" with
    | none => simp
    | some result => cases result <;> simp [eq_comm]

-- The series of a result entry, which must be an object.
def entrySeries (r : Number) (q : Text) : Document → Traced Series
  | .object entry => Series.decode r q entry
  | other => .fail (.decode q (.shape (.entryFormat other)))

theorem decodeEntries_cons (r : Number) (q : Text) (e : Document) (es : List Document) :
    decodeEntries r q (e :: es) =
      (entrySeries r q e).bind fun s => (decodeEntries r q es).map (s :: ·) := by
  cases e <;> rfl

-- The series of the entries are those of each entry in order.
theorem outcome_decodeEntries (r : Number) (q : Text) (es : List Document) :
    (decodeEntries r q es).outcome = es.mapM fun e => (entrySeries r q e).outcome := by
  induction es with
  | nil => rfl
  | cons e es ih =>
    rw [decodeEntries_cons, List.mapM_cons]
    cases he : (entrySeries r q e).outcome with
    | error f => simp [Traced.bind, he, bind, Except.bind]
    | ok s =>
      simp only [Traced.bind, he, Traced.outcome_map, ih, bind, Except.bind]
      cases es.mapM (fun e => (entrySeries r q e).outcome) <;> rfl

end Response

end SeriesDecoding

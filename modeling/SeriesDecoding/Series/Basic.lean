import SeriesDecoding.Fault

namespace SeriesDecoding

-- One observation of a series: a timestamp on the resolution grid and a finite value.
structure Sample where
  timestamp : Float
  value : Float

-- The kinds of sample value that are replaced by zero.
inductive Anomaly where
  | infinite
  | notANumber
  deriving DecidableEq

def Anomaly.message : Anomaly → Text
  | .infinite => "Found Inf value parsing vector data point for metric"
  | .notANumber => "Found NaN value parsing vector data point for metric"

-- The label object of a result entry and its samples.
structure Series where
  labels : List (Text × Document)
  samples : List Sample

-- The series of the response to a query, one per result entry, in order.
structure ResultSet where
  query : Text
  series : List Series

-- A warning: its message, the query, and the rendered labels of the series it concerns.
structure Warning where
  message : Text
  query : Text
  labels : Text
  deriving DecidableEq

-- An outcome together with the warnings sent on the way to it: decoding stops at its first fault,
-- and the warnings sent before that fault are kept.
structure Traced (α : Type) where
  warnings : List Warning
  outcome : Except Fault α

namespace Traced

variable {α β : Type}

-- A value reached with no warning.
def ok (a : α) : Traced α := ⟨[], .ok a⟩

-- A fault reached with no warning.
def fail (f : Fault) : Traced α := ⟨[], .error f⟩

def map (f : α → β) (t : Traced α) : Traced β := ⟨t.warnings, t.outcome.map f⟩

-- The warnings of `t`, then, if `t` reached a value, those and the outcome of `k` on it.
def bind (t : Traced α) (k : α → Traced β) : Traced β :=
  match t.outcome with
  | .error e => ⟨t.warnings, .error e⟩
  | .ok a => let u := k a; ⟨t.warnings ++ u.warnings, u.outcome⟩

def mapFault (f : Fault → Fault) (t : Traced α) : Traced α := ⟨t.warnings, t.outcome.mapError f⟩

-- The outcome after the warnings `ws` were sent first.
def after (ws : List Warning) (t : Traced α) : Traced α := ⟨ws ++ t.warnings, t.outcome⟩

@[simp] theorem warnings_ok (a : α) : (ok a).warnings = [] := rfl

@[simp] theorem outcome_ok (a : α) : (ok a).outcome = .ok a := rfl

@[simp] theorem warnings_fail (f : Fault) : (fail f : Traced α).warnings = [] := rfl

@[simp] theorem outcome_fail (f : Fault) : (fail f : Traced α).outcome = .error f := rfl

@[simp] theorem warnings_map (f : α → β) (t : Traced α) : (t.map f).warnings = t.warnings := rfl

@[simp] theorem outcome_map (f : α → β) (t : Traced α) : (t.map f).outcome = t.outcome.map f :=
  rfl

@[simp] theorem warnings_mapFault (f : Fault → Fault) (t : Traced α) :
    (t.mapFault f).warnings = t.warnings := rfl

@[simp] theorem outcome_mapFault (f : Fault → Fault) (t : Traced α) :
    (t.mapFault f).outcome = t.outcome.mapError f := rfl

@[simp] theorem warnings_after (ws : List Warning) (t : Traced α) :
    (t.after ws).warnings = ws ++ t.warnings := rfl

@[simp] theorem outcome_after (ws : List Warning) (t : Traced α) :
    (t.after ws).outcome = t.outcome := rfl

-- A fault ends the run: nothing of the continuation is sent.
theorem bind_of_error (t : Traced α) (k : α → Traced β) (e : Fault) (h : t.outcome = .error e) :
    t.bind k = ⟨t.warnings, .error e⟩ := by
  simp only [bind, h]

-- A value goes on: the continuation's warnings follow those already sent.
theorem bind_of_ok (t : Traced α) (k : α → Traced β) (a : α) (h : t.outcome = .ok a) :
    t.bind k = ⟨t.warnings ++ (k a).warnings, (k a).outcome⟩ := by
  simp only [bind, h]

end Traced

end SeriesDecoding

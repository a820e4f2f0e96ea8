import SeriesDecoding.Proofs.CheckOrder
import SeriesDecoding.Proofs.ResultShape
import SeriesDecoding.Proofs.Snap
import SeriesDecoding.Request

namespace SeriesDecoding

-- A timestamp that is read is finite.
theorem Sample.isFinite_of_timestamp? {t : Document} {ts : Float}
    (h : Sample.timestamp? t = some ts) : Binary64.isFinite ts = true := by
  cases t with
  | int n => exact Binary64.isFinite_of_ofInt? h
  | float x =>
    simp only [Sample.timestamp?] at h
    split at h
    · simp only [Option.some.injEq] at h
      exact h ▸ ‹_›
    · simp at h
  | _ => simp [Sample.timestamp?] at h

namespace Response

section Kinds

variable {r : Number} {q : Text} {f : Fault}

-- A failure of decoding under `r`: a decoding fault about the query, or the fault of snapping a
-- finite timestamp to the grid of `r`.
def FailureKind (r : Number) (q : Text) (f : Fault) : Prop :=
  (∃ d, f = .decode q d) ∨
    ∃ ts e, Binary64.isFinite ts = true ∧ Number.snap r (.float ts) = .error e ∧ f = .arith e

theorem failureKind_pointFailure {p : Document} (h : pointFailure r q p = some f) :
    FailureKind r q f := by
  unfold pointFailure at h
  split at h
  · rename_i t text
    cases hts : Sample.timestamp? t with
    | none =>
      simp only [hts, Option.some.injEq] at h
      exact .inl ⟨_, h.symm⟩
    | some ts =>
      cases hx : Sample.readValue text with
      | error _ =>
        simp only [hts, hx, Option.some.injEq] at h
        exact .inl ⟨_, h.symm⟩
      | ok x =>
        cases hsnap : Number.snap r (.float ts) with
        | error e =>
          simp only [hts, hx, hsnap, Option.some.injEq] at h
          exact .inr ⟨ts, e, Sample.isFinite_of_timestamp? hts, hsnap, h.symm⟩
        | ok stamp => simp [hts, hx, hsnap] at h
  · simp only [Option.some.injEq] at h
    exact .inl ⟨_, h.symm⟩

theorem Series.parts_error {entry : List (Text × Document)} (h : Series.parts q entry = .error f) :
    ∃ d, f = .decode q d := by
  unfold Series.parts at h
  split at h
  · exact ⟨_, (Except.error.inj h).symm⟩
  · split at h
    · exact ⟨_, (Except.error.inj h).symm⟩
    · simp at h
  · exact ⟨_, (Except.error.inj h).symm⟩

theorem entries?_error {raw : Document} (h : entries? q raw = .error f) : ∃ d, f = .decode q d := by
  unfold entries? at h
  -- every refusal is a decoding fault, and the one success is no failure
  repeat' split at h
  all_goals first
    | exact ⟨_, (Except.error.inj h).symm⟩
    | simp at h

theorem failureKind_of_mem_failures {raw : Document} (h : f ∈ failures r q raw) :
    FailureKind r q f := by
  unfold failures at h
  cases hentries : entries? q raw with
  | error f' =>
    simp only [hentries, List.mem_singleton] at h
    exact .inl (h ▸ entries?_error hentries)
  | ok entries =>
    simp only [hentries, List.mem_flatMap] at h
    obtain ⟨e, -, he⟩ := h
    cases e
    case object entry =>
      simp only [entryFailures] at he
      cases hparts : Series.parts q entry with
      | error f' =>
        simp only [hparts, List.mem_singleton] at he
        exact .inl (he ▸ Series.parts_error hparts)
      | ok mp =>
        simp only [hparts, List.mem_flatMap, Option.mem_toList] at he
        obtain ⟨p, -, hp⟩ := he
        exact failureKind_pointFailure hp
    all_goals
      simp only [entryFailures, List.mem_singleton] at he
      exact .inl ⟨_, he⟩

end Kinds

-- What decoding under a resolution above zero that is no NaN ends with: a result set whose sample
-- values are finite, and whose timestamps are finite too on an integer grid; or a decoding fault
-- about the query, an overflow snapping a timestamp to the grid (`OverflowError`), or a document
-- too deep to be written into a fault's message (`RecursionError`).
def DecodeOutcome (r : Number) (q : Text) : Except Fault ResultSet → Prop
  | .ok rs => ∀ s ∈ rs.series, ∀ x ∈ s.samples, Binary64.isFinite x.value = true ∧
      ((∃ n, r = .int n) → Binary64.isFinite x.timestamp = true)
  | .error f => (∃ d, f = .decode q d) ∨ f = .arith .intTooLarge ∨ f = .arith .infinityToInt ∨
      f = .literalTooDeep

section Outcome

variable {r : Number} {q : Text}

-- Decoding within a room turns a decoding fault into a deep document at worst.
theorem decodeOutcome_within (room : Nat) {f : Fault} (h : DecodeOutcome r q (.error f)) :
    DecodeOutcome r q (.error (Fault.within room f)) := by
  by_cases hdeep : f.TooDeepFor room
  case pos =>
    rw [Fault.within_of_tooDeepFor hdeep]
    exact .inr (.inr (.inr rfl))
  case neg =>
    rw [Fault.within_of_not_tooDeepFor hdeep]
    exact h

theorem decodeOutcome_decode (hr : r.atMostZero = false) (hnan : r.isNaN = false)
    (raw : Document) : DecodeOutcome r q (decode r q raw).outcome := by
  cases ho : (decode r q raw).outcome with
  | error f =>
    -- the fault is the first failure in check order, which snaps a finite timestamp if it
    -- is no decoding fault
    have hmem : f ∈ failures r q raw :=
      List.mem_of_mem_head? ((reportsFirst_decode r q raw f).1 ho)
    rcases failureKind_of_mem_failures hmem with hd | ⟨ts, e, hts, hsnap, rfl⟩
    · exact .inl hd
    · rcases Number.snap_error hr hnan hts hsnap with rfl | rfl
      · exact .inr (.inl rfl)
      · exact .inr (.inr (.inl rfl))
  | ok rs =>
    intro s hs x hx
    obtain ⟨p, hp⟩ := sampleOf_of_decode_ok ho s hs x hx
    refine ⟨isFinite_of_sampleOf hp, ?_⟩
    obtain ⟨t, text, ts, v, -, -, -, hstamp, -⟩ := hp
    rintro ⟨n, rfl⟩
    exact Number.isFinite_snap_int hstamp

theorem decodeOutcome_decodeWithin (hr : r.atMostZero = false) (hnan : r.isNaN = false)
    (room : Nat) (raw : Document) : DecodeOutcome r q (decodeWithin room r q raw).outcome := by
  have h : DecodeOutcome r q (decode r q raw).outcome := decodeOutcome_decode hr hnan raw
  unfold decodeWithin
  rw [Traced.outcome_mapFault]
  cases ho : (decode r q raw).outcome with
  | error f =>
    rw [ho] at h
    exact decodeOutcome_within room h
  | ok rs =>
    rw [ho] at h
    exact h

-- A body read within a room decodes the same way, or goes past a limit of the reader.
theorem decodeOutcome_decodeBodyWithin (hr : r.atMostZero = false) (hnan : r.isNaN = false)
    (room : Nat) (body : Body) :
    DecodeOutcome r q (decodeBodyWithin room r q (some body)).outcome ∨
      ∃ l, (decodeBodyWithin room r q (some body)).outcome = .error (.exceeds l) := by
  simp only [decodeBodyWithin]
  split
  · exact .inl (.inl ⟨_, rfl⟩)
  · split
    · exact .inr ⟨_, rfl⟩
    · exact .inl (.inl ⟨_, rfl⟩)
    · exact .inl (.inl ⟨_, rfl⟩)
    · exact .inl (decodeOutcome_decodeWithin hr hnan room _)

end Outcome

-- With the least positive float as resolution, one over it is past the largest float: the quotient
-- is infinite before it is rounded, and decoding a well-formed response fails with an overflow.
theorem decode_overflows_on_least_subnormal_grid :
    (Number.float (Float.ofBits 1)).atMostZero = false ∧
      (Request.decode (.float (Float.ofBits 1)) "" (.object [("data", .object [("result", .array
        [.object [("metric", .object []), ("value", .array [.int 1, .str "1"])]])])])).outcome =
        .error (.arith .infinityToInt) :=
  ⟨by decide, by rfl⟩

-- On a float grid a timestamp may leave the finite range: 1.7e308 on the grid of 1e308 is two
-- steps of the grid, and two times 1e308 is past the largest float. Decoding succeeds, with one
-- series of one sample whose timestamp is infinite.
theorem decode_snaps_past_largest_float_on_float_grid :
    (Number.float (Float.ofBits 0x7FE1CCF385EBC8A0)).atMostZero = false ∧
      Option.map (fun rs => rs.series.map fun s => s.samples.map fun x =>
          Binary64.isInfinite x.timestamp)
        (Request.decode (.float (Float.ofBits 0x7FE1CCF385EBC8A0)) "" (.object [("data", .object
          [("result", .array [.object [("metric", .object []), ("value",
            .array [.float (Float.ofBits 0x7FEE42D130773B76), .str "1"])]])])])).outcome.toOption =
        some [[true]] :=
  ⟨by decide, by decide⟩

-- Under a decoder whose resolution is no NaN, decoding a response or a body ends with a result set
-- of finite values (finite timestamps too on an integer grid), a decoding fault, an overflow
-- snapping a timestamp, or a document too deep for a fault's message; a body may also go past a
-- limit of the reader. A zero divisor never occurs.
theorem decode_fails_only_by_decoding_overflow_or_depth (d : Decoder)
    (hnan : d.resolution.isNaN = false) :
    (∀ q raw, DecodeOutcome d.resolution q (Request.decode d.resolution q raw).outcome) ∧
      ∀ q (body : Body),
        DecodeOutcome d.resolution q (Request.decodeBody d.resolution q (some body)).outcome ∨
          ∃ l, (Request.decodeBody d.resolution q (some body)).outcome = .error (.exceeds l) :=
  ⟨fun _ raw => decodeOutcome_decodeWithin d.accepted hnan Request.room raw,
    fun _ body => decodeOutcome_decodeBodyWithin d.accepted hnan Request.room body⟩

theorem decode_fails_only_by_decoding_overflow_or_depth_standard :
    Decoder.standard.resolution.isNaN = false ∧
      (∀ q raw, DecodeOutcome Decoder.standard.resolution q
          (Request.decode Decoder.standard.resolution q raw).outcome) ∧
        ∀ q (body : Body),
          DecodeOutcome Decoder.standard.resolution q
              (Request.decodeBody Decoder.standard.resolution q (some body)).outcome ∨
            ∃ l, (Request.decodeBody Decoder.standard.resolution q (some body)).outcome =
              .error (.exceeds l) :=
  ⟨rfl, decode_fails_only_by_decoding_overflow_or_depth Decoder.standard rfl⟩

end Response

end SeriesDecoding

import Mathlib
import SeriesDecoding.Handoff

namespace SeriesDecoding

namespace Handoff

-- The handoff after a run of steps.
def after (h : Handoff) (xs : List Step) : Handoff := xs.foldl (fun h x => (h.step x).1) h

namespace Step

-- The outcome a step hands to the slot, if it gets that far: a decoded result set, a complaint, or
-- the outcome of a decoding published whatever it is. Asking, collecting, an offer that is not a
-- result set, a decoder refused and a result set that fails to decode publish nothing.
def publication? : Step → Option (Except Fault ResultSet)
  | .setResult q raw r =>
    match Decoder.make r with
    | .error _ => none
    | .ok d =>
      match (Response.decodeWithin decodeRoom d.resolution q raw).outcome with
      | .error _ => none
      | .ok rs => some (.ok rs)
  | .offer _ => none
  | .complain kind message => some (.error (.complaint kind message))
  | .publishDecoded q raw r =>
    match Decoder.make r with
    | .error _ => none
    | .ok d => some (Response.decodeWithin decodeRoom d.resolution q raw).outcome
  | .done | .result => none

def isResult : Step → Bool
  | .result => true
  | _ => false

theorem isResult_of_publication {x : Step} {o : Except Fault ResultSet}
    (hx : x.publication? = some o) : x.isResult = false := by
  cases x <;> simp_all [publication?, isResult]

end Step

-- The first outcome published in a run of steps.
def firstPublication (xs : List Step) : Option (Except Fault ResultSet) :=
  xs.findSome? Step.publication?

-- Whether a run of steps collects after its first publication.
def collectedAfter : List Step → Bool
  | [] => false
  | x :: xs => if x.publication?.isSome then xs.any Step.isResult else collectedAfter xs

-- The handoff that a run of steps leaves by the rules: waiting until something is published, then
-- holding the first outcome published until a later step collects it, and collected after that.
def expected (xs : List Step) : Handoff :=
  match firstPublication xs with
  | none => .waiting
  | some o => if collectedAfter xs then .collected else .ready o

theorem firstPublication_append (xs : List Step) (x : Step) :
    firstPublication (xs ++ [x]) = (firstPublication xs).or x.publication? := by
  simp [firstPublication, List.findSome?_append]

theorem collectedAfter_of_firstPublication {xs : List Step} (h : firstPublication xs = none) :
    collectedAfter xs = false := by
  induction xs with
  | nil => rfl
  | cons y xs ih =>
    simp only [firstPublication, List.findSome?_eq_none_iff, List.mem_cons,
      forall_eq_or_imp] at h
    simp [collectedAfter, h.1, ih (List.findSome?_eq_none_iff.mpr h.2)]

-- A step collects after the first publication when a collection came after it before, or the step
-- is a collection and something was published.
theorem collectedAfter_append (xs : List Step) (x : Step) :
    collectedAfter (xs ++ [x]) =
      (collectedAfter xs || (firstPublication xs).isSome && x.isResult) := by
  induction xs with
  | nil => simp [collectedAfter, firstPublication]
  | cons y xs ih =>
    by_cases hy : y.publication?.isSome
    · obtain ⟨o, ho⟩ := Option.isSome_iff_exists.mp hy
      simp [collectedAfter, firstPublication, ho]
    · have hnone : y.publication? = none := by simpa using hy
      simp [collectedAfter, ih, firstPublication, hnone]

-- What a step can do to the slot: publish, with its outcome; be refused before publishing, with a
-- fault of its own whatever the state; ask whether something is published; or collect.
theorem step_of_publication {x : Step} {o : Except Fault ResultSet}
    (hx : x.publication? = some o) (h : Handoff) : h.step x = h.settle (h.publish o) := by
  cases x with
  | setResult q raw r =>
    cases hd : Decoder.make r with
    | error e => simp [Step.publication?, hd] at hx
    | ok d =>
      cases hrs : (Response.decodeWithin decodeRoom d.resolution q raw).outcome with
      | error e => simp [Step.publication?, hd, hrs] at hx
      | ok rs =>
        simp only [Step.publication?, hd, hrs, Option.some.injEq] at hx
        simp [step, hd, hrs, offer, ← hx]
  | offer v => simp [Step.publication?] at hx
  | complain kind message =>
    simp only [Step.publication?, Option.some.injEq] at hx
    simp [step, hx]
  | publishDecoded q raw r =>
    cases hd : Decoder.make r with
    | error e => simp [Step.publication?, hd] at hx
    | ok d =>
      simp only [Step.publication?, hd, Option.some.injEq] at hx
      simp [step, hd, publishDecoded, hx]
  | done | result => simp [Step.publication?] at hx

theorem step_of_no_publication {x : Step} (hx : x.publication? = none) (hd : x ≠ .done)
    (hr : x.isResult = false) : ∃ e, ∀ h : Handoff, h.step x = (h, .error e) := by
  cases x with
  | setResult q raw r =>
    cases hm : Decoder.make r with
    | error e => exact ⟨e, fun h => by simp [step, hm]⟩
    | ok d =>
      cases hrs : (Response.decodeWithin decodeRoom d.resolution q raw).outcome with
      | error e => exact ⟨e, fun h => by simp [step, hm, hrs]⟩
      | ok rs => simp [Step.publication?, hm, hrs] at hx
  | offer v => exact ⟨.notResultSet v.kindName, fun h => rfl⟩
  | complain kind message => simp [Step.publication?] at hx
  | publishDecoded q raw r =>
    cases hm : Decoder.make r with
    | error e => exact ⟨e, fun h => by simp [step, hm]⟩
    | ok d => simp [Step.publication?, hm] at hx
  | done => exact absurd rfl hd
  | result => simp [Step.isResult] at hr

-- A publication that takes effect leaves a slot that holds one; any other step leaves the slot
-- as it was, except collecting.
theorem step_done_or_same (h : Handoff) {x : Step} (hr : x.isResult = false) :
    ((h.step x).2 = .ok .done ∧ (h.step x).1.isDone = true) ∨
      ((h.step x).2 ≠ .ok .done ∧ (h.step x).1 = h) := by
  by_cases hp : x.publication?.isSome
  · obtain ⟨o, ho⟩ := Option.isSome_iff_exists.mp hp
    rw [step_of_publication ho]
    cases h with
    | waiting => exact .inl ⟨rfl, rfl⟩
    | ready _ => exact .inr ⟨by simp [publish, settle], rfl⟩
    | collected => exact .inr ⟨by simp [publish, settle], rfl⟩
  · have hnone : x.publication? = none := by simpa using hp
    by_cases hd : x = .done
    · subst hd
      exact .inr ⟨by simp [step], rfl⟩
    · obtain ⟨e, he⟩ := step_of_no_publication hnone hd hr
      exact .inr ⟨by simp [he], by simp [he]⟩

theorem isDone_expected (xs : List Step) :
    (expected xs).isDone = (firstPublication xs).isSome := by
  cases hf : firstPublication xs with
  | none => simp [expected, hf, isDone]
  | some o =>
    simp only [expected, hf, Option.isSome_some]
    split <;> rfl

theorem step_expected_of_publication (xs : List Step) {x : Step} {o : Except Fault ResultSet}
    (ho : x.publication? = some o) : ((expected xs).step x).1 = expected (xs ++ [x]) := by
  have hr := Step.isResult_of_publication ho
  rw [step_of_publication ho]
  cases hf : firstPublication xs with
  | none =>
    simp [expected, hf, collectedAfter_of_firstPublication hf, publish, settle,
      firstPublication_append, collectedAfter_append, ho]
  | some o' =>
    -- a later publication is refused and leaves the slot as it was
    unfold expected
    simp only [hf, firstPublication_append, collectedAfter_append, hr, Option.some_or,
      Option.isSome_some, Bool.and_false, Bool.or_false]
    split <;> rfl

theorem step_expected_result (xs : List Step) :
    ((expected xs).step .result).1 = expected (xs ++ [.result]) := by
  have hnone : Step.publication? .result = none := rfl
  cases hf : firstPublication xs with
  | none => simp [step, expected, hf, collect, firstPublication_append, hnone]
  | some o =>
    -- once something is published, every collection leaves the handoff collected
    unfold expected
    simp only [hf, firstPublication_append, collectedAfter_append, Option.some_or,
      Option.isSome_some, Step.isResult, Bool.and_true, Bool.or_true, if_true]
    split <;> rfl

-- The step lemma of the rules: a step takes the handoff a run leaves to the one that the run with
-- the step leaves.
theorem step_expected (xs : List Step) (x : Step) :
    ((expected xs).step x).1 = expected (xs ++ [x]) := by
  cases hp : x.publication? with
  | some o => exact step_expected_of_publication xs hp
  | none =>
    by_cases hd : x = .done
    · subst hd
      simp [step, expected, firstPublication_append, collectedAfter_append, Step.isResult, hp]
    · cases hres : x.isResult with
      | false =>
        -- refused before publishing: nothing changes, on either side
        obtain ⟨e, he⟩ := step_of_no_publication hp hd hres
        simp [he, expected, firstPublication_append, collectedAfter_append, hres, hp]
      | true =>
        have hx : x = .result := by cases x <;> simp_all [Step.isResult]
        subst hx
        exact step_expected_result xs

theorem after_append_singleton (h : Handoff) (xs : List Step) (x : Step) :
    h.after (xs ++ [x]) = ((h.after xs).step x).1 := by
  simp only [after, List.foldl_append, List.foldl_cons, List.foldl_nil]

-- The run lemma: the handoff after any run is the one the rules give.
theorem waiting_after (xs : List Step) : Handoff.waiting.after xs = expected xs := by
  induction xs using List.reverseRecOn with
  | nil => rfl
  | append_singleton xs x ih => rw [after_append_singleton, ih, step_expected]

end Handoff

namespace AsyncHandoff

open Handoff

-- The asyncio handoff after a run of steps.
def after (a : AsyncHandoff) (xs : List Step) : AsyncHandoff :=
  xs.foldl (fun a x => (a.step x).1) a

theorem after_append_singleton (a : AsyncHandoff) (xs : List Step) (x : Step) :
    a.after (xs ++ [x]) = ((a.after xs).step x).1 := by
  simp only [after, List.foldl_append, List.foldl_cons, List.foldl_nil]

-- The event of an asyncio handoff is set exactly when its slot holds a publication, and while it
-- is, the two flavours agree step by step.
def Mirrors (a : AsyncHandoff) : Prop := a.event = a.slot.isDone

-- A step other than collecting acts on the slot alone, and sets the event when it publishes.
theorem step_of_not_result (a : AsyncHandoff) {x : Step} (hx : x.isResult = false) :
    (a.step x).1.slot = (a.slot.step x).1 ∧ (a.step x).2 = (a.slot.step x).2 ∧
      ((a.step x).1.event = true ↔ a.event = true ∨ (a.slot.step x).2 = .ok .done) := by
  cases x
  case result => simp [Step.isResult] at hx
  all_goals
    refine ⟨rfl, rfl, ?_⟩
    simp only [AsyncHandoff.step, Bool.or_eq_true]
    generalize (a.slot.step _).2 = r
    rcases r with e | _ | _ | _ <;> simp

-- The simulation step: a mirroring asyncio handoff gives the reply of the thread-blocking one on
-- its slot, moves its slot as that one moves, and still mirrors.
theorem Mirrors.step {a : AsyncHandoff} (hm : a.Mirrors) (x : Step) :
    (a.step x).2 = (a.slot.step x).2 ∧ (a.step x).1.slot = (a.slot.step x).1 ∧
      (a.step x).1.Mirrors := by
  cases hx : x.isResult with
  | true =>
    -- collecting: the event stands in for the slot's own test of a publication
    have hx' : x = .result := by cases x <;> simp_all [Step.isResult]
    subst hx'
    obtain ⟨slot, event⟩ := a
    simp only [Mirrors] at hm
    subst hm
    cases slot <;> simp [AsyncHandoff.step, collect, Handoff.step, Handoff.collect, Mirrors,
      isDone]
  | false =>
    obtain ⟨hslot, hreply, hevent⟩ := step_of_not_result a hx
    refine ⟨hreply, hslot, ?_⟩
    unfold Mirrors
    rw [hslot, Bool.eq_iff_iff, hevent]
    rcases Handoff.step_done_or_same a.slot hx with ⟨hd, hdone⟩ | ⟨hd, hsame⟩
    · simp [hd, hdone]
    · simp only [hd, hsame, or_false]
      exact Bool.eq_iff_iff.mp hm

-- The run lemma: after any run, the asyncio handoff mirrors, with the slot the thread-blocking one
-- has.
theorem fresh_after (xs : List Step) :
    (fresh.after xs).slot = Handoff.waiting.after xs ∧ (fresh.after xs).Mirrors := by
  induction xs using List.reverseRecOn with
  | nil => exact ⟨rfl, rfl⟩
  | append_singleton xs x ih =>
    obtain ⟨hslot, hm⟩ := ih
    obtain ⟨-, hs, hm'⟩ := hm.step x
    rw [after_append_singleton, Handoff.after_append_singleton, ← hslot]
    exact ⟨hs, hm'⟩

-- Two mirroring asyncio handoffs with one slot are one handoff: the event follows the slot.
theorem Mirrors.ext {a b : AsyncHandoff} (ha : a.Mirrors) (hb : b.Mirrors)
    (hslot : a.slot = b.slot) : a = b := by
  obtain ⟨slot, event⟩ := a
  obtain ⟨slot', event'⟩ := b
  simp only [Mirrors] at ha hb
  simp only at hslot
  subst hslot ha hb
  rfl

-- After any run, the asyncio handoff steps as the thread-blocking one does: the same reply, the
-- same slot after, and the event set exactly when the slot holds a publication.
theorem step_fresh_after (xs : List Step) (x : Step) :
    ((fresh.after xs).step x).2 = ((Handoff.waiting.after xs).step x).2 ∧
      (fresh.after xs).step x =
        (⟨((Handoff.waiting.after xs).step x).1, ((Handoff.waiting.after xs).step x).1.isDone⟩,
          ((Handoff.waiting.after xs).step x).2) := by
  obtain ⟨hslot, hm⟩ := fresh_after xs
  obtain ⟨hreply, hs, hm'⟩ := hm.step x
  rw [hslot] at hreply hs
  refine ⟨hreply, Prod.ext (hm'.ext rfl hs) hreply⟩

end AsyncHandoff

theorem Decoder.make_resolution (d : Decoder) : Decoder.make d.resolution = .ok d := by
  simp [Decoder.make, d.accepted]

open Handoff

theorem Handoff.Step.publication_publishDecoded (d : Decoder) (q : Text) (raw : Document) :
    (Step.publishDecoded q raw d.resolution).publication? =
      some (Response.decodeWithin decodeRoom d.resolution q raw).outcome := by
  simp [Step.publication?, Decoder.make_resolution]

-- A step that publishes `o` after a run: it takes effect when nothing was published before, and is
-- refused with the handoff unchanged otherwise.
theorem Handoff.step_after_of_publication (past : List Step) {x : Step}
    {o : Except Fault ResultSet} (hx : x.publication? = some o) :
    (waiting.after past).step x =
      if (firstPublication past).isSome then (waiting.after past, .error .alreadyPublished)
      else (.ready o, .ok .done) := by
  rw [waiting_after, step_of_publication hx]
  cases hf : firstPublication past with
  | none => simp [expected, hf, publish, settle]
  | some o' =>
    simp only [expected, hf, Option.isSome_some, if_true]
    split <;> rfl

-- Collecting after a run: refused, collecting nothing, before any publication; the outcome first
-- published at the first collection after it; refused after that.
theorem Handoff.step_after_result (past : List Step) :
    (waiting.after past).step .result =
      (firstPublication past).elim (.waiting, .error .notPublished) fun o =>
        if collectedAfter past then (.collected, .error .alreadyCollected)
        else (.collected, o.map fun rs => .series rs.series) := by
  rw [waiting_after]
  cases hf : firstPublication past with
  | none => simp [expected, hf, step, collect, Except.map]
  | some o =>
    simp only [expected, hf, Option.elim_some]
    split
    · rfl
    · cases o <;> rfl

-- A one-shot handoff after any run of steps. A step that publishes takes effect only when nothing
-- was published before, and is refused otherwise with the handoff unchanged; an offer that is not a
-- result set is refused first, in any state, with the handoff unchanged. Asking tells whether a
-- publication took effect. Collecting before any publication is refused and collects nothing; the
-- first collection after it gets the outcome first published and leaves a handoff that holds
-- nothing; every later one is refused. The asyncio flavour gives the same reply at every step, with
-- the same slot, its event set exactly when a publication took effect.
theorem handoff_publishes_first_and_collects_once (past : List Step) :
    (∀ x o, x.publication? = some o →
      (waiting.after past).step x =
        if (firstPublication past).isSome then (waiting.after past, .error .alreadyPublished)
        else (.ready o, .ok .done)) ∧
    (∀ v, (waiting.after past).step (.offer v) =
      (waiting.after past, .error (.notResultSet v.kindName))) ∧
    ((waiting.after past).step .done).2 = .ok (.published (firstPublication past).isSome) ∧
    (waiting.after past).step .result =
      (firstPublication past).elim (.waiting, .error .notPublished) (fun o =>
        if collectedAfter past then (.collected, .error .alreadyCollected)
        else (.collected, o.map fun rs => .series rs.series)) ∧
    ((AsyncHandoff.fresh.after past).slot = waiting.after past ∧
      (AsyncHandoff.fresh.after past).event = (firstPublication past).isSome ∧
      ∀ x, ((AsyncHandoff.fresh.after past).step x).2 = ((waiting.after past).step x).2) := by
  obtain ⟨hslot, hm⟩ := AsyncHandoff.fresh_after past
  refine ⟨fun x o hx => step_after_of_publication past hx, fun v => rfl, ?_,
    step_after_result past, hslot, ?_, fun x => (AsyncHandoff.step_fresh_after past x).1⟩
  · simp [step, waiting_after, isDone_expected]
  · rw [hm, hslot, waiting_after, isDone_expected]

-- Publishing a decoding on a handoff of either flavour, after any run of steps. The decoding runs
-- once, and the warnings sent are those of that one decoding. Where nothing was published, its
-- outcome is published, a result set or whatever fault the decoding ends in, and the next
-- collection gets exactly that outcome. Where something was, the step is refused and the handoff is
-- left as it was.
theorem publish_decoded_hands_over_its_decoding (past : List Step) (d : Decoder) (q : Text)
    (raw : Document) :
    ((waiting.after past).publishDecoded d q raw).warnings =
      (Response.decodeWithin decodeRoom d.resolution q raw).warnings ∧
    (waiting.after past).step (.publishDecoded q raw d.resolution) =
      (if (firstPublication past).isSome then (waiting.after past, .error .alreadyPublished)
      else (.ready (Response.decodeWithin decodeRoom d.resolution q raw).outcome, .ok .done)) ∧
    ((waiting.after (past ++ [.publishDecoded q raw d.resolution])).step .result).2 =
      (if (firstPublication past).isSome then ((waiting.after past).step .result).2
      else (Response.decodeWithin decodeRoom d.resolution q raw).outcome.map
        fun rs => .series rs.series) ∧
    (AsyncHandoff.fresh.after past).step (.publishDecoded q raw d.resolution) =
      (if (firstPublication past).isSome then
        (AsyncHandoff.fresh.after past, .error .alreadyPublished)
      else (⟨.ready (Response.decodeWithin decodeRoom d.resolution q raw).outcome, true⟩,
        .ok .done)) ∧
    ((AsyncHandoff.fresh.after (past ++ [.publishDecoded q raw d.resolution])).step .result).2 =
      (if (firstPublication past).isSome then ((AsyncHandoff.fresh.after past).step .result).2
      else (Response.decodeWithin decodeRoom d.resolution q raw).outcome.map
        fun rs => .series rs.series) := by
  have hpub := Step.publication_publishDecoded d q raw
  have hstep := step_after_of_publication past hpub
  -- the next collection on the thread-blocking handoff
  have hnext : ((waiting.after (past ++ [.publishDecoded q raw d.resolution])).step .result).2 =
      (if (firstPublication past).isSome then ((waiting.after past).step .result).2
      else (Response.decodeWithin decodeRoom d.resolution q raw).outcome.map
        fun rs => .series rs.series) := by
    rw [after_append_singleton, hstep]
    split
    · rfl
    · cases (Response.decodeWithin decodeRoom d.resolution q raw).outcome <;> rfl
  obtain ⟨-, hasync⟩ := AsyncHandoff.step_fresh_after past (.publishDecoded q raw d.resolution)
  obtain ⟨hslot, hm⟩ := AsyncHandoff.fresh_after past
  refine ⟨rfl, hstep, hnext, ?_, ?_⟩
  · rw [hasync, hstep]
    split
    · exact Prod.ext (AsyncHandoff.Mirrors.ext rfl hm hslot.symm) rfl
    · rfl
  · rw [(AsyncHandoff.step_fresh_after _ .result).1, (AsyncHandoff.step_fresh_after _ .result).1,
      hnext]

end SeriesDecoding

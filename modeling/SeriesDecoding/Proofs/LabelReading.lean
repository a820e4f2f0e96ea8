import Mathlib
import SeriesDecoding.Labels.Access
import SeriesDecoding.Proofs.LabelText

namespace SeriesDecoding

namespace Labels

variable (labels : List (Text × Document))

section Strings

-- Leaving out one item commutes with keeping first occurrences.
theorem eraseDups_filter_ne {α : Type} [BEq α] [LawfulBEq α] (a : α) (as : List α) :
    (as.filter fun b => !b == a).eraseDups = as.eraseDups.filter fun b => !b == a := by
  match as with
  | [] => rfl
  | x :: xs =>
    -- the recursion is on the rest without `x`, as in `List.eraseDups_cons`
    have hshorter : (xs.filter fun b => !b == x).length < xs.length + 1 :=
      Nat.lt_add_one_of_le (List.length_filter_le _ xs)
    by_cases hx : x = a
    · subst hx
      rw [List.eraseDups_cons, List.filter_cons_of_neg (by simp), List.filter_cons_of_neg (by simp),
        ← eraseDups_filter_ne x (xs.filter fun b => !b == x), List.filter_filter]
      simp
    · rw [List.filter_cons_of_pos (by simpa using hx), List.eraseDups_cons, List.eraseDups_cons,
        List.filter_cons_of_pos (by simpa using hx), ← eraseDups_filter_ne a (xs.filter _),
        List.filter_filter, List.filter_filter]
      congr 3
      funext b
      rw [Bool.and_comm]
termination_by as.length

-- The fault of reading `field` as a text: it is missing, or its value is not a text.
def Refusal (field : Text) (f : Fault) : Prop :=
  (Document.lookup labels field = none ∧ f = .labelMissing field) ∨
    (∃ d, Document.lookup labels field = some d ∧ (∀ s, d ≠ .str s) ∧ f = .labelFormat field)

variable {labels}

theorem string_eq_ok_iff {field s : Text} :
    string labels field = .ok s ↔ Document.lookup labels field = some (.str s) := by
  unfold string
  split <;> simp_all

theorem string_eq_error_iff {field : Text} {f : Fault} :
    string labels field = .error f ↔ Refusal labels field f := by
  unfold string Refusal
  cases Document.lookup labels field with
  | none => simp [eq_comm]
  | some d => cases d <;> simp [eq_comm]

-- A successful reading holds each field named once, in order of first mention, with its text.
theorem strings_eq_ok {fields : List Text} {m : List (Text × Text)}
    (h : strings labels fields = .ok m) :
    m.map Prod.fst = fields.eraseDups ∧ ∀ e ∈ m, Document.lookup labels e.1 = some (.str e.2) := by
  induction fields generalizing m with
  | nil =>
    simp only [strings, Except.ok.injEq] at h
    simp [← h]
  | cons field fields ih =>
    simp only [strings] at h
    cases hs : string labels field with
    | error f => simp [hs] at h; cases h
    | ok v =>
      cases hr : strings labels fields with
      | error f => simp [hs, hr] at h; cases h
      | ok rest =>
        simp only [hs, hr, bind, Except.bind, pure, Except.pure, Except.ok.injEq] at h
        subst h
        obtain ⟨hkeys, hvals⟩ := ih hr
        refine ⟨?_, ?_⟩
        · rw [List.eraseDups_cons, eraseDups_filter_ne, ← hkeys, List.filter_map]
          rfl
        · intro e he
          rcases List.mem_cons.mp he with rfl | he
          · exact string_eq_ok_iff.mp hs
          · exact hvals e (List.mem_filter.mp he).1

-- The reading succeeds when every field named is a text.
theorem exists_strings_eq_ok {fields : List Text}
    (h : ∀ field ∈ fields, ∃ s, Document.lookup labels field = some (.str s)) :
    ∃ m, strings labels fields = .ok m := by
  induction fields with
  | nil => exact ⟨[], rfl⟩
  | cons field fields ih =>
    obtain ⟨⟨v, hv⟩, h⟩ := List.forall_mem_cons.mp h
    obtain ⟨rest, hr⟩ := ih h
    exact ⟨(field, v) :: rest.filter (·.1 != field), by
      simp [strings, string_eq_ok_iff.mpr hv, hr, bind, Except.bind, pure, Except.pure]⟩

-- Text maps with the same keys whose values are the labels' texts are one map.
theorem eq_of_keys_eq {m m' : List (Text × Text)} (hk : m.map Prod.fst = m'.map Prod.fst)
    (hm : ∀ e ∈ m, Document.lookup labels e.1 = some (.str e.2))
    (hm' : ∀ e ∈ m', Document.lookup labels e.1 = some (.str e.2)) : m = m' := by
  induction m generalizing m' with
  | nil => exact (List.map_eq_nil_iff.mp hk.symm).symm
  | cons e m ih =>
    cases m' with
    | nil => exact absurd hk (by simp)
    | cons e' m' =>
      simp only [List.map_cons, List.cons.injEq] at hk
      obtain ⟨he, hm⟩ := List.forall_mem_cons.mp hm
      obtain ⟨he', hm'⟩ := List.forall_mem_cons.mp hm'
      -- the first keys agree, so the first values are both the text of that label
      have hval : Document.str e.2 = .str e'.2 := by
        rw [hk.1, he'] at he
        exact (Option.some.inj he).symm
      have hee : e = e' := Prod.ext hk.1 (by simpa using hval)
      rw [hee, ih hk.2 hm hm']

-- A reading fails exactly at the first field refused, with that field's fault.
theorem strings_eq_error_iff {fields : List Text} {f : Fault} :
    strings labels fields = .error f ↔
      ∃ before field after, fields = before ++ field :: after ∧
        (∀ g ∈ before, ∃ s, Document.lookup labels g = some (.str s)) ∧ Refusal labels field f := by
  induction fields with
  | nil => simp [strings]
  | cons g fields ih =>
    simp only [List.cons_eq_append_iff]
    cases hs : string labels g with
    | error e =>
      simp only [strings, hs, bind, Except.bind, Except.error.injEq]
      constructor
      · rintro rfl
        exact ⟨[], g, fields, Or.inl ⟨rfl, rfl⟩, nofun, string_eq_error_iff.mp hs⟩
      · rintro ⟨before, field, after, ⟨rfl, h⟩ | ⟨before, rfl, -⟩, hbefore, hrefusal⟩
        · -- the first field is the one refused
          simp only [List.cons.injEq] at h
          rw [← h.1, string_eq_error_iff.mpr hrefusal] at hs
          exact Except.error.inj hs.symm
        · -- the first field would have been read
          obtain ⟨s, hg⟩ := hbefore g List.mem_cons_self
          rw [string_eq_ok_iff.mpr hg] at hs
          cases hs
    | ok v =>
      have hrest : strings labels (g :: fields) = .error f ↔ strings labels fields = .error f := by
        simp only [strings, hs, bind, Except.bind]
        cases strings labels fields <;> simp [pure, Except.pure]
      rw [hrest, ih]
      constructor
      · rintro ⟨before, field, after, rfl, hbefore, hrefusal⟩
        exact ⟨g :: before, field, after, Or.inr ⟨before, rfl, rfl⟩,
          List.forall_mem_cons.mpr ⟨⟨v, string_eq_ok_iff.mp hs⟩, hbefore⟩, hrefusal⟩
      · rintro ⟨before, field, after, ⟨rfl, h⟩ | ⟨before, rfl, rfl⟩, hbefore, hrefusal⟩
        · simp only [List.cons.injEq] at h
          rw [← h.1, string_eq_error_iff.mpr hrefusal] at hs
          cases hs
        · exact ⟨before, field, after, rfl, (List.forall_mem_cons.mp hbefore).2, hrefusal⟩

-- Reading several labels as texts gives every one of them, keyed by name in order of first
-- mention, exactly when each is present with a text value; otherwise it fails with the fault of the
-- first one that is missing or not a text.
variable (labels) in
theorem strings_reads_all_or_first_refused (fields : List Text) :
    (∀ m, strings labels fields = .ok m ↔
      (∀ field ∈ fields, ∃ s, Document.lookup labels field = some (.str s)) ∧
        m.map Prod.fst = fields.eraseDups ∧
        ∀ e ∈ m, Document.lookup labels e.1 = some (.str e.2)) ∧
    (∀ f, strings labels fields = .error f ↔
      ∃ before field after, fields = before ++ field :: after ∧
        (∀ g ∈ before, ∃ s, Document.lookup labels g = some (.str s)) ∧
        Refusal labels field f) := by
  refine ⟨fun m => ⟨fun h => ?_, fun ⟨hall, hkeys, hvals⟩ => ?_⟩, fun f => strings_eq_error_iff⟩
  · -- every field named is a key of the result, whose value is the field's text
    obtain ⟨hkeys, hvals⟩ := strings_eq_ok h
    refine ⟨fun field hfield => ?_, hkeys, hvals⟩
    have hkey : field ∈ m.map Prod.fst := hkeys ▸ List.mem_eraseDups.mpr hfield
    obtain ⟨e, he, rfl⟩ := List.mem_map.mp hkey
    exact ⟨e.2, hvals e he⟩
  · obtain ⟨m', hm'⟩ := exists_strings_eq_ok hall
    obtain ⟨hkeys', hvals'⟩ := strings_eq_ok hm'
    rw [hm', eq_of_keys_eq (hkeys'.trans hkeys.symm) hvals' hvals]

end Strings

section Prefixed

variable {labels}

-- A label read under a prefix: its name after the prefix and its text, when its key has the prefix
-- and its value is a text.
def keptEntry (pfx : Text) (e : Text × Document) : Option (Text × Text) :=
  if e.1.startsWith pfx then
    match e.2 with
    | .str s => some (e.1.drop pfx.length, s)
    | _ => none
  else none

-- The warning for a label skipped under a prefix: its key has the prefix and its value is not a
-- text.
def skippedEntry (pfx : Text) (e : Text × Document) : Option LogEntry :=
  if e.1.startsWith pfx then
    match e.2 with
    | .str _ => none
    | _ => some (skipped pfx (e.1.drop pfx.length))
  else none

theorem prefixed_eq (pfx : Text) :
    prefixed labels pfx =
      (labels.filterMap (keptEntry pfx), labels.filterMap (skippedEntry pfx)) := by
  induction labels with
  | nil => rfl
  | cons e rest ih =>
    obtain ⟨k, v⟩ := e
    unfold prefixed
    rw [ih]
    by_cases hk : k.startsWith pfx
    · cases v <;> simp [keptEntry, skippedEntry, hk]
    · simp [keptEntry, skippedEntry, hk]

theorem eq_append_drop_of_startsWith {k pfx : Text} (h : k.startsWith pfx = true) :
    k.points = pfx.points ++ (k.drop pfx.length).points := by
  have hpre : pfx.points <+: k.points := List.isPrefixOf_iff_prefix.mp h
  exact (List.prefix_iff_eq_append.mp hpre).symm

-- Two keys with the prefix that leave the same name after it are one key.
theorem eq_of_drop_eq {k₁ k₂ pfx : Text} (h₁ : k₁.startsWith pfx = true)
    (h₂ : k₂.startsWith pfx = true) (h : k₁.drop pfx.length = k₂.drop pfx.length) : k₁ = k₂ := by
  ext1
  rw [eq_append_drop_of_startsWith h₁, eq_append_drop_of_startsWith h₂, h]

theorem keptEntry_eq_some {pfx : Text} {e : Text × Document} {x : Text × Text}
    (h : keptEntry pfx e = some x) :
    e.1.startsWith pfx = true ∧ x.1 = e.1.drop pfx.length ∧ e.2 = .str x.2 := by
  unfold keptEntry at h
  split at h
  · split at h
    · cases h
      exact ⟨‹_›, rfl, ‹_›⟩
    · cases h
  · cases h

-- Names after a prefix that every kept key has are distinct when the keys are.
theorem nodup_kept (pfx : Text) (hk : (labels.map Prod.fst).Nodup) :
    ((labels.filterMap (keptEntry pfx)).map Prod.fst).Nodup := by
  induction labels with
  | nil => simp
  | cons e rest ih =>
    rw [List.map_cons, List.nodup_cons] at hk
    cases he : keptEntry pfx e with
    | none => simpa [List.filterMap_cons, he] using ih hk.2
    | some x =>
      simp only [List.filterMap_cons, he, List.map_cons, List.nodup_cons]
      refine ⟨fun hmem => hk.1 ?_, ih hk.2⟩
      -- a later label with the same name would have the same key
      obtain ⟨y, hy, hname⟩ := List.mem_map.mp hmem
      obtain ⟨e', he', hy'⟩ := List.mem_filterMap.mp hy
      obtain ⟨hs, hx, -⟩ := keptEntry_eq_some he
      obtain ⟨hs', hy'', -⟩ := keptEntry_eq_some hy'
      have hkey : e'.1 = e.1 := eq_of_drop_eq hs' hs (by rw [← hy'', ← hx, hname])
      exact List.mem_map.mpr ⟨e', he', hkey⟩

-- Setting a key that is not there puts it at the end.
theorem setField_of_not_mem {entries : List (Text × Document)} {k : Text}
    (v : Document) (hk : k ∉ entries.map Prod.fst) :
    Document.setField entries k v = entries ++ [(k, v)] := by
  induction entries with
  | nil => rfl
  | cons e rest ih =>
    obtain ⟨k', v'⟩ := e
    simp only [List.map_cons, List.mem_cons, not_or] at hk
    simp [Document.setField, Ne.symm hk.1, ih hk.2]

-- Setting keys that are all new, one after another, adds each at the end.
theorem foldl_setField_of_nodup (entries acc : List (Text × Document))
    (hk : ((acc ++ entries).map Prod.fst).Nodup) :
    entries.foldl (fun acc e => Document.setField acc e.1 e.2) acc = acc ++ entries := by
  induction entries generalizing acc with
  | nil => simp
  | cons e rest ih =>
    have hnew : e.1 ∉ acc.map Prod.fst := by
      rw [List.map_append, List.map_cons, List.nodup_append] at hk
      exact fun hmem => hk.2.2 e.1 hmem e.1 List.mem_cons_self rfl
    rw [List.foldl_cons, setField_of_not_mem e.2 hnew, ih _ (by simpa using hk)]
    simp

-- An object read from entries with no key twice holds them all, in order.
theorem ofEntries_of_nodup {entries : List (Text × Document)} (hk : (entries.map Prod.fst).Nodup) :
    Document.ofEntries entries = entries := by
  unfold Document.ofEntries
  simpa using foldl_setField_of_nodup entries [] (by simpa using hk)

-- The labels whose keys have a prefix and whose values are texts are read under their names after
-- the prefix, in their order, and each one whose value is not a text is skipped with a warning
-- naming it. For labels with distinct keys the names are distinct, since stripping a prefix that
-- every key has loses nothing, so building the reading into an object keeps every entry in place,
-- one for each label read. The labels proper and the annotations are the readings under `label_`
-- and `annotation_`.
variable (labels) in
theorem prefixed_keeps_texts_under_their_names (pfx : Text) (hk : (labels.map Prod.fst).Nodup) :
    read labels (.prefixed pfx) =
        (.ok (.texts (labels.filterMap (keptEntry pfx))), labels.filterMap (skippedEntry pfx)) ∧
      ((labels.filterMap (keptEntry pfx)).map Prod.fst).Nodup ∧
      Document.ofEntries ((labels.filterMap (keptEntry pfx)).map fun e => (e.1, .str e.2)) =
        (labels.filterMap (keptEntry pfx)).map (fun e => (e.1, .str e.2)) ∧
      (labels.filterMap (keptEntry pfx)).length =
        labels.countP (fun e => (keptEntry pfx e).isSome) ∧
      read labels .labels = read labels (.prefixed "label_") ∧
      read labels .annotations = read labels (.prefixed "annotation_") := by
  have hnames := nodup_kept pfx hk
  refine ⟨by simp [read, prefixed_eq], hnames, ofEntries_of_nodup ?_,
    List.length_filterMap_eq_countP, rfl, rfl⟩
  simpa [List.map_map, Function.comp_def] using hnames

-- A label proper with a text value and one with an integer value.
def sampleLabels : List (Text × Document) := [("label_a", .str "x"), ("label_b", .int 1)]

-- The first is read under `a`; the second is skipped with a warning naming `b`.
theorem prefixed_keeps_texts_under_their_names_of_labels :
    (sampleLabels.map Prod.fst).Nodup ∧
      read sampleLabels (.prefixed "label_") =
        (.ok (.texts (sampleLabels.filterMap (keptEntry "label_"))),
          sampleLabels.filterMap (skippedEntry "label_")) ∧
      ((sampleLabels.filterMap (keptEntry "label_")).map Prod.fst).Nodup ∧
      Document.ofEntries
          ((sampleLabels.filterMap (keptEntry "label_")).map fun e => (e.1, .str e.2)) =
        (sampleLabels.filterMap (keptEntry "label_")).map (fun e => (e.1, .str e.2)) ∧
      (sampleLabels.filterMap (keptEntry "label_")).length =
        sampleLabels.countP (fun e => (keptEntry "label_" e).isSome) ∧
      read sampleLabels .labels = read sampleLabels (.prefixed "label_") ∧
      read sampleLabels .annotations = read sampleLabels (.prefixed "annotation_") :=
  ⟨by decide, prefixed_keeps_texts_under_their_names _ "label_" (by decide)⟩

end Prefixed

end Labels

end SeriesDecoding

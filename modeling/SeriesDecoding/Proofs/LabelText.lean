import Mathlib
import SeriesDecoding.Labels.Render

namespace SeriesDecoding

namespace Text

theorem precedes_iff_lt (a b : List Nat) : precedes a b = true ↔ a < b := by
  induction a generalizing b with
  | nil => cases b <;> simp [precedes]
  | cons x xs ih =>
    cases b with
    | nil => simp [precedes]
    | cons y ys => simp [precedes, ih, List.cons_lt_cons_iff]

-- Keys are sorted by the lexicographic order of their code points.
theorem le_iff (a b : Text) : a.le b = true ↔ a.points ≤ b.points := by
  rw [← not_lt, ← precedes_iff_lt]
  simp [le, lt]

theorem le_total (a b : Text) : a.le b = true ∨ b.le a = true := by
  simp only [le_iff]
  exact (le_or_gt a.points b.points).imp id le_of_lt

theorem le_trans {a b c : Text} (hab : a.le b = true) (hbc : b.le c = true) : a.le c = true := by
  rw [le_iff] at *
  exact hab.trans hbc

theorem le_antisymm {a b : Text} (hab : a.le b = true) (hba : b.le a = true) : a = b := by
  rw [le_iff] at hab hba
  cases a
  cases b
  simpa using hab.antisymm hba

attribute [ext] Text

end Text

namespace Labels

section Sorting

variable {β : Type}

theorem sorted_perm (m : List (Text × Document)) : (sorted m).Perm m :=
  List.mergeSort_perm _ _

theorem pairwise_sorted (m : List (Text × Document)) :
    (sorted m).Pairwise fun a b => a.1.le b.1 = true := by
  unfold sorted
  exact @List.pairwise_mergeSort _ (fun a b => a.1.le b.1)
    (fun a b c hab hbc => Text.le_trans hab hbc) (fun a b => by simpa using Text.le_total a.1 b.1) m

-- Two lists sorted by key with the same entries, no key twice, are one list: entries with equal
-- keys are equal.
theorem eq_of_perm_of_sorted {l₁ l₂ : List (Text × β)} (hk : (l₁.map Prod.fst).Nodup)
    (s₁ : l₁.Pairwise fun a b => a.1.le b.1 = true) (s₂ : l₂.Pairwise fun a b => a.1.le b.1 = true)
    (hp : l₁.Perm l₂) : l₁ = l₂ :=
  hp.eq_of_pairwise
    (fun _ _ ha hb hab hba =>
      List.inj_on_of_nodup_map hk ha (hp.symm.subset hb) (Text.le_antisymm hab hba))
    s₁ s₂

end Sorting

-- An entry with its value as the text of the labels shows it.
def shownEntry (e : Text × Document) : Text × Text := (e.1, e.2.display)

-- The text of one shown entry.
def line (e : Text × Text) : Text := e.1 ++ ": " ++ e.2

-- The shown entries of the labels, sorted by key.
def shown (m : List (Text × Document)) : List (Text × Text) := (sorted m).map shownEntry

theorem render_eq_shown (m : List (Text × Document)) :
    render m = "\x7b" ++ Text.join ", " ((shown m).map line) ++ "\x7d" := by
  simp only [render, shown, List.map_map]
  rfl

theorem mem_shown {m : List (Text × Document)} {e : Text × Text} :
    e ∈ shown m ↔ e ∈ m.map shownEntry :=
  ((sorted_perm m).map shownEntry).mem_iff

theorem nodup_shown {m : List (Text × Document)} (hk : (m.map Prod.fst).Nodup) :
    ((shown m).map Prod.fst).Nodup := by
  have hp : ((sorted m).map Prod.fst).Perm (m.map Prod.fst) := (sorted_perm m).map Prod.fst
  simpa [shown, List.map_map, shownEntry, Function.comp_def] using hp.nodup_iff.mpr hk

theorem pairwise_shown (m : List (Text × Document)) :
    (shown m).Pairwise fun a b => a.1.le b.1 = true :=
  List.pairwise_map.mpr ((pairwise_sorted m).imp id)

-- Label objects, no key twice, that show the same entries have the same shown entries in the same
-- order.
theorem shown_eq_of_mem_iff {m₁ m₂ : List (Text × Document)} (h₁ : (m₁.map Prod.fst).Nodup)
    (h₂ : (m₂.map Prod.fst).Nodup) (h : ∀ e, e ∈ m₁.map shownEntry ↔ e ∈ m₂.map shownEntry) :
    shown m₁ = shown m₂ := by
  have hp : (shown m₁).Perm (shown m₂) := by
    rw [List.perm_ext_iff_of_nodup (nodup_shown h₁).of_map (nodup_shown h₂).of_map]
    intro e
    rw [mem_shown, mem_shown, h]
  exact eq_of_perm_of_sorted (nodup_shown h₁) (pairwise_shown m₁) (pairwise_shown m₂) hp

theorem render_eq_of_mem_iff_shown {m₁ m₂ : List (Text × Document)}
    (h₁ : (m₁.map Prod.fst).Nodup) (h₂ : (m₂.map Prod.fst).Nodup)
    (h : ∀ e, e ∈ m₁.map shownEntry ↔ e ∈ m₂.map shownEntry) : render m₁ = render m₂ := by
  rw [render_eq_shown, render_eq_shown, shown_eq_of_mem_iff h₁ h₂ h]

section Splitting

-- A list free of the pair `c d` cannot be followed by `c d` where another `c d` starts: the first
-- `c d` would then lie in it, or overlap the second, which `c ≠ d` rules out.
theorem pair_ne_cons_append {c d b : Nat} (hcd : c ≠ d) {y r s : List Nat}
    (hy : ¬ [c, d] <:+: b :: y) : c :: d :: r ≠ b :: y ++ c :: d :: s := by
  intro h
  simp only [List.cons_append, List.cons.injEq] at h
  obtain ⟨rfl, h⟩ := h
  cases y with
  | nil =>
    simp only [List.nil_append, List.cons.injEq] at h
    exact hcd h.1.symm
  | cons b' y =>
    simp only [List.cons_append, List.cons.injEq] at h
    obtain ⟨rfl, -⟩ := h
    exact hy (List.prefix_append [c, d] y).isInfix

-- Two lists free of the pair `c d`, each followed by `c d`, end where the first `c d` starts.
theorem eq_of_append_pair_eq {c d : Nat} (hcd : c ≠ d) {x y r s : List Nat}
    (hx : ¬ [c, d] <:+: x) (hy : ¬ [c, d] <:+: y) (h : x ++ c :: d :: r = y ++ c :: d :: s) :
    x = y ∧ r = s := by
  induction x generalizing y with
  | nil =>
    cases y with
    | nil => simpa using h
    | cons b y => exact absurd h (pair_ne_cons_append hcd hy)
  | cons a x ih =>
    cases y with
    | nil => exact absurd h.symm (pair_ne_cons_append hcd hx)
    | cons b y =>
      simp only [List.cons_append, List.cons.injEq] at h
      obtain ⟨rfl, h⟩ := h
      have hsub (z : List Nat) : ¬ [c, d] <:+: a :: z → ¬ [c, d] <:+: z :=
        fun hz hin => hz (hin.trans (List.suffix_cons a z).isInfix)
      obtain ⟨rfl, rfl⟩ := ih (hsub x hx) (hsub y hy) h
      exact ⟨rfl, rfl⟩

-- A shown entry splits back when its key holds no `: ` and its value no `, `.
def Splits (e : Text × Text) : Prop :=
  ¬ [58, 32] <:+: e.1.points ∧ ¬ [44, 32] <:+: e.2.points

theorem points_join_cons (sep t : Text) (rest : List Text) :
    (Text.join sep (t :: rest)).points =
      t.points ++ (rest.map fun u => sep.points ++ u.points).flatten := by
  induction rest generalizing t with
  | nil => simp [Text.join]
  | cons u rest ih => simp [Text.join, ih]

-- The text of the entries after the first, each after its `, `.
def tail (ps : List (Text × Text)) : List Nat :=
  (ps.map fun p => [44, 32] ++ (line p).points).flatten

theorem points_line (p : Text × Text) : (line p).points = p.1.points ++ 58 :: 32 :: p.2.points := by
  show (p.1.points ++ [58, 32]) ++ p.2.points = _
  simp

theorem tail_cons (p : Text × Text) (ps : List (Text × Text)) :
    tail (p :: ps) = 44 :: 32 :: (p.1.points ++ 58 :: 32 :: (p.2.points ++ tail ps)) := by
  simp [tail, points_line]

-- The entries as one text: the first entry, then the later ones each after its `, `.
theorem points_join_lines (p : Text × Text) (ps : List (Text × Text)) :
    (Text.join ", " ((p :: ps).map line)).points =
      p.1.points ++ 58 :: 32 :: (p.2.points ++ tail ps) := by
  rw [List.map_cons, points_join_cons, points_line, tail, List.map_map]
  simp only [List.append_assoc, List.cons_append]
  rfl

-- A value free of `, ` followed by the later entries splits back into both; the induction is on
-- the later entries, each peeled off by its `, ` and then its `: `.
theorem eq_of_append_tail_eq {v w : List Nat} {ps qs : List (Text × Text)}
    (hv : ¬ [44, 32] <:+: v) (hw : ¬ [44, 32] <:+: w) (hps : ∀ p ∈ ps, Splits p)
    (hqs : ∀ q ∈ qs, Splits q) (h : v ++ tail ps = w ++ tail qs) : v = w ∧ ps = qs := by
  induction ps generalizing v w qs with
  | nil =>
    cases qs with
    | nil => simpa [tail] using h
    | cons q qs =>
      simp only [tail, List.map_nil, List.flatten_nil, List.append_nil] at h
      exact absurd (h ▸ List.infix_append' w [44, 32] _) hv
  | cons p ps ih =>
    cases qs with
    | nil =>
      simp only [tail, List.map_nil, List.flatten_nil, List.append_nil] at h
      exact absurd (h.symm ▸ List.infix_append' v [44, 32] _) hw
    | cons q qs =>
      obtain ⟨hp, hps⟩ := List.forall_mem_cons.mp hps
      obtain ⟨hq, hqs⟩ := List.forall_mem_cons.mp hqs
      rw [tail_cons, tail_cons] at h
      obtain ⟨hvw, h⟩ := eq_of_append_pair_eq (by decide) hv hw h
      obtain ⟨hkey, h⟩ := eq_of_append_pair_eq (by decide) hp.1 hq.1 h
      obtain ⟨hval, hrest⟩ := ih hp.2 hq.2 hps hqs h
      have hpq : p = q := Prod.ext (Text.ext hkey) (Text.ext hval)
      exact ⟨hvw, by rw [hpq, hrest]⟩

theorem eq_of_join_lines_eq {ps qs : List (Text × Text)} (hps : ∀ p ∈ ps, Splits p)
    (hqs : ∀ q ∈ qs, Splits q)
    (h : Text.join ", " (ps.map line) = Text.join ", " (qs.map line)) : ps = qs := by
  have hpts := congrArg Text.points h
  cases ps with
  | nil =>
    cases qs with
    | nil => rfl
    | cons q qs =>
      rw [List.map_nil, points_join_lines] at hpts
      simp [Text.join] at hpts
  | cons p ps =>
    cases qs with
    | nil =>
      rw [List.map_nil, points_join_lines] at hpts
      simp [Text.join] at hpts
    | cons q qs =>
      obtain ⟨hp, hps⟩ := List.forall_mem_cons.mp hps
      obtain ⟨hq, hqs⟩ := List.forall_mem_cons.mp hqs
      rw [points_join_lines, points_join_lines] at hpts
      obtain ⟨hkey, h⟩ := eq_of_append_pair_eq (by decide) hp.1 hq.1 hpts
      obtain ⟨hval, hrest⟩ := eq_of_append_tail_eq hp.2 hq.2 hps hqs h
      have hpq : p = q := Prod.ext (Text.ext hkey) (Text.ext hval)
      rw [hpq, hrest]

end Splitting

-- No key holds `: ` and no value shows `, `.
def Separable (m : List (Text × Document)) : Prop := ∀ e ∈ m, Splits (shownEntry e)

theorem splits_of_mem_shown {m : List (Text × Document)} (hm : Separable m) :
    ∀ e ∈ shown m, Splits e := by
  intro e he
  obtain ⟨e', he', rfl⟩ := List.mem_map.mp (mem_shown.mp he)
  exact hm e' he'

theorem mem_iff_shown_of_render_eq {m₁ m₂ : List (Text × Document)} (hs₁ : Separable m₁)
    (hs₂ : Separable m₂) (h : render m₁ = render m₂) :
    ∀ e, e ∈ m₁.map shownEntry ↔ e ∈ m₂.map shownEntry := by
  rw [render_eq_shown, render_eq_shown] at h
  -- the braces around the entries come off both sides
  have hinner : Text.join ", " ((shown m₁).map line) = Text.join ", " ((shown m₂).map line) := by
    have hpts := congrArg Text.points h
    simp only [Text.points_append, List.append_cancel_left_eq, List.append_cancel_right_eq] at hpts
    exact Text.ext hpts
  have hshown := eq_of_join_lines_eq (splits_of_mem_shown hs₁) (splits_of_mem_shown hs₂) hinner
  intro e
  rw [← mem_shown, ← mem_shown, hshown]

-- The text of a label object depends only on its entries, not on the order of its keys, and only
-- on what each value shows. Where no key holds `: ` and no value shows `, `, it splits back into
-- its entries and tells label objects apart exactly by the entries they show.
theorem render_identifies_shown_entries {m₁ m₂ : List (Text × Document)}
    (h₁ : (m₁.map Prod.fst).Nodup) (h₂ : (m₂.map Prod.fst).Nodup) :
    ((∀ e, e ∈ m₁ ↔ e ∈ m₂) → render m₁ = render m₂) ∧
      (Separable m₁ → Separable m₂ →
        (render m₁ = render m₂ ↔ ∀ e, e ∈ m₁.map shownEntry ↔ e ∈ m₂.map shownEntry)) := by
  refine ⟨fun h => render_eq_of_mem_iff_shown h₁ h₂ fun e => ?_, fun hs₁ hs₂ =>
    ⟨mem_iff_shown_of_render_eq hs₁ hs₂, render_eq_of_mem_iff_shown h₁ h₂⟩⟩
  simp only [List.mem_map, h]

theorem render_identifies_shown_entries_reordered :
    (([("node", .str "n1"), ("cpu", .int 4)] : List (Text × Document)).map Prod.fst).Nodup ∧
      (([("cpu", .int 4), ("node", .str "n1")] : List (Text × Document)).map Prod.fst).Nodup ∧
      (((∀ e, e ∈ ([("node", .str "n1"), ("cpu", .int 4)] : List (Text × Document)) ↔
          e ∈ ([("cpu", .int 4), ("node", .str "n1")] : List (Text × Document))) →
        render [("node", .str "n1"), ("cpu", .int 4)] =
          render [("cpu", .int 4), ("node", .str "n1")]) ∧
      (Separable [("node", .str "n1"), ("cpu", .int 4)] →
        Separable [("cpu", .int 4), ("node", .str "n1")] →
        (render [("node", .str "n1"), ("cpu", .int 4)] =
            render [("cpu", .int 4), ("node", .str "n1")] ↔
          ∀ e, e ∈ ([("node", .str "n1"), ("cpu", .int 4)] : List (Text × Document)).map
              shownEntry ↔
            e ∈ ([("cpu", .int 4), ("node", .str "n1")] : List (Text × Document)).map
              shownEntry))) :=
  ⟨by decide, by decide, render_identifies_shown_entries (by decide) (by decide)⟩

-- A text value is shown bare, so the text `1` and the integer `1` give the same text though the
-- label objects differ.
theorem render_shows_text_and_integer_alike :
    render [("a", .int 1)] = render [("a", .str "1")] ∧
      ¬ ∀ e, e ∈ ([("a", .int 1)] : List (Text × Document)) ↔
        e ∈ ([("a", .str "1")] : List (Text × Document)) := by
  refine ⟨by simp [render, sorted]; decide, fun h => ?_⟩
  have hmem := (h ("a", .int 1)).mp List.mem_cons_self
  simp at hmem

end Labels

end SeriesDecoding

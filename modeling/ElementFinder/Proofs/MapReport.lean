import ElementFinder.Proofs.MapForm

/-!
# The report on the faults of object maps

Faults are reported in the order of their paths, and with their paths in words. Paths through the settings
are texts, for which there are both; the names of selectors can be values of all kinds.
-/

namespace ElementFinder

/-! ## Values with an order -/

theorem allOrdered_iff {α : Type} {less? : α → α → Option Bool} {items : List α} :
    allOrdered less? items = true ↔ items.Pairwise fun a b => (less? a b).isSome = true := by
  induction items with
  | nil => simp [allOrdered]
  | cons a items ih => simp [allOrdered, ih]

theorem sorted_strays {α : Type} {less? : α → α → Option Bool} (items : List α) :
    StraysWhen (¬items.Pairwise fun a b => (less? a b).isSome = true) (sorted less? items) := by
  rw [← allOrdered_iff, sorted]
  split
  · next h => exact .ok (not_not_intro h)
  · next h => exact .error id h

theorem perm_of_sorted {α : Type} {less? : α → α → Option Bool} {items inOrder : List α}
    (h : sorted less? items = .ok inOrder) : inOrder.Perm items := by
  rw [sorted] at h
  split at h
  · cases h
    exact List.mergeSort_perm ..
  · cases h

/-- One of the values comes before the other one, or they are the same. -/
def Value.HaveOrder (a b : Value) : Prop := a.sameKey b = true ∨ (a.less? b).isSome = true

/-- One of the paths comes before the other one, or they are the same. -/
def PathsHaveOrder (p q : List Value) : Prop := (Value.listLess? p q).isSome = true

namespace PathsHaveOrder

variable {p q : List Value}

theorem nil_left : PathsHaveOrder [] q := by
  cases q <;> rfl

theorem nil_right : PathsHaveOrder p [] := by
  cases p <;> rfl

theorem cons_iff {a b : Value} : PathsHaveOrder (a :: p) (b :: q) ↔
    if a.sameKey b then PathsHaveOrder p q else (a.less? b).isSome = true := by
  rw [PathsHaveOrder, Value.listLess?]
  split <;> rfl

theorem sameKey_text (a b : String) : (Value.text a).sameKey (.text b) = (a == b) := rfl

theorem cons_text_of_ne {a b : String} (h : a ≠ b) : PathsHaveOrder (.text a :: p) (.text b :: q) := by
  rw [cons_iff, sameKey_text, beq_false_of_ne h]
  rfl

theorem cons_text {a : String} : PathsHaveOrder (.text a :: p) (.text a :: q) ↔ PathsHaveOrder p q := by
  rw [cons_iff, sameKey_text, beq_self_eq_true]
  exact iff_of_eq (if_pos rfl)

theorem singleton_iff {a b : Value} : PathsHaveOrder [a] [b] ↔ a.HaveOrder b := by
  rw [cons_iff, Value.HaveOrder]
  cases a.sameKey b with
  | true => exact iff_of_true rfl (Or.inl rfl)
  | false => simp

theorem texts (xs ys : List String) : PathsHaveOrder (xs.map .text) (ys.map .text) := by
  induction xs generalizing ys with
  | nil => exact nil_left
  | cons x xs ih =>
      cases ys with
      | nil => exact nil_right
      | cons y ys =>
          by_cases h : x = y
          · subst h
            exact cons_text.mpr (ih ys)
          · exact cons_text_of_ne h

end PathsHaveOrder

namespace Schema

open PathsHaveOrder

variable {entries : List (Value × Value)}

/-- The faults have an order exactly if the names of the wrong selectors have one. -/
theorem faults_haveOrder_iff {found : List Fault} (h : faults entries = .ok found) :
    found.Pairwise (fun a b => PathsHaveOrder a.path b.path) ↔
      (wrongSelectors entries).Pairwise fun a b => a.1.HaveOrder b.1 := by
  obtain ⟨settings, selectors, whole, rfl, hsettings, hselectors, hwhole⟩ := faults_paths h
  have happ : settings.Pairwise fun a b => PathsHaveOrder a.path b.path := by
    refine List.pairwise_of_forall_mem_list fun a ha b hb => ?_
    obtain ⟨xs, hxs⟩ := hsettings a ha
    obtain ⟨ys, hys⟩ := hsettings b hb
    rw [hxs, hys]
    exact texts ("app" :: xs) ("app" :: ys)
  have hlast : whole.Pairwise fun a b => PathsHaveOrder a.path b.path := by
    refine List.pairwise_of_forall_mem_list fun a ha b hb => ?_
    rw [hwhole a ha]
    exact nil_left
  have hmiddle : ∀ a ∈ settings, ∀ b ∈ selectors, PathsHaveOrder a.path b.path := by
    intro a ha b hb
    obtain ⟨xs, hxs⟩ := hsettings a ha
    have hpath : ∃ q, b.path = .text "selectors" :: q := by
      obtain hpaths | ⟨-, hpath⟩ := hselectors
      · have hb' : b.path ∈ selectors.map (·.path) := List.mem_map_of_mem hb
        rw [hpaths] at hb'
        obtain ⟨e, -, he⟩ := List.mem_map.mp hb'
        exact ⟨[e.1], he.symm⟩
      · exact ⟨[], hpath b hb⟩
    obtain ⟨q, hq⟩ := hpath
    rw [hxs, hq]
    exact cons_text_of_ne (by decide)
  have hend : ∀ a ∈ settings ++ selectors, ∀ b ∈ whole, PathsHaveOrder a.path b.path := by
    intro a _ b hb
    rw [hwhole b hb]
    exact nil_right
  rw [List.pairwise_append, List.pairwise_append, and_iff_left ⟨hlast, hend⟩, and_iff_right happ,
    and_iff_left hmiddle]
  obtain hpaths | ⟨hnone, hpath⟩ := hselectors
  · rw [← List.pairwise_map (f := Fault.path) (R := PathsHaveOrder), hpaths, List.pairwise_map]
    simp only [cons_text, singleton_iff]
  · rw [hnone]
    refine iff_of_true ?_ .nil
    refine List.pairwise_of_forall_mem_list fun a ha b hb => ?_
    rw [hpath a ha, hpath b hb]
    exact texts ["selectors"] ["selectors"]

/-- The paths of the faults have words exactly if the names of the wrong selectors have. -/
theorem faults_haveWords_iff {found : List Fault} (h : faults entries = .ok found) :
    (∀ f ∈ found, ∀ v ∈ f.path, ¬v.HoldsTooLong) ↔
      ∀ e ∈ wrongSelectors entries, ¬e.1.HoldsTooLong := by
  obtain ⟨settings, selectors, whole, rfl, hsettings, hselectors, hwhole⟩ := faults_paths h
  have happ : ∀ f ∈ settings, ∀ v ∈ f.path, ¬v.HoldsTooLong := by
    intro f hf v hv
    obtain ⟨names, hnames⟩ := hsettings f hf
    rw [hnames, ← List.map_singleton, ← List.map_append] at hv
    obtain ⟨s, -, rfl⟩ := List.mem_map.mp hv
    exact Value.HoldsTooLong.not_text s
  have hlast : ∀ f ∈ whole, ∀ v ∈ f.path, ¬v.HoldsTooLong := by
    intro f hf v hv
    rw [hwhole f hf] at hv
    cases hv
  have hmiddle : (∀ f ∈ selectors, ∀ v ∈ f.path, ¬v.HoldsTooLong) ↔
      ∀ e ∈ wrongSelectors entries, ¬e.1.HoldsTooLong := by
    obtain hpaths | ⟨hnone, hpath⟩ := hselectors
    · have hall : (∀ f ∈ selectors, ∀ v ∈ f.path, ¬v.HoldsTooLong) ↔
          ∀ p ∈ selectors.map (·.path), ∀ v ∈ p, ¬v.HoldsTooLong := by
        rw [List.forall_mem_map]
      rw [hall, hpaths, List.forall_mem_map]
      simp [Value.HoldsTooLong.not_text]
    · rw [hnone]
      refine iff_of_true (fun f hf v hv => ?_) nofun
      rw [hpath f hf, List.mem_singleton] at hv
      exact hv ▸ Value.HoldsTooLong.not_text _
  rw [← hmiddle]
  constructor
  · intro hall f hf
    exact hall f (List.mem_append_left _ (List.mem_append_right _ hf))
  · intro hall f hf
    rcases List.mem_append.mp hf with hf | hf
    · rcases List.mem_append.mp hf with hf | hf
      · exact happ f hf
      · exact hall f hf
    · exact hlast f hf

/-! ## The check -/

/-- The failure of an object map with the given lines for its faults. -/
def refusal (lines : List String) : Failure :=
  .config (Text.joined "\n" ("Object map schema validation failed:" :: lines))

/-- Reports faults in the order of their paths; accepts if there are none. -/
def report (found : List Fault) : Except Failure Unit :=
  sorted (fun a b => Value.listLess? a.path b.path) found >>= fun inOrder =>
    if inOrder.isEmpty then .ok ()
    else inOrder.mapM Fault.line >>= fun lines => .error (refusal lines)

theorem check_eq : check entries = faults entries >>= report := rfl

theorem line_strays (f : Fault) : StraysWhen (∃ v ∈ f.path, v.HoldsTooLong) f.line :=
  ((Value.list f.path).displayOrFail_strays.map _).congr Value.HoldsTooLong.list_iff

theorem report_orderly_iff (found : List Fault) : Orderly (report found) ↔
    found.Pairwise (fun a b => PathsHaveOrder a.path b.path) ∧
      ∀ f ∈ found, ∀ v ∈ f.path, ¬v.HoldsTooLong := by
  rw [report, Orderly.bind_iff, Orderly.iff_of_strays (sorted_strays found), Classical.not_not]
  refine and_congr_right fun horder => ?_
  obtain ⟨inOrder, hsorted⟩ := (sorted_strays found).exists_ok_iff.mpr (not_not_intro horder)
  have hmem : ∀ f, f ∈ inOrder ↔ f ∈ found := fun f => (perm_of_sorted hsorted).mem_iff
  have hrefused : ∀ lines, (refusal lines).IsConfig := fun _ => trivial
  have hlines : Orderly (inOrder.mapM Fault.line) ↔ ∀ f ∈ found, ∀ v ∈ f.path, ¬v.HoldsTooLong := by
    rw [Orderly.iff_of_strays (FailsWhen.mapM line_strays inOrder)]
    simp [hmem]
  constructor
  · intro h
    have hreport := h inOrder hsorted
    split at hreport
    · next hempty =>
      rw [List.isEmpty_iff] at hempty
      intro f hf
      rw [← hmem, hempty] at hf
      cases hf
    · exact hlines.mp ((Orderly.refusal_iff hrefused).mp hreport)
  · rintro h _ hsorted'
    cases hsorted.symm.trans hsorted'
    split
    · exact .ok ()
    · exact (Orderly.refusal_iff hrefused).mpr (hlines.mpr h)

theorem mem_block_iff {name : String} {e : Value × Value} : e ∈ ObjectMap.block name entries ↔
    ∃ es, Value.field? name entries = some (.map es) ∧ e ∈ es := by
  rw [ObjectMap.block]
  split
  · next es hes => simp [hes]
  · next hne =>
    refine iff_of_false List.not_mem_nil ?_
    rintro ⟨es, hes, -⟩
    exact hne es hes

theorem check_orderly_iff : Orderly (check entries) ↔
    (∀ w, Shows entries w → ¬w.HoldsTooLong) ∧
      (∀ e ∈ ObjectMap.block "selectors" entries, ¬returnsToItself e.2 = true) ∧
      ((wrongSelectors entries).Pairwise fun a b => a.1.HaveOrder b.1) ∧
      ∀ e ∈ wrongSelectors entries, ¬e.1.HoldsTooLong := by
  have hfound : Orderly (faults entries) ↔ (∀ w, Shows entries w → ¬w.HoldsTooLong) ∧
      ∀ e ∈ ObjectMap.block "selectors" entries, ¬returnsToItself e.2 = true := by
    rw [Orderly.iff_of_strays (faults_strays entries), not_or]
    refine and_congr (by simp) ?_
    constructor
    · intro h e he hitself
      obtain ⟨es, hes, he⟩ := mem_block_iff.mp he
      exact h ⟨es, hes, e, he, hitself⟩
    · rintro h ⟨es, hes, e, he, hitself⟩
      exact h e (mem_block_iff.mpr ⟨es, hes, he⟩) hitself
  rw [check_eq, Orderly.bind_iff, ← and_assoc, hfound]
  refine and_congr_right fun hwords => ?_
  obtain ⟨found, hok⟩ : ∃ found, faults entries = .ok found :=
    (faults_strays entries).exists_ok_iff.mpr
      ((Orderly.iff_of_strays (faults_strays entries)).mp (hfound.mpr hwords))
  rw [← faults_haveOrder_iff hok, ← faults_haveWords_iff hok, ← report_orderly_iff]
  constructor
  · intro h
    exact h found hok
  · rintro h _ hok'
    cases hok.symm.trans hok'
    exact h

end Schema

end ElementFinder

import ElementFinder.Proofs.FieldSources
import ElementFinder.Proofs.SideBySide

/-!
# Entries in another order

The entries of a mapping may stand in another order, and so may those of the mappings inside. A selector is
then read from both orders or from neither. The order is seen in the words of mappings, and in the text of
a selector, as two keys set it.
-/

namespace ElementFinder

open Run

section

variable {α β : Type} {R : α → β → Prop} {l : List α} {l' : List β}

theorem forall₂_replaced {R : α → α → Prop} {before after : List α} {a b : α} (hrefl : ∀ a, R a a)
    (h : R a b) : List.Forall₂ R (before ++ a :: after) (before ++ b :: after) :=
  List.rel_append (List.forall₂_same.mpr fun a _ => hrefl a)
    (.cons h (List.forall₂_same.mpr fun a _ => hrefl a))

theorem exists_mem_iff {p : α → Prop} {q : β → Prop} (hright : ∀ a, a ∈ l → ∃ b ∈ l', R a b)
    (hleft : ∀ b, b ∈ l' → ∃ a ∈ l, R a b) (h : ∀ a ∈ l, ∀ b, R a b → (p a ↔ q b)) :
    (∃ a ∈ l, p a) ↔ ∃ b ∈ l', q b := by
  constructor
  · rintro ⟨a, ha, hp⟩
    obtain ⟨b, hb, hab⟩ := hright a ha
    exact ⟨b, hb, (h a ha b hab).mp hp⟩
  · rintro ⟨b, hb, hq⟩
    obtain ⟨a, ha, hab⟩ := hleft b hb
    exact ⟨a, ha, (h a ha b hab).mpr hq⟩

end

namespace Value

mutual

/-- The same value, but for the order of the entries of mappings. -/
inductive Reordered : Value → Value → Prop
  | same (v : Value) : Reordered v v
  | list {xs ys : List Value} : List.Forall₂ Reordered xs ys → Reordered (.list xs) (.list ys)
  | map {xs zs ys : List (Value × Value)} : List.Forall₂ EntryReordered xs zs → zs.Perm ys →
      Reordered (.map xs) (.map ys)
  | pair {a b c d : Value} : Reordered a c → Reordered b d → Reordered (.pair a b) (.pair c d)
  | setting {a b : Value} : Reordered a b → Reordered (.setting a) (.setting b)

/-- The same key, with such a value. -/
inductive EntryReordered : Value × Value → Value × Value → Prop
  | mk {key v w : Value} : Reordered v w → EntryReordered (key, v) (key, w)

end

/-- The same entries, in another order and with such values. -/
def EntriesReordered (xs ys : List (Value × Value)) : Prop :=
  ∃ zs, List.Forall₂ EntryReordered xs zs ∧ zs.Perm ys

variable {v w : Value} {e f : Value × Value} {xs ys before after : List (Value × Value)}

namespace EntryReordered

theorem refl (e : Value × Value) : EntryReordered e e := .mk (.same e.2)

theorem key_eq (h : EntryReordered e f) : f.1 = e.1 := by
  cases h
  rfl

theorem value (h : EntryReordered e f) : e.2.Reordered f.2 := by
  cases h with
  | mk h => exact h

end EntryReordered

namespace EntriesReordered

theorem exists_right (h : EntriesReordered xs ys) (he : e ∈ xs) : ∃ f ∈ ys, EntryReordered e f := by
  obtain ⟨zs, hzs, hperm⟩ := h
  obtain ⟨f, hf, hef⟩ := exists_right_of_forall₂ hzs he
  exact ⟨f, hperm.mem_iff.mp hf, hef⟩

theorem exists_left (h : EntriesReordered xs ys) (hf : f ∈ ys) : ∃ e ∈ xs, EntryReordered e f := by
  obtain ⟨zs, hzs, hperm⟩ := h
  exact exists_left_of_forall₂ hzs (hperm.mem_iff.mpr hf)

theorem refl (xs : List (Value × Value)) : EntriesReordered xs xs :=
  ⟨xs, List.forall₂_same.mpr fun e _ => .refl e, .refl xs⟩

theorem moved_last (h : e.2.Reordered w) :
    EntriesReordered (before ++ e :: after) (before ++ after ++ [(e.1, w)]) :=
  ⟨_, forall₂_replaced .refl (.mk h), List.perm_middle.trans (List.perm_append_singleton _ _).symm⟩

theorem moved_first (h : e.2.Reordered w) :
    EntriesReordered (before ++ e :: after) ((e.1, w) :: (before ++ after)) :=
  ⟨_, forall₂_replaced .refl (.mk h), List.perm_middle⟩

end EntriesReordered

namespace Reordered

theorem inv_list {items : List Value} (h : w.Reordered (.list items)) :
    ∃ items', w = .list items' ∧ List.Forall₂ Reordered items' items := by
  cases h with
  | same => exact ⟨items, rfl, List.forall₂_same.mpr fun v _ => .same v⟩
  | list h => exact ⟨_, rfl, h⟩

theorem inv_map (h : w.Reordered (.map ys)) : ∃ xs, w = .map xs ∧ EntriesReordered xs ys := by
  cases h with
  | same => exact ⟨ys, rfl, .refl ys⟩
  | map h hperm => exact ⟨_, rfl, _, h, hperm⟩

theorem eq_enclosing {b : Bool} (h : w.Reordered (.enclosing b)) : w = .enclosing b := by
  cases h
  rfl

theorem of_entries (h : EntriesReordered xs ys) : (Value.map xs).Reordered (.map ys) := by
  obtain ⟨zs, hzs, hperm⟩ := h
  exact .map hzs hperm

theorem item {before after : List Value} (h : v.Reordered w) :
    (Value.list (before ++ v :: after)).Reordered (.list (before ++ w :: after)) :=
  .list (forall₂_replaced .same h)

theorem isNull_eq (h : v.Reordered w) : w.isNull = v.isNull := by
  cases h <;> rfl

theorem truthy_eq (h : v.Reordered w) : w.truthy = v.truthy := by
  have hlength : ∀ {α : Type} {l l' : List α}, l.length = l'.length → (!l'.isEmpty) = !l.isEmpty := by
    intro α l l' h
    cases l <;> cases l' <;> simp_all
  cases h with
  | list h => exact hlength h.length_eq
  | map h hperm => exact hlength (h.length_eq.trans hperm.length_eq)
  | _ => rfl

theorem holdsTooLong_iff (h : v.Reordered w) : v.HoldsTooLong ↔ w.HoldsTooLong := by
  induction v using inside_induction generalizing w with
  | step v ih =>
      cases h with
      | same => exact Iff.rfl
      | list h =>
          rw [HoldsTooLong.list_iff, HoldsTooLong.list_iff]
          exact exists_mem_iff (fun _ => exists_right_of_forall₂ h) (fun _ => exists_left_of_forall₂ h)
            fun v hv _ hvw => ih v (.item hv) hvw
      | @map xs zs ys h hperm =>
          have hentries : EntriesReordered xs ys := ⟨zs, h, hperm⟩
          rw [HoldsTooLong.map_iff, HoldsTooLong.map_iff]
          refine exists_mem_iff (fun _ => hentries.exists_right) (fun _ => hentries.exists_left) ?_
          intro e he f hef
          rw [hef.key_eq, ih e.2 (.entry he) hef.value]
      | pair ha hb =>
          rw [HoldsTooLong.pair_iff, HoldsTooLong.pair_iff, ih _ .first ha, ih _ .second hb]
      | setting h => rw [HoldsTooLong.setting_iff, HoldsTooLong.setting_iff, ih _ .setting h]

end Reordered

end Value

/-- The words of a value are the same in whatever order the mappings in it are. -/
def Value.WordsFixed (v : Value) : Prop := ∀ w, v.Reordered w → w.writeOrFail = v.writeOrFail

/-- A field that holds words. -/
def FieldKey.IsWords : FieldKey → Prop
  | .text | .id | .index => True
  | _ => False

/-! ## Results in two orders -/

/-- Two results are both failures, or both values, which are the same on a condition. -/
abbrev SameIf {α : Type} (p : Prop) (x y : Except Failure α) : Prop :=
  Alike (fun a b => p → a = b) (fun _ _ => True) x y

namespace SameIf

variable {α β γ : Type} {p q : Prop} {x y : Except Failure α}

theorem of_eq (h : x = y) : SameIf p x y :=
  Alike.of_eq (fun _ _ => rfl) (fun _ => trivial) h

theorem of_iff (hok : (∃ a, x = .ok a) ↔ ∃ b, y = .ok b)
    (hsame : ∀ a b, x = .ok a → y = .ok b → p → a = b) : SameIf p x y := by
  cases x with
  | ok a =>
      obtain ⟨b, rfl⟩ := hok.mp ⟨a, rfl⟩
      exact .ok (hsame a b rfl rfl)
  | error f =>
      cases y with
      | ok b => cases (hok.mpr ⟨b, rfl⟩).choose_spec
      | error g => exact .error trivial

theorem exists_ok_iff (h : SameIf p x y) : (∃ a, x = .ok a) ↔ ∃ b, y = .ok b := by
  cases h with
  | ok _ => exact iff_of_true ⟨_, rfl⟩ ⟨_, rfl⟩
  | error _ => exact iff_of_false nofun nofun

theorem ok_of_ok (h : SameIf p x y) (hp : p) {a : α} (hx : x = .ok a) : y = .ok a := by
  subst hx
  cases h with
  | ok hsame => rw [hsame hp]

theorem imp (h : SameIf p x y) (hpq : q → p) : SameIf q x y :=
  Alike.imp h (fun _ _ hsame hq => hsame (hpq hq)) fun _ _ h => h

theorem both {x' y' : Except Failure β} (h : SameIf p x y) (h' : SameIf q x' y') (f : α → β → γ) :
    SameIf (p ∧ q) (x >>= fun a => x' >>= fun b => pure (f a b))
      (y >>= fun a => y' >>= fun b => pure (f a b)) := by
  cases h with
  | ok hp =>
      cases h' with
      | ok hq => exact .ok fun hpq => by rw [hp hpq.1, hq hpq.2]
      | error _ => exact .error trivial
  | error _ => exact .error trivial

theorem refused {x y : Except Failure α} {f g : α → Failure} :
    SameIf p (x >>= fun a => (.error (f a) : Except Failure β)) (y >>= fun a => .error (g a)) := by
  cases x <;> cases y <;> exact .error trivial

end SameIf

namespace Selector

open Value

variable {strict textGiven : Bool} {place : String} {v w : Value} {e f : Value × Value}
  {xs ys : List (Value × Value)} {k : FieldKey}

/-! ## Keys and values of entries -/

theorem NamesApart.reordered (h : NamesApart xs) (hys : EntriesReordered xs ys) : NamesApart ys := by
  obtain ⟨zs, hzs, hperm⟩ := hys
  have hsame : NamesApart zs := by
    clear hperm
    induction hzs with
    | nil => exact .nil
    | cons hef hrest ih =>
        obtain ⟨hfirst, hxs⟩ := List.pairwise_cons.mp h
        refine List.pairwise_cons.mpr ⟨fun f hf name hname hother => ?_, ih hxs⟩
        obtain ⟨e, he, hef'⟩ := exists_left_of_forall₂ hrest hf
        exact hfirst e he name (hef.key_eq ▸ hname) (hef'.key_eq ▸ hother)
  exact (hperm.pairwise_iff fun h name hname hother => h name hother hname).mp hsame

theorem givesText_reordered (hapart : NamesApart xs) (h : EntriesReordered xs ys) :
    givesText ys = givesText xs := by
  rw [Bool.eq_iff_iff, givesText_iff hapart, givesText_iff (hapart.reordered h)]
  constructor
  · rintro ⟨w, hw, htrue⟩
    obtain ⟨⟨_, v⟩, hv, hvw⟩ := h.exists_left hw
    cases hvw with
    | mk hvw => exact ⟨v, hv, hvw.truthy_eq ▸ htrue⟩
  · rintro ⟨v, hv, htrue⟩
    obtain ⟨⟨_, w⟩, hw, hvw⟩ := h.exists_right hv
    cases hvw with
    | mk hvw => exact ⟨w, hw, hvw.truthy_eq.trans htrue⟩

theorem target_reordered (h : EntryReordered e f) : target textGiven f = target textGiven e := by
  rw [target, target, h.key_eq, h.value.isNull_eq]

/-! ## Reading in two orders -/

/-- The words for one field are the same, from whichever of its entries they are and in whatever order the
mappings inside are. -/
def WordsSettled (entries : List (Value × Value)) : Prop :=
  ∀ k : FieldKey, k.IsWords → ∀ e ∈ entries, ∀ e' ∈ entries, target (givesText entries) e = some k →
    target (givesText entries) e' = some k → ∀ w, e'.2.Reordered w → w.writeOrFail = e.2.writeOrFail

theorem writeOrFail_reordered (h : v.Reordered w) : SameIf v.WordsFixed v.writeOrFail w.writeOrFail := by
  refine .of_iff ?_ fun a b ha hb hsettled => ?_
  · rw [v.writeOrFail_strays.exists_ok_iff, w.writeOrFail_strays.exists_ok_iff, h.holdsTooLong_iff]
  · exact Except.ok.inj (ha.symm.trans ((hsettled w h).symm.trans hb))

theorem readInteger_reordered {p : Prop} (h : v.Reordered w) :
    SameIf p (readInteger place v) (readInteger place w) := by
  cases h with
  | same => exact .of_eq rfl
  | list | map | pair | setting => exact .refused

theorem readBool_reordered {p : Prop} (h : v.Reordered w) :
    SameIf p (readBool place v) (readBool place w) := by
  cases h with
  | same => exact .of_eq rfl
  | list | map | pair | setting => exact .refused

theorem readContent_reordered (h : v.Reordered w)
    (hvalue : AllVisited NamesApart v → ∀ place, SameIf (AllVisited WordsSettled v)
      (ofValue strict place v) (ofValue strict place w))
    (hitems : AllInField NamesApart v .descendants → ∀ place, SameIf
      (AllInField WordsSettled v .descendants) (ofItems strict place v) (ofItems strict place w))
    (k : FieldKey) (hapart : AllInField NamesApart v k) :
    SameIf ((k.IsWords → v.WordsFixed) ∧ AllInField WordsSettled v k) (readContent strict place v k)
      (readContent strict place w k) := by
  cases k with
  | text | id | index => exact (writeOrFail_reordered h).imp fun hsettled => hsettled.1 trivial
  | width | height | tolerance => exact readInteger_reordered h
  | enabled | selected | focused => exact readBool_reordered h
  | anchor r => exact (hvalue hapart place).imp fun hsettled => hsettled.2
  | descendants => exact (hitems hapart place).imp fun hsettled => hsettled.2

theorem readEntry_reordered {q : FieldKey → Prop} (h : EntryReordered e f)
    (hread : ∀ k, target textGiven e = some k →
      SameIf (q k) (readContent strict (placeOf place e.1) e.2 k) (readContent strict (placeOf place e.1) f.2 k)) :
    (∃ set, readEntry strict place textGiven e.1 e.2 = .ok set) ↔
      ∃ set, readEntry strict place textGiven f.1 f.2 = .ok set := by
  have htarget : target textGiven f = target textGiven e := target_reordered h
  cases hk : target textGiven e with
  | none => rw [readEntry_idle hk, readEntry_idle (htarget.trans hk), h.key_eq]
  | some k =>
      rw [readEntry_targeted hk, readEntry_targeted (htarget.trans hk), h.key_eq]
      simpa [except_map_ok] using (hread k hk).exists_ok_iff

theorem says_of_words {a : k.Content} (hk : k.IsWords) (h : w.writeOrFail = v.writeOrFail)
    (ha : Says strict v k a) : Says strict w k a := by
  cases k with
  | text | id | index => exact fun place => h.trans (ha place)
  | _ => exact hk.elim

theorem ofEntries_reordered (hentries : EntriesReordered xs ys) (hapart : NamesApart xs)
    (hread : ∀ e ∈ xs, ∀ f, EntryReordered e f → ∀ place k, target (givesText xs) e = some k →
      SameIf ((k.IsWords → e.2.WordsFixed) ∧ AllInField WordsSettled e.2 k)
        (readContent strict place e.2 k) (readContent strict place f.2 k)) :
    SameIf (WordsSettled xs ∧ ∀ e ∈ xs, AllWithin WordsSettled e.1 e.2)
      (ofEntries strict place (givesText xs) xs {}) (ofEntries strict place (givesText ys) ys {}) := by
  rw [givesText_reordered hapart hentries]
  refine .of_iff ?_ fun s t hs ht hsettled => ext_get fun k => ?_
  · rw [exists_ofEntries, exists_ofEntries]
    constructor
    · intro hall f hf
      obtain ⟨e, he, hef⟩ := hentries.exists_left hf
      exact (readEntry_reordered hef fun k => hread e he f hef _ k).mp (hall e he)
    · intro hall e he
      obtain ⟨f, hf, hef⟩ := hentries.exists_right he
      exact (readEntry_reordered hef fun k => hread e he f hef _ k).mpr (hall f hf)
  by_cases hsome : ∃ e ∈ xs, target (givesText xs) e = some k
  · obtain ⟨e, he, hk⟩ := hsome
    obtain ⟨a, ha⟩ := exists_says hs he hk
    -- Whatever entry for this field a value is from, it says this.
    have hsays : ∀ e' ∈ xs, ∀ f, EntryReordered e' f → target (givesText xs) e' = some k →
        Says strict f.2 k a := by
      intro e' he' f hef hk'
      by_cases hwords : k.IsWords
      · exact says_of_words hwords (hsettled.1 k hwords e he e' he' hk hk' _ hef.value) ha
      · have htext : k ≠ .text := fun h => hwords (h ▸ trivial)
        obtain rfl := hapart.eq_of_target he he' htext hk hk'
        have hcontent := (hread e he f hef "" k hk).ok_of_ok
          ⟨fun h => absurd h hwords, allInField_of_target hk (hsettled.2 e he)⟩ (ha "")
        exact says_of_readContent hcontent
    obtain ⟨f, hf, hef⟩ := hentries.exists_right he
    rw [get_of_all hs he hk fun e' he' hk' => hsays e' he' e' (.refl e') hk']
    refine (get_of_all ht hf ((target_reordered hef).trans hk) fun f' hf' hk' => ?_).symm
    obtain ⟨e', he', hef'⟩ := hentries.exists_left hf'
    exact hsays e' he' f' hef' ((target_reordered hef').symm.trans hk')
  · have hnone : ∀ e ∈ xs, target (givesText xs) e ≠ some k := fun e he hk => hsome ⟨e, he, hk⟩
    rw [get_of_untargeted hs hnone]
    refine (get_of_untargeted ht fun f hf hk => ?_).symm
    obtain ⟨e, he, hef⟩ := hentries.exists_left hf
    exact hnone e he ((target_reordered hef).symm.trans hk)

theorem ofList_reordered {items items' : List Value} (h : List.Forall₂ Reordered items items') {i : Nat}
    (hread : ∀ v ∈ items, ∀ w, v.Reordered w → ∀ place, SameIf (AllVisited WordsSettled v)
      (ofValue strict place v) (ofValue strict place w)) :
    SameIf (∀ v ∈ items, AllVisited WordsSettled v) (ofList strict place i items)
      (ofList strict place i items') := by
  induction h generalizing i with
  | nil => exact .of_eq rfl
  | cons hvw _ ih =>
      obtain ⟨hfirst, hrest⟩ := List.forall_mem_cons.mp hread
      exact ((hfirst _ hvw _).both (ih hrest) List.cons).imp List.forall_mem_cons.mp

/-- In both orders a selector is read or none is. It is the same one if the words in all mappings are
settled. -/
theorem ofValue_reordered (strict : Bool) (v : Value) :
    (AllVisited NamesApart v → ∀ w, v.Reordered w → ∀ place,
      SameIf (AllVisited WordsSettled v) (ofValue strict place v) (ofValue strict place w)) ∧
    (AllInField NamesApart v .descendants → ∀ w, v.Reordered w → ∀ place,
      SameIf (AllInField WordsSettled v .descendants) (ofItems strict place v) (ofItems strict place w)) := by
  induction v using inside_induction with
  | step v ih =>
      constructor
      · intro hapart w h place
        cases h with
        | same => exact .of_eq rfl
        | @map xs zs ys h hperm =>
            obtain ⟨hhere, hwithin⟩ := allVisited_map_iff.mp hapart
            refine (ofEntries_reordered ⟨zs, h, hperm⟩ hhere fun e he f hef place k hk => ?_).imp
              allVisited_map_iff.mp
            obtain ⟨hvalue, hitems⟩ := ih e.2 (.entry he)
            exact readContent_reordered hef.value (fun hin => hvalue hin _ hef.value)
              (fun hin => hitems hin _ hef.value) k (allInField_of_target hk (hwithin e he))
        | list | pair | setting => exact .error trivial
      · intro hapart w h place
        cases h with
        | same => exact .of_eq rfl
        | list h =>
            refine (ofList_reordered h fun v hv => (ih v (.item hv)).1 (hapart _ rfl v hv)).imp ?_
            exact fun hsettled => hsettled _ rfl
        | map | pair | setting => exact .error trivial

end Selector

end ElementFinder

import ElementFinder.Proofs.Filling

/-!
# Filling in goes over a text once

A text that is made of plain parts and of placeholders has each placeholder replaced by the written value of its
variable, whatever that looks like. In nested lists and mappings this happens to every text, and to nothing else.
-/

namespace ElementFinder

namespace Placeholder

variable {vars : List (Value × Value)} {fuel : Nat} {cs behind : List Char} {name : String}

/-! ## Parts of a text -/

/-- A name is made of letters, digits and underscores, with no digit in front. -/
def IsName (name : String) : Prop :=
  ∃ first rest, name.toList = first :: rest ∧ (first.isAlpha = true ∨ first = '_') ∧
    ∀ c ∈ rest, c.isAlphanum = true ∨ c = '_'

theorem IsName.isNameChar (h : IsName name) : ∀ c ∈ name.toList, isNameChar c = true := by
  obtain ⟨first, rest, hname, hfirst, hrest⟩ := h
  rw [hname, List.forall_mem_cons]
  refine ⟨?_, fun c hc => by simpa [Placeholder.isNameChar] using hrest c hc⟩
  obtain hletter | rfl := hfirst
  · simp [Placeholder.isNameChar, Char.isAlphanum, hletter]
  · decide

/-- A placeholder is found as a whole, whatever is behind it. -/
theorem at?_named (h : IsName name) (behind : List Char) :
    at? ('$' :: '\x7b' :: (name.toList ++ '\x7d' :: behind)) = some (name.toList, behind) := by
  have hbrace : isNameChar '\x7d' = false := by decide
  have htake : (name.toList ++ '\x7d' :: behind).takeWhile isNameChar = name.toList := by
    rw [List.takeWhile_append_of_pos h.isNameChar, List.takeWhile_cons_of_neg (by rw [hbrace]; decide),
      List.append_nil]
  have hdrop : (name.toList ++ '\x7d' :: behind).dropWhile isNameChar = '\x7d' :: behind := by
    rw [List.dropWhile_append_of_pos h.isNameChar, List.dropWhile_cons_of_neg (by rw [hbrace]; decide)]
  obtain ⟨first, rest, hname, hfirst, -⟩ := h
  have hstart : isNameStart first = true := by simpa [isNameStart] using hfirst
  rw [hname, List.cons_append] at htake hdrop ⊢
  rw [at?, nameAt?, hstart, hdrop, htake]
  rfl

theorem at?_of_ne {c : Char} (h : c ≠ '$') : at? (c :: cs) = none := by
  rw [at?.eq_def]
  split
  · next heq => exact absurd (List.cons.inj heq).1 h
  · rfl

theorem pieces_dollarless (h : '$' ∉ cs) :
    pieces (fuel + cs.length) (cs ++ behind) = cs.map .char ++ pieces fuel behind := by
  induction cs with
  | nil => rfl
  | cons c cs ih =>
      simp only [List.mem_cons, not_or] at h
      rw [List.length_cons, ← Nat.add_assoc, List.cons_append, pieces, at?_of_ne (Ne.symm h.1)]
      dsimp only
      rw [ih h.2]
      rfl

/-- A part of a text: a run without a dollar sign, or a placeholder. -/
inductive Part where
  | plain (text : String) (dollarless : '$' ∉ text.toList)
  | named (name : String) (isName : IsName name)

namespace Part

/-- The part as it stands in a text. -/
def text : Part → String
  | .plain t _ => t
  | .named name _ => "$\x7b" ++ name ++ "\x7d"

/-- The part with its placeholder filled in; one without a variable stays as it is. -/
def filledIn (vars : List (Value × Value)) : Part → Except Failure String
  | .plain t _ => .ok t
  | .named name _ =>
    match Value.field? name vars with
    | some v => v.writeOrFail
    | none => .ok ("$\x7b" ++ name ++ "\x7d")

/-- The pieces that a part is read as. -/
def pieces : Part → List Piece
  | .plain t _ => t.toList.map .char
  | .named name _ => [.named name]

end Part

/-- A part is read as its pieces, in a number of steps that its length has room for. -/
theorem pieces_part (p : Part) : ∃ n ≤ p.text.toList.length, ∀ fuel behind,
    pieces (fuel + n) (p.text.toList ++ behind) = p.pieces ++ pieces fuel behind := by
  cases p with
  | plain t hplain => exact ⟨t.toList.length, Nat.le_refl _, fun fuel behind => pieces_dollarless hplain⟩
  | named name hname =>
      refine ⟨1, ?_, fun fuel behind => ?_⟩
      · simp [Part.text]
      · have htext : (Part.named name hname).text.toList ++ behind =
            '$' :: '\x7b' :: (name.toList ++ '\x7d' :: behind) := by
          simp [Part.text]
        rw [htext, pieces, at?_named hname]
        simp [Part.pieces]

/-- A text is read part by part. -/
theorem pieces_parts (parts : List Part) (h : (parts.flatMap (·.text.toList)).length ≤ fuel) :
    pieces fuel (parts.flatMap (·.text.toList)) = parts.flatMap Part.pieces := by
  induction parts generalizing fuel with
  | nil => cases fuel <;> rfl
  | cons p parts ih =>
      obtain ⟨n, hn, hpieces⟩ := pieces_part p
      rw [List.flatMap_cons, List.length_append] at h
      obtain ⟨fuel, rfl⟩ := Nat.exists_eq_add_of_le' (Nat.le_trans hn (Nat.le_of_add_right_le h))
      rw [List.flatMap_cons, List.flatMap_cons, hpieces, ih (by omega)]

/-- Pieces of a text, filled in and put together. -/
def written (bindings : Value) (ps : List Piece) : Except Failure String :=
  (ps.mapM (Piece.fill bindings)).map String.join

theorem fillText_eq (bindings : Value) (text : String) :
    fillText bindings text = written bindings (pieces text.toList.length text.toList) := by
  rw [fillText, written]
  cases (pieces text.toList.length text.toList).mapM (Piece.fill bindings) <;> rfl

theorem written_append (bindings : Value) (ps qs : List Piece) :
    written bindings (ps ++ qs) =
      written bindings ps >>= fun a => (written bindings qs).map (a ++ ·) := by
  rw [written, written, written, List.mapM_append]
  cases ps.mapM (Piece.fill bindings) with
  | error f => rfl
  | ok as =>
      cases qs.mapM (Piece.fill bindings) with
      | error f => rfl
      | ok bs => exact congrArg Except.ok String.join_append

theorem written_part (p : Part) : written (.map vars) p.pieces = p.filledIn vars := by
  cases p with
  | plain t hplain =>
      have hmap : (t.toList.map Piece.char).mapM (Piece.fill (.map vars)) =
          .ok ((t.toList.map Piece.char).map Piece.write) := by
        refine except_mapM_of_forall fun q hq => ?_
        obtain ⟨c, -, rfl⟩ := List.mem_map.mp hq
        rfl
      rw [Part.pieces, written, hmap]
      refine congrArg Except.ok (String.toList_inj.mp ?_)
      simp [String.toList_join, Piece.write, List.flatMap_map]
  | named name hname =>
      rw [Part.pieces, written, Part.filledIn, List.mapM_cons, List.mapM_nil]
      simp only [Piece.fill, valueOf?]
      cases Value.field? name vars with
      | none => simp [Piece.write, bind, Except.bind, pure, Except.pure, Except.map]
      | some v =>
          cases hv : v.writeOrFail <;>
            simp [hv, bind, Except.bind, pure, Except.pure, Except.map]

/-- Filling in gives the parts one after the other, each filled in on its own. -/
theorem fillText_parts (vars : List (Value × Value)) (parts : List Part) :
    fillText (.map vars) (String.join (parts.map Part.text)) =
      (parts.mapM (Part.filledIn vars)).map String.join := by
  have hpieces : ∀ ps : List Part, written (.map vars) (ps.flatMap Part.pieces) =
      (ps.mapM (Part.filledIn vars)).map String.join := by
    intro ps
    induction ps with
    | nil => rfl
    | cons p ps ih =>
        rw [List.flatMap_cons, written_append, written_part, ih, List.mapM_cons]
        cases p.filledIn vars with
        | error f => rfl
        | ok a =>
            cases ps.mapM (Part.filledIn vars) with
            | error f => rfl
            | ok as => exact congrArg Except.ok String.join_cons.symm
  have htext : (String.join (parts.map Part.text)).toList = parts.flatMap (·.text.toList) := by
    rw [String.toList_join, List.flatMap_map]
  rw [fillText_eq, htext, pieces_parts parts (Nat.le_refl _), hpieces]

end Placeholder

/-! ## Places in nested values -/

namespace Value

/-- A way one level into a value: to an item of a list, or to the value of an entry of a mapping. -/
inductive Inward where
  | item (i : Nat)
  | entry (i : Nat)

/-- The value at a place in a value. -/
def within? (v : Value) : List Inward → Option Value
  | [] => some v
  | .item i :: path =>
    match v with
    | .list items => items[i]?.bind fun item => item.within? path
    | _ => none
  | .entry i :: path =>
    match v with
    | .map entries => entries[i]?.bind fun e => e.2.within? path
    | _ => none

/-- A value is within another one, at some place. -/
def IsWithin (u v : Value) : Prop := ∃ path, v.within? path = some u

theorem isWithin_list_iff {u : Value} {items : List Value} :
    u.IsWithin (.list items) ↔ u = .list items ∨ ∃ v ∈ items, u.IsWithin v := by
  constructor
  · rintro ⟨path, h⟩
    match path with
    | [] => exact Or.inl (Option.some.inj h).symm
    | .item i :: path =>
        obtain ⟨v, hv, h⟩ := Option.bind_eq_some_iff.mp h
        exact Or.inr ⟨v, List.mem_of_getElem? hv, path, h⟩
    | .entry i :: path => cases h
  · rintro (rfl | ⟨v, hv, path, h⟩)
    · exact ⟨[], rfl⟩
    · obtain ⟨i, hi⟩ := List.getElem?_of_mem hv
      exact ⟨.item i :: path, by rw [within?, hi]; exact h⟩

theorem isWithin_map_iff {u : Value} {entries : List (Value × Value)} :
    u.IsWithin (.map entries) ↔ u = .map entries ∨ ∃ e ∈ entries, u.IsWithin e.2 := by
  constructor
  · rintro ⟨path, h⟩
    match path with
    | [] => exact Or.inl (Option.some.inj h).symm
    | .item i :: path => cases h
    | .entry i :: path =>
        obtain ⟨e, he, h⟩ := Option.bind_eq_some_iff.mp h
        exact Or.inr ⟨e, List.mem_of_getElem? he, path, h⟩
  · rintro (rfl | ⟨e, he, path, h⟩)
    · exact ⟨[], rfl⟩
    · obtain ⟨i, hi⟩ := List.getElem?_of_mem he
      exact ⟨.entry i :: path, by rw [within?, hi]; exact h⟩

theorem within?_leaf {v : Value} (hleaf : v.isLeaf = true) (step : Inward) (path : List Inward) :
    v.within? (step :: path) = none := by
  cases step <;> cases v <;> simp_all [isLeaf, within?]

theorem isWithin_leaf_iff {u v : Value} (hleaf : v.isLeaf = true) : u.IsWithin v ↔ u = v := by
  constructor
  · rintro ⟨_ | ⟨step, path⟩, h⟩
    · exact (Option.some.inj h).symm
    · rw [within?_leaf hleaf] at h
      cases h
  · rintro rfl
    exact ⟨[], rfl⟩

end Value

namespace Placeholder

variable {vars : List (Value × Value)} {v w : Value}

/-! ## Filling in nested values -/

theorem fillItems_eq (bindings : Value) (items : List Value) :
    fillItems bindings items = items.mapM (fill bindings) := by
  induction items with
  | nil => rfl
  | cons v items ih =>
      rw [fillItems, List.mapM_cons, ih]

theorem fillEntries_eq (bindings : Value) (entries : List (Value × Value)) :
    fillEntries bindings entries = entries.mapM fun e => (fill bindings e.2).map (e.1, ·) := by
  induction entries with
  | nil => rfl
  | cons e entries ih =>
      rw [fillEntries, List.mapM_cons, ih]
      cases fill bindings e.2 <;> rfl

/-- What can be filled in where it stands: a text, if the variables that it names can be written, and anything else
but a reference back to a collection around it. -/
def Takes (vars : List (Value × Value)) : Value → Prop
  | .text t => ∃ filled, fillText (.map vars) t = .ok filled
  | .enclosing _ => False
  | _ => True

/-- All that is within a value can be filled in. -/
def Fillable (vars : List (Value × Value)) (v : Value) : Prop := ∀ u : Value, u.IsWithin v → Takes vars u

theorem not_fillable_list_iff {items : List Value} :
    ¬Fillable vars (.list items) ↔ ∃ v ∈ items, ¬Fillable vars v := by
  simp only [Fillable, Value.isWithin_list_iff, Classical.not_forall]
  constructor
  · rintro ⟨u, rfl | ⟨v, hv, hu⟩, hnot⟩
    · exact absurd trivial hnot
    · exact ⟨v, hv, u, hu, hnot⟩
  · rintro ⟨v, hv, u, hu, hnot⟩
    exact ⟨u, Or.inr ⟨v, hv, hu⟩, hnot⟩

theorem not_fillable_map_iff {entries : List (Value × Value)} :
    ¬Fillable vars (.map entries) ↔ ∃ e ∈ entries, ¬Fillable vars e.2 := by
  simp only [Fillable, Value.isWithin_map_iff, Classical.not_forall]
  constructor
  · rintro ⟨u, rfl | ⟨e, he, hu⟩, hnot⟩
    · exact absurd trivial hnot
    · exact ⟨e, he, u, hu, hnot⟩
  · rintro ⟨e, he, u, hu, hnot⟩
    exact ⟨u, Or.inr ⟨e, he, hu⟩, hnot⟩

theorem fillable_leaf_iff (hleaf : v.isLeaf = true) : Fillable vars v ↔ Takes vars v := by
  simp only [Fillable, Value.isWithin_leaf_iff hleaf, forall_eq]

theorem fill_leaf_failsUnless (hleaf : v.isLeaf = true) :
    FailsWhen (fun _ => True) (¬Takes vars v) (fill (.map vars) v) := by
  cases v with
  | text t =>
      rw [fill, Takes]
      cases h : fillText (.map vars) t with
      | ok filled => exact .ok (not_not_intro ⟨filled, rfl⟩)
      | error f => exact .error trivial nofun
  | list items => cases hleaf
  | map entries => cases hleaf
  | enclosing isMap => exact .error trivial id
  | _ => exact .ok (not_not_intro trivial)

theorem fill_failsUnless (v : Value) : FailsWhen (fun _ => True) (¬Fillable vars v) (fill (.map vars) v) := by
  have hfails : FailsByLeaves (fun _ => True) (fun v => ¬Fillable vars v) (.map vars) :=
    ⟨fun _ => not_fillable_list_iff, fun _ => not_fillable_map_iff, fun _ hleaf =>
      (fill_leaf_failsUnless hleaf).congr (not_congr (fillable_leaf_iff hleaf).symm)⟩
  exact hfails.fill v

/-- What stands at a place once placeholders are filled in: a text becomes what it becomes alone, a list keeps its
length, a mapping keeps its keys in their order, and anything else stays as it is. -/
def FilledTo (vars : List (Value × Value)) : Value → Value → Prop
  | .text t, w => ∃ filled, fillText (.map vars) t = .ok filled ∧ w = .text filled
  | .list items, w => ∃ items', w = .list items' ∧ items'.length = items.length
  | .map entries, w => ∃ entries', w = .map entries' ∧ entries'.map (·.1) = entries.map (·.1)
  | v, w => w = v

theorem fill_list_inv {items : List Value} (h : fill (.map vars) (.list items) = .ok w) :
    ∃ items', w = .list items' ∧ items'.length = items.length ∧
      ∀ i : Nat, Option.Rel (fun v w => fill (.map vars) v = .ok w) items[i]? items'[i]? := by
  obtain ⟨items', hitems, rfl⟩ := except_map_ok.mp h
  rw [fillItems_eq] at hitems
  exact ⟨items', rfl, except_mapM_getElem? hitems⟩

theorem fill_map_inv {entries : List (Value × Value)} (h : fill (.map vars) (.map entries) = .ok w) :
    ∃ entries', w = .map entries' ∧ entries'.map (·.1) = entries.map (·.1) ∧
      ∀ i : Nat, Option.Rel (fun e f => (fill (.map vars) e.2).map (e.1, ·) = .ok f)
        entries[i]? entries'[i]? := by
  obtain ⟨entries', hentries, rfl⟩ := except_map_ok.mp h
  rw [fillEntries_eq] at hentries
  obtain ⟨-, hplaces⟩ := except_mapM_getElem? hentries
  have hkeys : ∀ {e f : Option (Value × Value)},
      Option.Rel (fun e f => (fill (.map vars) e.2).map (e.1, ·) = .ok f) e f →
        f.map (·.1) = e.map (·.1) := by
    intro e f h
    cases h with
    | none => rfl
    | some he =>
        obtain ⟨v, -, rfl⟩ := except_map_ok.mp he
        rfl
  refine ⟨entries', rfl, List.ext_getElem? fun i => ?_, hplaces⟩
  rw [List.getElem?_map, List.getElem?_map, hkeys (hplaces i)]

theorem fill_leaf_inv (hleaf : v.isLeaf = true) (h : fill (.map vars) v = .ok w) :
    FilledTo vars v w ∧ w.isLeaf = true := by
  cases v with
  | text t =>
      obtain ⟨filled, ht, rfl⟩ := except_map_ok.mp h
      exact ⟨⟨filled, ht, rfl⟩, rfl⟩
  | list items => cases hleaf
  | map entries => cases hleaf
  | enclosing isMap => cases h
  | _ =>
      cases h
      exact ⟨rfl, rfl⟩

/-- At every place stands what the value there has become. -/
theorem fill_within? (h : fill (.map vars) v = .ok w) (path : List Value.Inward) :
    Option.Rel (FilledTo vars) (v.within? path) (w.within? path) := by
  -- The induction is on the way to the place: one level down stands a value that was itself filled in.
  induction path generalizing v w with
  | nil =>
      refine .some ?_
      cases v with
      | list items =>
          obtain ⟨items', rfl, hlength, -⟩ := fill_list_inv h
          exact ⟨items', rfl, hlength⟩
      | map entries =>
          obtain ⟨entries', rfl, hkeys, -⟩ := fill_map_inv h
          exact ⟨entries', rfl, hkeys⟩
      | _ => exact (fill_leaf_inv rfl h).1
  | cons step path ih =>
      cases v with
      | list items =>
          obtain ⟨items', rfl, -, hplaces⟩ := fill_list_inv h
          cases step with
          | item i => exact optionRel_bind (hplaces i) fun _ _ hitem => ih hitem
          | entry i => exact .none
      | map entries =>
          obtain ⟨entries', rfl, -, hplaces⟩ := fill_map_inv h
          cases step with
          | item i => exact .none
          | entry i =>
              refine optionRel_bind (hplaces i) fun e f he => ?_
              obtain ⟨u, hu, rfl⟩ := except_map_ok.mp he
              exact ih hu
      | _ =>
          rw [Value.within?_leaf rfl, Value.within?_leaf (fill_leaf_inv rfl h).2]
          exact .none

end Placeholder

open Placeholder

/-! ## Main result -/

/-- A text of plain parts and placeholders becomes the parts one after the other, each placeholder as the written
value of its variable, as it is, or unchanged if it has none. A nested value can be filled in exactly if all that
is within it can be. Then at every place a text has become what it becomes alone, and lists keep their lengths,
mappings their keys in order, and all other values stay. If the values of the variables can be written, this
excludes only a value that holds itself. -/
theorem placeholders_are_filled_in_once (vars : List (Value × Value)) :
    (∀ parts : List Part, fill (.map vars) (.text (String.join (parts.map Part.text))) =
      (parts.mapM (Part.filledIn vars)).map fun filled => .text (String.join filled)) ∧
    (∀ data : Value, (∃ w, fill (.map vars) data = .ok w) ↔ Fillable vars data) ∧
    (∀ data w : Value, fill (.map vars) data = .ok w →
      ∀ path, Option.Rel (FilledTo vars) (data.within? path) (w.within? path)) ∧
    (Printable vars → ∀ data : Value, Fillable vars data ↔ ¬data.HoldsItself) := by
  have hfillable : ∀ data : Value, (∃ w, fill (.map vars) data = .ok w) ↔ Fillable vars data := fun data => by
    rw [(fill_failsUnless data).exists_ok_iff, Classical.not_not]
  refine ⟨fun parts => ?_, hfillable, fun data w h path => fill_within? h path, fun hvars data => ?_⟩
  · rw [fill, fillText_parts]
    cases parts.mapM (Part.filledIn vars) <;> rfl
  · rw [← hfillable, (fill_failsWhen hvars data).exists_ok_iff]

namespace Placeholder

/-- A greeting by a name. -/
def greeting : List Part :=
  [.plain "Hi " (by decide +kernel), .named "NAME" ⟨'N', ['A', 'M', 'E'], rfl, by decide, by simp⟩,
    .plain ", " (by decide +kernel), .named "NOBODY" ⟨'N', ['O', 'B', 'O', 'D', 'Y'], rfl, by decide, by simp⟩]

/-- A name that looks like a placeholder. -/
def namesOfGreeting : List (Value × Value) :=
  [(.text "NAME", .text "$\x7bNOBODY\x7d")]

end Placeholder

/-- A name that looks like a placeholder is put in as it is, also in a list under a key, and the key stays. -/
theorem placeholders_are_filled_in_once_greeting :
    let data : Value := .map [(.text "$\x7bNAME\x7d", .list [.text "Hi $\x7bNAME\x7d, $\x7bNOBODY\x7d", .int 3])]
    let filled : Value :=
      .map [(.text "$\x7bNAME\x7d", .list [.text "Hi $\x7bNOBODY\x7d, $\x7bNOBODY\x7d", .int 3])]
    fill (.map namesOfGreeting) (.text "Hi $\x7bNAME\x7d, $\x7bNOBODY\x7d") =
        .ok (.text "Hi $\x7bNOBODY\x7d, $\x7bNOBODY\x7d") ∧
      Printable namesOfGreeting ∧ ¬data.HoldsItself ∧ fill (.map namesOfGreeting) data = .ok filled ∧
      ∀ path, Option.Rel (FilledTo namesOfGreeting) (data.within? path) (filled.within? path) := by
  intro data filled
  obtain ⟨htexts, hfillable, hplaces, hends⟩ := placeholders_are_filled_in_once namesOfGreeting
  have hprintable : Printable namesOfGreeting := by simp [Printable, namesOfGreeting, Value.HoldsTooLong.not_text]
  have hfilled : fill (.map namesOfGreeting) data = .ok filled := rfl
  exact ⟨htexts greeting, hprintable, (hends hprintable data).mp ((hfillable data).mp ⟨filled, hfilled⟩), hfilled,
    hplaces data filled hfilled⟩

end ElementFinder

import ElementFinder.ObjectMap.Placeholder
import ElementFinder.ObjectMap.Schema
import ElementFinder.Proofs.Written

/-!
# Filling in placeholders

With variables whose values can be written, filling in changes the texts of a value and nothing else. It
fails only for a value that holds itself. Written numbers have no placeholders.
-/

namespace ElementFinder

namespace Placeholder

variable {fuel : Nat} {cs name behind : List Char} {vars : List (Value × Value)}

/-! ## Texts -/

theorem nameAt?_inv (h : nameAt? cs = some (name, behind)) : cs = name ++ '\x7d' :: behind := by
  cases cs with
  | nil => cases h
  | cons c rest =>
      rw [nameAt?] at h
      split at h
      · cases h
      · split at h
        · next hrest =>
          cases h
          rw [← hrest, List.takeWhile_append_dropWhile]
        · cases h

theorem at?_inv (h : at? cs = some (name, behind)) : cs = '$' :: '\x7b' :: (name ++ '\x7d' :: behind) := by
  rw [at?.eq_def] at h
  split at h
  · rw [nameAt?_inv h]
  · cases h

theorem pieces_write (h : cs.length ≤ fuel) :
    String.join ((pieces fuel cs).map Piece.write) = String.ofList cs := by
  induction fuel generalizing cs with
  | zero =>
      rw [List.length_eq_zero_iff.mp (Nat.le_zero.mp h)]
      rfl
  | succ fuel ih =>
      cases cs with
      | nil => rfl
      | cons c rest =>
          rw [List.length_cons, Nat.succ_le_succ_iff] at h
          rw [pieces]
          cases hat : at? (c :: rest) with
          | none =>
              dsimp only
              rw [List.map_cons, String.join_cons, ih h]
              simp [Piece.write]
          | some found =>
              obtain ⟨name, behind⟩ := found
              have hcs := at?_inv hat
              have hlength : behind.length ≤ fuel := by
                have hlen := congrArg List.length hcs
                simp at hlen
                omega
              dsimp only
              rw [List.map_cons, String.join_cons, ih hlength, hcs]
              apply String.toList_inj.mp
              simp [Piece.write]

theorem dollar_mem_of_named {n : String} (h : Piece.named n ∈ pieces fuel cs) : '$' ∈ cs := by
  induction fuel generalizing cs with
  | zero => cases h
  | succ fuel ih =>
      cases cs with
      | nil => cases h
      | cons c rest =>
          rw [pieces] at h
          cases hat : at? (c :: rest) with
          | none =>
              rw [hat] at h
              rcases List.mem_cons.mp h with ⟨⟨⟩⟩ | h
              exact List.mem_cons_of_mem _ (ih h)
          | some found =>
              rw [at?_inv hat]
              exact List.mem_cons_self

/-- The values of the variables can be written. -/
def Printable (vars : List (Value × Value)) : Prop := ∀ e ∈ vars, ¬e.2.HoldsTooLong

/-- The text with the placeholders filled in. -/
def filled (vars : List (Value × Value)) (text : String) : String :=
  (fillText (.map vars) text).toOption.getD text

theorem fillText_filled (hvars : Printable vars) (text : String) :
    fillText (.map vars) text = .ok (filled vars text) := by
  have hpieces : ∀ p, ∃ t, Piece.fill (.map vars) p = .ok t := by
    rintro (c | n)
    · exact ⟨_, rfl⟩
    · cases hv : Value.field? n vars with
      | none => exact ⟨_, by simp only [Piece.fill, valueOf?, hv]; rfl⟩
      | some v =>
          obtain ⟨k, hmem, -⟩ := Value.mem_of_lookup hv
          have hwritten : FailsWhen (fun _ => True) v.HoldsTooLong v.writeOrFail :=
            v.write_writtenUnless.mapError fun _ _ => trivial
          obtain ⟨t, ht⟩ := hwritten.exists_ok_iff.mpr (hvars _ hmem)
          refine ⟨t, ?_⟩
          simp only [Piece.fill, valueOf?, hv]
          exact ht
  obtain ⟨written, hwritten⟩ := (except_mapM_exists_ok (g := Piece.fill (.map vars))
    (l := pieces text.toList.length text.toList)).mpr fun p _ => hpieces p
  have hfill : fillText (.map vars) text = .ok (String.join written) :=
    except_bind_ok.mpr ⟨written, hwritten, rfl⟩
  rw [filled, hfill]
  rfl

/-- A text none of whose placeholders has a variable stays as it is. -/
theorem filled_self {text : String} (h : ∀ n, Piece.named n ∈ pieces text.toList.length text.toList →
    Value.field? n vars = none) : filled vars text = text := by
  have hwritten : (pieces text.toList.length text.toList).mapM (Piece.fill (.map vars)) =
      .ok ((pieces text.toList.length text.toList).map Piece.write) := by
    refine except_mapM_of_forall fun p hp => ?_
    cases p with
    | char c => rfl
    | named n =>
        simp only [Piece.fill, valueOf?, h n hp]
        rfl
  have hfill : fillText (.map vars) text = .ok text := by
    refine except_bind_ok.mpr ⟨_, hwritten, ?_⟩
    rw [pieces_write (Nat.le_refl _), String.ofList_toList]
    rfl
  rw [filled, hfill]
  rfl

theorem filled_nil (text : String) : filled [] text = text := filled_self fun _ _ => rfl

theorem filled_of_dollarless {text : String} (h : '$' ∉ text.toList) : filled vars text = text :=
  filled_self fun _ hn => absurd (dollar_mem_of_named hn) h

/-! ## Numbers -/

/-- The written form of a whole number has no placeholders. -/
theorem filled_of_isWhole {v : Value} (hv : v.isWhole = true) {t : String} (ht : v.writeOrFail = .ok t) :
    filled vars t = t := by
  apply filled_of_dollarless
  cases v with
  | int n =>
      change (Numeral.write n).mapError Failure.numeral = .ok t at ht
      rw [Numeral.write] at ht
      split at ht
      · cases ht
        exact Decimal.isForeign_dollar.notMem_toString n
      · cases ht
  | float x =>
      cases ht
      exact Decimal.isForeign_dollar.notMem_text x
  | _ => cases hv

end Placeholder

namespace Value

mutual

/-- The value with other texts in its lists and in the values of its mappings. -/
def mapTexts (φ : String → String) : Value → Value
  | .text t => .text (φ t)
  | .list items => .list (mapItems φ items)
  | .map entries => .map (mapEntries φ entries)
  | v => v

def mapItems (φ : String → String) : List Value → List Value
  | [] => []
  | v :: rest => v.mapTexts φ :: mapItems φ rest

def mapEntries (φ : String → String) : List (Value × Value) → List (Value × Value)
  | [] => []
  | (k, v) :: rest => (k, v.mapTexts φ) :: mapEntries φ rest

end

/-- The value is neither a list nor a mapping. -/
def isLeaf : Value → Bool
  | .list _ | .map _ => false
  | _ => true

/-- Going through lists and values of mappings never ends. -/
inductive HoldsItself : Value → Prop
  | enclosing {isMap : Bool} : HoldsItself (.enclosing isMap)
  | item {items : List Value} {v : Value} : v ∈ items → HoldsItself v → HoldsItself (.list items)
  | value {entries : List (Value × Value)} {k v : Value} :
      (k, v) ∈ entries → HoldsItself v → HoldsItself (.map entries)

theorem HoldsItself.list_iff {items : List Value} :
    (Value.list items).HoldsItself ↔ ∃ v ∈ items, v.HoldsItself :=
  ⟨fun | .item hv h => ⟨_, hv, h⟩, fun ⟨_, hv, h⟩ => .item hv h⟩

theorem HoldsItself.map_iff {entries : List (Value × Value)} :
    (Value.map entries).HoldsItself ↔ ∃ e ∈ entries, e.2.HoldsItself :=
  ⟨fun | .value he h => ⟨_, he, h⟩, fun ⟨_, he, h⟩ => .value he h⟩

end Value

namespace Placeholder
variable {vars : List (Value × Value)}
open Value (HoldsItself)

/-- A condition that comes from what lists and mappings are made of in the end, and there tells failures of
filling in. -/
structure FailsByLeaves (kind : Failure → Prop) (p : Value → Prop) (bindings : Value) : Prop where
  list : ∀ items, p (.list items) ↔ ∃ v ∈ items, p v
  map : ∀ entries, p (.map entries) ↔ ∃ e ∈ entries, p e.2
  leaf : ∀ v : Value, v.isLeaf = true → FailsWhen kind (p v) (fill bindings v)

namespace FailsByLeaves

variable {kind : Failure → Prop} {p : Value → Prop} {bindings : Value}

mutual

protected theorem fill (h : FailsByLeaves kind p bindings) : ∀ v, FailsWhen kind (p v) (fill bindings v)
  | .list items => ((h.fillItems items).map _).congr (h.list items).symm
  | .map entries => ((h.fillEntries entries).map _).congr (h.map entries).symm
  | .text _ | .enclosing _ | .null | .bool _ | .int _ | .float _ | .bytes _ | .date _ | .moment _
  | .pair _ _ | .set _ | .setting _ => h.leaf _ rfl

protected theorem fillItems (h : FailsByLeaves kind p bindings) :
    ∀ items, FailsWhen kind (∃ v ∈ items, p v) (fillItems bindings items)
  | [] => .ok nofun
  | v :: rest => ((h.fill v).both (h.fillItems rest) _).congr (by simp)

protected theorem fillEntries (h : FailsByLeaves kind p bindings) :
    ∀ entries, FailsWhen kind (∃ e ∈ entries, p e.2) (fillEntries bindings entries)
  | [] => .ok nofun
  | (k, v) :: rest => ((h.fill v).both (h.fillEntries rest) fun v rest => (k, v) :: rest).congr (by simp)

end

end FailsByLeaves

theorem fill_failsWhen (hvars : Printable vars) (v : Value) :
    FailsWhen (· = .endless) v.HoldsItself (fill (.map vars) v) := by
  refine FailsByLeaves.fill ⟨fun _ => HoldsItself.list_iff, fun _ => HoldsItself.map_iff, fun v hleaf => ?_⟩ v
  cases v with
  | text t =>
      rw [fill, fillText_filled hvars]
      exact .ok nofun
  | list items => cases hleaf
  | map entries => cases hleaf
  | enclosing isMap => exact .error rfl .enclosing
  | _ => exact .ok nofun

mutual

theorem fill_ok (hvars : Printable vars) :
    ∀ v {w}, fill (.map vars) v = .ok w → w = v.mapTexts (filled vars)
  | .text t, _, h => by
    rw [fill, fillText_filled hvars] at h
    cases h
    rfl
  | .list items, _, h => by
    obtain ⟨filledItems, hitems, rfl⟩ := except_map_ok.mp h
    rw [fillItems_ok hvars items hitems, Value.mapTexts]
  | .map entries, _, h => by
    obtain ⟨filledEntries, hentries, rfl⟩ := except_map_ok.mp h
    rw [fillEntries_ok hvars entries hentries, Value.mapTexts]
  | .enclosing _, _, h => nomatch h
  | .null, _, h | .bool _, _, h | .int _, _, h | .float _, _, h | .bytes _, _, h | .date _, _, h
  | .moment _, _, h | .pair _ _, _, h | .set _, _, h | .setting _, _, h => (Except.ok.inj h).symm

theorem fillItems_ok (hvars : Printable vars) :
    ∀ items {ws}, fillItems (.map vars) items = .ok ws → ws = Value.mapItems (filled vars) items
  | [], _, h => by
    cases h
    rfl
  | v :: rest, _, h => by
    obtain ⟨w, hv, h⟩ := except_bind_ok.mp h
    obtain ⟨ws, hrest, h⟩ := except_bind_ok.mp h
    cases h
    rw [fill_ok hvars v hv, fillItems_ok hvars rest hrest, Value.mapItems]

theorem fillEntries_ok (hvars : Printable vars) :
    ∀ entries {ws}, fillEntries (.map vars) entries = .ok ws → ws = Value.mapEntries (filled vars) entries
  | [], _, h => by
    cases h
    rfl
  | (k, v) :: rest, _, h => by
    obtain ⟨w, hv, h⟩ := except_bind_ok.mp h
    obtain ⟨ws, hrest, h⟩ := except_bind_ok.mp h
    cases h
    rw [fill_ok hvars v hv, fillEntries_ok hvars rest hrest, Value.mapEntries]

end

end Placeholder

end ElementFinder

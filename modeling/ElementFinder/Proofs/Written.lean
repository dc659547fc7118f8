import ElementFinder.Proofs.Results

/-!
# Values without a written form

An integer with too many digits cannot be written, and so nothing can that holds one. All other values
can be written, alone and inside a message.
-/

namespace ElementFinder

namespace Value

theorem mem_of_lookup {key v : Value} {entries : List (Value × Value)}
    (h : lookup key entries = some v) : ∃ k, (k, v) ∈ entries ∧ k.sameKey key = true := by
  obtain ⟨⟨k, w⟩, hfind, rfl⟩ := Option.map_eq_some_iff.mp h
  exact ⟨k, List.mem_of_find?_eq_some hfind, by simpa using List.find?_some hfind⟩

/-- Somewhere in the value is an integer with too many digits. -/
inductive HoldsTooLong : Value → Prop
  | int {n : Int} : Nat.pow 10 Numeral.digitLimit ≤ n.natAbs → HoldsTooLong (.int n)
  | item {items : List Value} {v : Value} : v ∈ items → HoldsTooLong v → HoldsTooLong (.list items)
  | member {items : List Value} {v : Value} : v ∈ items → HoldsTooLong v → HoldsTooLong (.set items)
  | first {a b : Value} : HoldsTooLong a → HoldsTooLong (.pair a b)
  | second {a b : Value} : HoldsTooLong b → HoldsTooLong (.pair a b)
  | key {entries : List (Value × Value)} {k v : Value} :
      (k, v) ∈ entries → HoldsTooLong k → HoldsTooLong (.map entries)
  | value {entries : List (Value × Value)} {k v : Value} :
      (k, v) ∈ entries → HoldsTooLong v → HoldsTooLong (.map entries)
  | setting {t : Value} : HoldsTooLong t → HoldsTooLong (.setting t)

namespace HoldsTooLong

variable {items : List Value} {entries : List (Value × Value)} {a b t : Value}

theorem list_iff : (Value.list items).HoldsTooLong ↔ ∃ v ∈ items, v.HoldsTooLong :=
  ⟨fun | .item hv h => ⟨_, hv, h⟩, fun ⟨_, hv, h⟩ => .item hv h⟩

theorem set_iff : (Value.set items).HoldsTooLong ↔ ∃ v ∈ items, v.HoldsTooLong :=
  ⟨fun | .member hv h => ⟨_, hv, h⟩, fun ⟨_, hv, h⟩ => .member hv h⟩

theorem pair_iff : (Value.pair a b).HoldsTooLong ↔ a.HoldsTooLong ∨ b.HoldsTooLong :=
  ⟨fun | .first h => Or.inl h | .second h => Or.inr h, fun h => h.elim .first .second⟩

theorem map_iff : (Value.map entries).HoldsTooLong ↔
    ∃ e ∈ entries, e.1.HoldsTooLong ∨ e.2.HoldsTooLong :=
  ⟨fun | .key he h => ⟨_, he, Or.inl h⟩ | .value he h => ⟨_, he, Or.inr h⟩,
    fun ⟨_, he, h⟩ => h.elim (.key he) (.value he)⟩

theorem not_text (s : String) : ¬(Value.text s).HoldsTooLong := nofun

theorem setting_iff : (Value.setting t).HoldsTooLong ↔ t.HoldsTooLong :=
  ⟨fun | .setting h => h, .setting⟩

theorem of_lookup {key v : Value} (hv : lookup key entries = some v) (h : v.HoldsTooLong) :
    (Value.map entries).HoldsTooLong := by
  obtain ⟨k, hmem, -⟩ := mem_of_lookup hv
  exact .value hmem h

end HoldsTooLong

end Value

/-! ## Written forms -/

/-- A form is missing, for too many digits, exactly on a condition. -/
abbrev WrittenUnless {α : Type} (p : Prop) (x : Except NumeralFault α) : Prop :=
  FailsWhen (· = .tooLongToWrite) p x

namespace Value

theorem int_writtenUnless (n : Int) : WrittenUnless (Value.int n).HoldsTooLong (Numeral.write n) := by
  rw [Numeral.write]
  split
  · next h =>
    refine .ok ?_
    rintro ⟨hlong⟩
    exact Nat.not_lt.mpr hlong h
  · next h => exact .error rfl (.int (Nat.le_of_not_lt h))

mutual

theorem display_writtenUnless : ∀ v : Value, WrittenUnless v.HoldsTooLong v.display
  | .int n => int_writtenUnless n
  | .list items => ((displayItems_writtenUnless items).map _).congr HoldsTooLong.list_iff.symm
  | .set items => ((displayItems_writtenUnless items).map _).congr HoldsTooLong.set_iff.symm
  | .map entries => ((displayEntries_writtenUnless entries).map _).congr HoldsTooLong.map_iff.symm
  | .setting t => ((display_writtenUnless t).map _).congr HoldsTooLong.setting_iff.symm
  | .pair a b =>
    ((display_writtenUnless a).both (display_writtenUnless b) _).congr HoldsTooLong.pair_iff.symm
  | .null | .bool _ | .float _ | .text _ | .bytes _ | .date _ | .moment _ | .enclosing _ =>
    .ok nofun

theorem displayItems_writtenUnless :
    ∀ items, WrittenUnless (∃ v ∈ items, v.HoldsTooLong) (displayItems items)
  | [] => .ok nofun
  | v :: rest =>
    ((display_writtenUnless v).both (displayItems_writtenUnless rest) _).congr (by simp)

theorem displayEntries_writtenUnless : ∀ entries,
    WrittenUnless (∃ e ∈ entries, e.1.HoldsTooLong ∨ e.2.HoldsTooLong) (displayEntries entries)
  | [] => .ok nofun
  | (k, v) :: rest => by
    have hentry := ((display_writtenUnless k).both (display_writtenUnless v) fun a b => a ++ ": " ++ b).both
      (displayEntries_writtenUnless rest) List.cons
    rw [displayEntries]
    simpa using hentry.congr (by simp)

end

/-- The form of a value on its own is missing exactly for values that hold too long an integer. -/
theorem write_writtenUnless (v : Value) : WrittenUnless v.HoldsTooLong v.write := by
  cases v with
  | text s => exact .ok nofun
  | date d => exact .ok nofun
  | moment m => exact .ok nofun
  | _ => exact display_writtenUnless _

theorem writeOrFail_ok {v : Value} (h : ¬v.HoldsTooLong) : ∃ text, v.writeOrFail = .ok text := by
  obtain ⟨text, htext⟩ := v.write_writtenUnless.exists_ok_iff.mpr h
  exact ⟨text, by rw [writeOrFail, htext]; rfl⟩

theorem displayOrFail_ok {v : Value} (h : ¬v.HoldsTooLong) : ∃ text, v.displayOrFail = .ok text := by
  obtain ⟨text, htext⟩ := v.display_writtenUnless.exists_ok_iff.mpr h
  exact ⟨text, by rw [displayOrFail, htext]; rfl⟩

end Value

/-! ## Doubles -/

theorem Binary.bounds_of_ofFloat? {x : Float} {b : Binary} (h : ofFloat? x = some b) :
    b.mantissa < Nat.pow 2 53 ∧ b.exponent ≤ 971 := by
  have hfield : x.toBits.toNat / Nat.pow 2 52 % Nat.pow 2 11 < 2048 := Nat.mod_lt _ (Nat.two_pow_pos 11)
  have hlow : x.toBits.toNat % Nat.pow 2 52 < Nat.pow 2 52 := Nat.mod_lt _ (Nat.two_pow_pos 52)
  rw [ofFloat?] at h
  split at h
  · cases h
  · split at h
    · cases h
      exact ⟨Nat.lt_trans hlow (by decide), Int.neg_le_of_neg_le (by decide)⟩
    · cases h
      refine ⟨Nat.add_lt_add_left hlow (Nat.pow 2 52), ?_⟩
      dsimp only
      omega

theorem ten_pow_le {k l : Nat} (h : k ≤ l) : Nat.pow 10 k ≤ Nat.pow 10 l :=
  Nat.pow_le_pow_right (by decide) h

/-- A double is too small for an integer that cannot be written. -/
theorem Binary.natAbs_truncate_lt {x : Float} {b : Binary} (h : ofFloat? x = some b) :
    b.truncate.natAbs < Nat.pow 10 Numeral.digitLimit := by
  obtain ⟨hmantissa, hexponent⟩ := bounds_of_ofFloat? h
  have hsize : b.truncate.natAbs = b.ratio.1 / b.ratio.2 := by
    rw [truncate]
    dsimp only
    split
    · rw [Int.natAbs_neg]
      rfl
    · rfl
  rw [hsize]
  calc b.ratio.1 / b.ratio.2 ≤ b.mantissa * 2 ^ b.exponent.toNat := Nat.div_le_self _ _
    _ < 2 ^ 53 * 2 ^ b.exponent.toNat := Nat.mul_lt_mul_of_pos_right hmantissa (Nat.two_pow_pos _)
    _ = 2 ^ (53 + b.exponent.toNat) := (Nat.pow_add 2 53 _).symm
    _ ≤ 10 ^ (53 + b.exponent.toNat) := Nat.pow_le_pow_left (by decide) _
    _ ≤ Nat.pow 10 Numeral.digitLimit := ten_pow_le (by
      have hlimit : 1024 ≤ Numeral.digitLimit := by decide
      omega)

/-! ## Characters of numbers -/

namespace Decimal

/-- A character that no number is written with. -/
structure IsForeign (c : Char) : Prop where
  noDigit : c.isDigit = false
  noSign : c ∉ ['.', '-', '+', 'e', 'i', 'n', 'f', 'a']

theorem isForeign_dollar : IsForeign '$' := ⟨rfl, by decide⟩

theorem isForeign_upperN : IsForeign 'N' := ⟨rfl, by decide⟩

namespace IsForeign

variable {c : Char} {ds : List Char} (hc : IsForeign c)

include hc

theorem notMem_toDigits (n : Nat) : c ∉ Nat.toDigits 10 n := by
  intro h
  have hdigit := Nat.isDigit_of_mem_toDigits (by decide) (by decide) h
  rw [hc.noDigit] at hdigit
  cases hdigit

theorem notMem_toString (n : Int) : c ∉ (toString n).toList := by
  have hsign := hc.noSign
  cases n with
  | ofNat n => simpa [toString, Int.repr, Nat.repr] using hc.notMem_toDigits n
  | negSucc n => simp_all [toString, Int.repr, Nat.repr, hc.notMem_toDigits (n + 1)]

theorem ne_zero : c ≠ '0' := by
  rintro rfl
  cases hc.noDigit

theorem notMem_significant (n : Nat) : c ∉ significant n := by
  intro h
  rw [significant, List.mem_reverse] at h
  exact hc.notMem_toDigits n (List.mem_reverse.mp ((List.dropWhile_sublist _).mem h))

theorem notMem_positional (h : c ∉ ds) (point : Int) : c ∉ (positional ds point).toList := by
  have htake : ∀ n, c ∉ ds.take n := fun n hmem => h (List.mem_of_mem_take hmem)
  have hdrop : ∀ n, c ∉ ds.drop n := fun n hmem => h (List.mem_of_mem_drop hmem)
  have hsign := hc.noSign
  have hzero := hc.ne_zero
  rw [positional]
  split
  · simp_all
  · split <;> simp_all

theorem notMem_scientific (h : c ∉ ds) (layout : Layout) (exponent : Int) :
    c ∉ (scientific layout ds exponent).toList := by
  have htake : c ∉ ds.take 1 := fun hmem => h (List.mem_of_mem_take hmem)
  have htail : c ∉ ds.tail := fun hmem => h (List.mem_of_mem_tail hmem)
  have hpower := hc.notMem_toDigits exponent.natAbs
  have hsign := hc.noSign
  have hzero := hc.ne_zero
  rw [scientific]
  split <;> split <;> simp_all

theorem notMem_text (x : Float) : c ∉ (Decimal.text x).toList := by
  have hsign := hc.noSign
  have hzero := hc.ne_zero
  rw [Decimal.text]
  split
  · rw [ofSpecial]
    split
    · simp_all
    · split <;> simp_all
  · next b _ =>
    have hbody : c ∉ (if b.mantissa = 0 then "0.0" else ofScaled plain (Shortest.ofBinary b)).toList := by
      split
      · simp_all
      · rw [ofScaled]
        split
        · exact hc.notMem_positional (hc.notMem_significant _) _
        · exact hc.notMem_scientific (hc.notMem_significant _) _ _
    dsimp only
    split
    · simp_all
    · exact hbody

end IsForeign

end Decimal

end ElementFinder

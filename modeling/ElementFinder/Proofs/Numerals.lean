import ElementFinder.Number.Decimal
import ElementFinder.Number.Numeral
import Mathlib.Data.List.TakeWhile

/-!
# Numerals

A numeral that is read stands for an integer that has not too many digits, and such an integer is read from its
numeral as itself. A double is written with a point or with the mark of an exponent, and a text with one of
these is no numeral.
-/

namespace ElementFinder

/-! ## What numerals stand for -/

theorem Text.digitValue?_lt {base d : Nat} {c : Char} (h : digitValue? base c = some d) : d < base := by
  rw [digitValue?, Option.filter_eq_some_iff] at h
  exact of_decide_eq_true h.2

theorem Text.ofDigits_lt {base : Nat} {ds : List Nat} (h : ∀ d ∈ ds, d < base) :
    ofDigits base ds < Nat.pow base ds.length := by
  have hfrom : ∀ n, ds.foldl (fun n d => n * base + d) n < (n + 1) * base ^ ds.length := by
    induction ds with
    | nil => simp
    | cons d ds ih =>
        intro n
        obtain ⟨hd, hds⟩ := List.forall_mem_cons.mp h
        calc (d :: ds).foldl (fun n d => n * base + d) n
            < (n * base + d + 1) * base ^ ds.length := ih hds _
          _ ≤ ((n + 1) * base) * base ^ ds.length := Nat.mul_le_mul_right _ (by rw [Nat.add_mul]; omega)
          _ = (n + 1) * base ^ (d :: ds).length := by rw [Nat.mul_assoc, List.length_cons, Nat.pow_succ']
  have hall := hfrom 0
  rwa [Nat.zero_add, Nat.one_mul] at hall

namespace Numeral

theorem digitRun_lt {base : Nat} {cs more : List Char} {ds : List Nat}
    (h : digitRun base cs = some (ds, more)) : ∀ d ∈ ds, d < base := by
  fun_induction digitRun base cs generalizing ds more with
  | case1 | case3 | case4 =>
      cases h
      nofun
  | case2 c d hd =>
      cases h
      simpa using Text.digitValue?_lt hd
  | case5 c rest d hd e ds more hrest ih =>
      cases h
      exact List.forall_mem_cons.mpr ⟨Text.digitValue?_lt hd, ih hrest⟩
  | case6 => cases h
  | case7 c u rest d hd hu ih =>
      obtain ⟨⟨ds, more⟩, hrest, h⟩ := Option.map_eq_some_iff.mp h
      cases h
      exact List.forall_mem_cons.mpr ⟨Text.digitValue?_lt hd, ih hrest⟩

theorem read_lt {s : String} {n : Int} (h : read 10 s = .ok n) : n.natAbs < Nat.pow 10 digitLimit := by
  rw [read] at h
  split at h
  next negative cs _ =>
  split at h
  · cases h
  · next ds rest hrun =>
    split at h
    · cases h
    · next hlimit =>
      split at h
      · cases h
      · have hlength : ds.length ≤ digitLimit := by simpa [limited] using hlimit
        have hsize : n.natAbs = Text.ofDigits 10 ds := by
          cases h
          cases negative <;> simp
        generalize digitLimit = limit at hlength ⊢
        rw [hsize]
        exact Nat.lt_of_lt_of_le (Text.ofDigits_lt (digitRun_lt hrun))
          (Nat.pow_le_pow_right (by decide) hlength)

/-! ## Numerals of integers -/

theorem toNat_of_isDigit {c : Char} (h : c.isDigit = true) : 48 ≤ c.toNat ∧ c.toNat ≤ 57 :=
  Char.isDigit_iff_toNat.mp h

theorem digitValue?_of_isDigit {c : Char} (h : c.isDigit = true) :
    Text.digitValue? 10 c = some (c.toNat - 48) := by
  obtain ⟨-, hnine⟩ := toNat_of_isDigit h
  rw [Text.digitValue?, if_pos h, Option.filter_some, if_pos (by simp; omega)]

theorem digitRun_of_isDigit {cs : List Char} (h : ∀ c ∈ cs, c.isDigit = true) :
    digitRun 10 cs = some (cs.map (·.toNat - 48), []) := by
  induction cs with
  | nil => rfl
  | cons c rest ih =>
      obtain ⟨hc, hrest⟩ := List.forall_mem_cons.mp h
      have hvalue := digitValue?_of_isDigit hc
      cases rest with
      | nil => simp [digitRun, hvalue]
      | cons u rest =>
          have hu : u ≠ '_' := by
            rintro rfl
            exact absurd (hrest '_' List.mem_cons_self) (by decide)
          rw [digitRun, hvalue]
          simp [hu, ih hrest]

theorem ofDigits_digits (cs : List Char) :
    Text.ofDigits 10 (cs.map (·.toNat - 48)) = Nat.ofDigitChars 10 cs 0 := by
  have hfrom : ∀ n, (cs.map (·.toNat - 48)).foldl (fun n d => n * 10 + d) n = Nat.ofDigitChars 10 cs n := by
    induction cs with
    | nil => exact fun _ => rfl
    | cons c rest ih =>
        intro n
        rw [List.map_cons, List.foldl_cons, ih, Nat.ofDigitChars_cons, Nat.mul_comm]
        rfl
  exact hfrom 0

theorem trimOf_eq_self {drop : Char → Bool} {cs : List Char} (h : ∀ c ∈ cs, drop c = false) :
    Text.trimOf drop cs = cs := by
  have hkeep : ∀ cs : List Char, (∀ c ∈ cs, drop c = false) → cs.dropWhile drop = cs := fun cs hcs =>
    List.dropWhile_eq_self_iff.mpr fun _ => by simp [hcs]
  rw [Text.trimOf, Text.trimEndOf, hkeep cs h, hkeep cs.reverse fun c hc => h c (List.mem_reverse.mp hc),
    List.reverse_reverse]

/-- A digit or a minus sign. -/
def IsPlain (c : Char) : Prop := c.isDigit = true ∨ c = '-'

theorem IsPlain.plainDigit_eq {c : Char} (h : IsPlain c) : plainDigit c = c := by
  rw [plainDigit, if_pos]
  rcases h with h | rfl
  · exact Nat.lt_of_le_of_lt (toNat_of_isDigit h).2 (by decide)
  · decide

theorem IsPlain.isMargin_eq {c : Char} (h : IsPlain c) : isMargin c = false := by
  rcases h with h | rfl
  · obtain ⟨hzero, hnine⟩ := toNat_of_isDigit h
    have hblank : Text.isBlank c = false := by
      simp [Text.isBlank]
      omega
    rw [isMargin, hblank]
    rfl
  · decide

theorem core_of_plain {s : String} (h : ∀ c ∈ s.toList, IsPlain c) : core s = s.toList := by
  have hplain : s.toList.map plainDigit = s.toList :=
    (List.map_congr_left fun c hc => (h c hc).plainDigit_eq).trans (List.map_id' s.toList)
  rw [core, hplain, trimOf_eq_self fun c hc => (h c hc).isMargin_eq]

theorem dropBaseMark_ten (cs : List Char) : dropBaseMark 10 cs = cs := by
  rw [dropBaseMark.eq_def]
  split <;> simp

theorem splitSign_of_isDigit {cs : List Char} (h : ∀ c ∈ cs, c.isDigit = true) :
    splitSign cs = (false, cs) := by
  rw [splitSign.eq_def]
  split
  · exact absurd (h '-' List.mem_cons_self) (by decide)
  · exact absurd (h '+' List.mem_cons_self) (by decide)
  · rfl

theorem read_of_digits {s : String} {negative : Bool} {cs : List Char}
    (hcore : splitSign (core s) = (negative, cs)) (hdigits : ∀ c ∈ cs, c.isDigit = true) (hne : cs ≠ [])
    (hlength : cs.length ≤ digitLimit) :
    read 10 s = .ok (if negative then -(Nat.ofDigitChars 10 cs 0 : Int) else Nat.ofDigitChars 10 cs 0) := by
  rw [read, hcore]
  simp [dropBaseMark_ten, digitRun_of_isDigit hdigits, ofDigits_digits, hne, Nat.not_lt.mpr hlength]

theorem isDigit_of_mem_digits {n : Nat} {c : Char} (h : c ∈ Nat.toDigits 10 n) : c.isDigit = true :=
  Nat.isDigit_of_mem_toDigits (by decide) (by decide) h

/-- The numeral of an integer has its sign and its digits. -/
theorem splitSign_core_toString (n : Int) :
    splitSign (core (toString n)) = (decide (n < 0), Nat.toDigits 10 n.natAbs) := by
  cases n with
  | ofNat m =>
      have hlist : (toString (Int.ofNat m)).toList = Nat.toDigits 10 m := Nat.toList_repr
      have hcore : core (toString (Int.ofNat m)) = Nat.toDigits 10 m := by
        rw [core_of_plain fun c hc => Or.inl (isDigit_of_mem_digits (hlist ▸ hc)), hlist]
      rw [hcore]
      exact splitSign_of_isDigit fun _ => isDigit_of_mem_digits
  | negSucc m =>
      have hlist : (toString (Int.negSucc m)).toList = '-' :: Nat.toDigits 10 (m + 1) := by
        simp [toString, Int.repr]
      have hplain : ∀ c ∈ (toString (Int.negSucc m)).toList, IsPlain c := by
        rw [hlist]
        exact List.forall_mem_cons.mpr ⟨Or.inr rfl, fun c hc => Or.inl (isDigit_of_mem_digits hc)⟩
      rw [core_of_plain hplain, hlist]
      exact Prod.ext (decide_eq_true (Int.negSucc_lt_zero m)).symm rfl

theorem length_toDigits_le {n limit : Nat} (hpos : 0 < limit) (h : n < Nat.pow 10 limit) :
    (Nat.toDigits 10 n).length ≤ limit :=
  (Nat.length_toDigits_le_iff (by decide) hpos).mpr h

/-- An integer is read from its numeral, unless that is too long. -/
theorem read?_toString {n : Int} (h : n.natAbs < Nat.pow 10 digitLimit) : read? (toString n) = some n := by
  have hlength := length_toDigits_le (by decide) h
  have hread := read_of_digits (splitSign_core_toString n) (fun _ => isDigit_of_mem_digits)
    Nat.toDigits_ne_nil hlength
  rw [Nat.ofDigitChars_toDigits (by decide) (by decide)] at hread
  rw [read?, hread]
  have hsign : (if decide (n < 0) then -(n.natAbs : Int) else n.natAbs) = n := by
    simp only [decide_eq_true_eq]
    split <;> omega
  exact congrArg some hsign

/-! ## Texts that are no numerals -/

theorem mem_dropWhile {drop : Char → Bool} {c : Char} {cs : List Char} (hc : drop c = false) (hmem : c ∈ cs) :
    c ∈ cs.dropWhile drop := by
  rw [← List.takeWhile_append_dropWhile (p := drop) (l := cs)] at hmem
  refine (List.mem_append.mp hmem).resolve_left fun htake => ?_
  cases hc.symm.trans (List.mem_takeWhile_imp htake)

theorem mem_trimOf {drop : Char → Bool} {c : Char} {cs : List Char} (hc : drop c = false) (hmem : c ∈ cs) :
    c ∈ Text.trimOf drop cs :=
  List.mem_reverse.mpr (mem_dropWhile hc (List.mem_reverse.mpr (mem_dropWhile hc hmem)))

theorem mem_splitSign {c : Char} {cs : List Char} (hminus : c ≠ '-') (hplus : c ≠ '+') (hmem : c ∈ cs) :
    c ∈ (splitSign cs).2 := by
  rw [splitSign.eq_def]
  split
  · exact (List.mem_cons.mp hmem).resolve_left hminus
  · exact (List.mem_cons.mp hmem).resolve_left hplus
  · exact hmem

theorem mem_of_digitRun {base : Nat} {cs more : List Char} {ds : List Nat} {c : Char}
    (hc : Text.digitValue? base c = none) (hunder : c ≠ '_') (hmem : c ∈ cs)
    (h : digitRun base cs = some (ds, more)) : c ∈ more := by
  -- The run may take what stands before the character, but not the character, which is no digit.
  fun_induction digitRun base cs generalizing ds more with
  | case1 => cases hmem
  | case2 d e he =>
      obtain rfl := List.mem_singleton.mp hmem
      cases hc.symm.trans he
  | case3 | case4 =>
      cases h
      exact hmem
  | case5 d rest e he f ds more hrest ih =>
      cases h
      have hrest' : c ∈ rest := by
        rcases List.mem_cons.mp hmem with rfl | hmem
        · cases hc.symm.trans he
        · exact (List.mem_cons.mp hmem).resolve_left hunder
      exact ih hrest' hrest
  | case6 => cases h
  | case7 d u rest e he hu ih =>
      obtain ⟨⟨ds, more⟩, hrest, h⟩ := Option.map_eq_some_iff.mp h
      cases h
      rcases List.mem_cons.mp hmem with rfl | hmem
      · cases hc.symm.trans he
      · exact ih hmem hrest

/-- A text with a point or with the mark of an exponent is no numeral. -/
theorem read?_eq_none {s : String} {c : Char} (hc : c = '.' ∨ c = 'e') (hmem : c ∈ s.toList) :
    read? s = none := by
  obtain ⟨hdigit, hunder, hminus, hplus, hmargin, hplain⟩ : Text.digitValue? 10 c = none ∧ c ≠ '_' ∧
      c ≠ '-' ∧ c ≠ '+' ∧ isMargin c = false ∧ plainDigit c = c := by
    rcases hc with rfl | rfl <;> decide
  have hcore : c ∈ core s := mem_trimOf hmargin (List.mem_map.mpr ⟨c, hmem, hplain⟩)
  have hsign : c ∈ (splitSign (core s)).2 := mem_splitSign hminus hplus hcore
  rw [read?, read]
  rcases hsplit : splitSign (core s) with ⟨negative, cs⟩
  rw [hsplit] at hsign
  simp only [dropBaseMark_ten]
  cases hrun : digitRun 10 cs with
  | none => rfl
  | some run =>
      obtain ⟨ds, rest⟩ := run
      have hrest : rest.isEmpty = false :=
        List.isEmpty_eq_false_iff.mpr (List.ne_nil_of_mem (mem_of_digitRun hdigit hunder hsign hrun))
      simp only [hrest, Bool.not_false, Bool.or_true, ↓reduceIte]
      split <;> rfl

end Numeral

/-! ## Texts of doubles -/

namespace Decimal

theorem point_mem_positional (ds : List Char) (point : Int) : '.' ∈ (positional ds point).toList := by
  rw [positional]
  split
  · simp
  · split <;> simp

theorem mark_mem_scientific (layout : Layout) (ds : List Char) (exponent : Int) :
    'e' ∈ (scientific layout ds exponent).toList := by
  rw [scientific]
  split <;> split <;> simp

/-- A number that is a double is written with a point or with an exponent. -/
theorem exists_mem_text {x : Float} {b : Binary} (h : Binary.ofFloat? x = some b) :
    ∃ c, (c = '.' ∨ c = 'e') ∧ c ∈ (text x).toList := by
  have hbody : ∃ c, (c = '.' ∨ c = 'e') ∧
      c ∈ (if b.mantissa = 0 then "0.0" else ofScaled plain (Shortest.ofBinary b)).toList := by
    split
    · exact ⟨'.', Or.inl rfl, by decide⟩
    · rw [ofScaled]
      split
      · exact ⟨'.', Or.inl rfl, point_mem_positional _ _⟩
      · exact ⟨'e', Or.inr rfl, mark_mem_scientific _ _ _⟩
  obtain ⟨c, hc, hmem⟩ := hbody
  refine ⟨c, hc, ?_⟩
  rw [text, h]
  dsimp only
  split
  · rw [String.toList_append]
    exact List.mem_append_right _ hmem
  · exact hmem

theorem read?_text {x : Float} {b : Binary} (h : Binary.ofFloat? x = some b) : Numeral.read? (text x) = none := by
  obtain ⟨c, hc, hmem⟩ := exists_mem_text h
  exact Numeral.read?_eq_none hc hmem

end Decimal

end ElementFinder

import ElementFinder.Proofs.PatternFaults
import ElementFinder.Proofs.SetFields

/-!
# Comparing texts

A text asked for is compared with other texts if it is plain, a pattern that can be read, or malformed, and then
it finds itself. A pattern with any other fault is not compared at all.
-/

namespace ElementFinder

open Pattern

/-! ## Marks of patterns -/

section

variable {text cs : List Char} {a c : Char}

/-- A sign that only patterns use is a mark, wherever it stands behind a character other than a backslash. -/
theorem hasPatternMark_of_infix (before : Option Char) (ha : a ≠ '\\') (hc : isPatternSign c = true)
    (h : [a, c] <:+: text) : hasPatternMark before text = true := by
  induction text generalizing before with
  | nil => simp at h
  | cons d rest ih =>
      rw [hasPatternMark, Bool.or_eq_true]
      right
      rcases List.infix_cons_iff.mp h with hfront | hrest
      · obtain ⟨rfl, after, rfl⟩ := List.cons_prefix_cons.mp hfront
        have hpoint : c ≠ '.' := by rintro rfl; exact absurd hc (by decide)
        have hcaret : c ≠ '^' := by rintro rfl; exact absurd hc (by decide)
        have hdollar : c ≠ '$' := by rintro rfl; exact absurd hc (by decide)
        simp [hasPatternMark, marksPattern, ha, hc, hpoint, hcaret, hdollar]
      · exact ih (some d) hrest

theorem hasPatternMark_of_run (hne : cs ≠ []) (hcs : ∀ a ∈ cs, a ≠ '\\') (hc : isPatternSign c = true)
    (h : cs ++ [c] <:+: text) : hasPatternMark none text = true := by
  refine hasPatternMark_of_infix none (hcs _ (List.getLast_mem hne)) hc (.trans ⟨cs.dropLast, [], ?_⟩ h)
  conv_rhs => rw [← List.dropLast_append_getLast hne]
  simp

end

theorem looksLikePattern_of_hasFarCount {text : String} (h : HasFarCount text.toList) :
    looksLikePattern text = true := by
  obtain ⟨ds, es, hds, hes, hin⟩ := h
  have hdigit (d : Char) (hd : d.isDigit = true) : d ≠ '\\' := by
    rintro rfl
    exact absurd hd (by decide)
  refine hasPatternMark_of_run (by simp [hds.ne_nil]) (List.forall_mem_append.mpr ⟨?_, ?_⟩) (by decide) hin
  · exact fun d hd => hdigit d (hds.digits d hd)
  · obtain rfl | ⟨fs, rfl, hfs⟩ := hes
    · simp
    · exact List.forall_mem_cons.mpr ⟨by decide, fun d hd => hdigit d (hfs d hd)⟩

theorem looksLikePattern_of_setsFlag {text : String} {flag : Char} (h : SetsFlag flag text.toList) :
    looksLikePattern text = true := by
  obtain ⟨cs, hflag, hcs, hin⟩ := h
  refine hasPatternMark_of_run (List.ne_nil_of_mem hflag) ?_ (by decide) hin
  rintro _ hc rfl
  exact absurd (hcs _ hc) (by decide)

/-! ## Texts that can be compared -/

/-- The text is plain, a pattern that can be read, or malformed. -/
def IsComparable (asked : String) : Prop :=
  looksLikePattern asked = false ∨ (∃ program, read { ignoreCase := true } asked = .ok program) ∨
    read { ignoreCase := true } asked = .error .malformed

/-- The text holds the other one, letter case aside. -/
def HoldsAnyCase (text part : String) : Prop := (Text.lower part).toList <:+: (Text.lower text).toList

section

variable {asked : String} {test : TextTest}

/-- A plain text that is no pattern is malformed as one. -/
theorem read_plain {fault : Fault} (hplain : looksLikePattern asked = false)
    (hread : read { ignoreCase := true } asked = .error fault) : fault = .malformed := by
  obtain hmalformed | hfar | ⟨hascii, -⟩ := (admits_of_read rfl hread).malformed_or
  · exact hmalformed
  · simp [looksLikePattern_of_hasFarCount hfar] at hplain
  · simp [looksLikePattern_of_setsFlag hascii] at hplain

theorem isComparable_iff_read : IsComparable asked ↔
    ∀ fault, read { ignoreCase := true } asked = .error fault → fault = .malformed := by
  constructor
  · rintro (hplain | ⟨program, hread⟩ | hread) fault hfault
    · exact read_plain hplain hfault
    · cases hread.symm.trans hfault
    · exact Except.error.inj (hfault.symm.trans hread)
  · intro h
    cases hread : read { ignoreCase := true } asked with
    | ok program => exact .inr (.inl ⟨program, hread⟩)
    | error fault => exact .inr (.inr (h fault hread ▸ hread))

theorem isComparable_iff_ofText : IsComparable asked ↔ ∃ test, TextTest.ofText asked = .ok test := by
  rw [IsComparable, TextTest.ofText]
  cases looksLikePattern asked with
  | false => simp
  | true => rcases read { ignoreCase := true } asked with (_ | _ | _ | _) | _ <;> simp

theorem containsAnyCase_iff {text part : String} :
    TextTest.containsAnyCase text part = true ↔ HoldsAnyCase text part :=
  Text.contains_iff

/-- The text is tested as it stands, or as the pattern that it is. -/
theorem ofText_cases (htest : TextTest.ofText asked = .ok test) : test = .plain asked ∨
    ∃ program, read { ignoreCase := true } asked = .ok program ∧ test = .pattern asked program := by
  rw [TextTest.ofText] at htest
  split at htest
  · split at htest <;> cases htest
    · next program hread => exact .inr ⟨program, hread, rfl⟩
    · exact .inl rfl
  · cases htest
    exact .inl rfl

/-- A text passes the test that it asks for, also where it is a pattern that does not match itself. -/
theorem accepts_self (hne : asked ≠ "") (htest : TextTest.ofText asked = .ok test) :
    test.accepts asked = true := by
  obtain rfl | ⟨program, -, rfl⟩ := ofText_cases htest
  · exact containsAnyCase_iff.mpr List.infix_rfl
  · simp [TextTest.accepts, hne]

end

/-! ## Main results -/

/-- The text is compared with the texts: some of them hold it if it is no pattern that can be read. -/
def IsCompared (asked : String) (texts : List String) : Prop :=
  ∃ b, matchesText asked texts = .ok b ∧
    ((∀ program, read { ignoreCase := true } asked ≠ .ok program) → (b = true ↔ ∃ t ∈ texts, HoldsAnyCase t asked))

/-- A text is compared exactly if reading it as a pattern does not end with another fault than a malformed
pattern. Such a fault needs a count out of reach in braces, or both choices of character classes among flags. -/
theorem text_is_compared_iff (asked : String) (texts : List String) :
    (IsCompared asked texts ↔
        ∀ fault, read { ignoreCase := true } asked = .error fault → fault = .malformed) ∧
      (IsCompared asked texts ∨ HasFarCount asked.toList ∨
        SetsFlag 'a' asked.toList ∧ SetsFlag 'u' asked.toList) := by
  have hiff : IsCompared asked texts ↔ IsComparable asked := by
    rw [isComparable_iff_ofText]
    constructor
    · rintro ⟨b, hb, -⟩
      obtain ⟨test, htest, -⟩ := matchesText_eq_ok.mp hb
      exact ⟨test, htest⟩
    · rintro ⟨test, htest⟩
      refine ⟨_, matchesText_eq_ok.mpr ⟨test, htest, rfl⟩, fun hread => ?_⟩
      obtain rfl | ⟨program, hok, -⟩ := ofText_cases htest
      · simp only [List.any_eq_true, TextTest.accepts, containsAnyCase_iff]
      · exact absurd hok (hread program)
  rw [hiff]
  refine ⟨isComparable_iff_read, ?_⟩
  by_cases hcomparable : IsComparable asked
  · exact .inl hcomparable
  · simp only [isComparable_iff_read, not_forall] at hcomparable
    obtain ⟨fault, hread, hother⟩ := hcomparable
    exact .inr ((admits_of_read rfl hread).malformed_or.resolve_left hother)

/-- A count that no repetition has makes the comparison fail, and the text is part of the other one. -/
theorem far_count_is_not_compared :
    ¬IsCompared "a\x7b4294967295\x7d" ["A\x7b4294967295\x7d"] ∧
      HoldsAnyCase "A\x7b4294967295\x7d" "a\x7b4294967295\x7d" := by
  have hfails : (matchesText "a\x7b4294967295\x7d" ["A\x7b4294967295\x7d"]).toOption = none := by
    decide +kernel
  constructor
  · rintro ⟨b, hb, -⟩
    rw [hb] at hfails
    cases hfails
  · exact containsAnyCase_iff.mp (by decide +kernel)

/-- An element matches each of its own texts, and texts match together exactly if one of them does alone, in
whatever order and number. -/
theorem node_matches_its_texts {asked : String} (hasked : IsComparable asked) :
    (∀ n : Node, asked ∈ n.attributes.texts → asked ≠ "" →
        (Selector.ofText asked).criteria.matchesNode n = .ok true) ∧
      (∀ texts, ∃ b, matchesText asked texts = .ok b) ∧
      (∀ texts, matchesText asked texts = .ok true ↔ ∃ x ∈ texts, matchesText asked [x] = .ok true) ∧
      ∀ texts others, (∀ x, x ∈ texts ↔ x ∈ others) → matchesText asked texts = matchesText asked others := by
  obtain ⟨test, htest⟩ := isComparable_iff_ofText.mp hasked
  have hresult (texts : List String) : matchesText asked texts = .ok (texts.any test.accepts) :=
    matchesText_eq_ok.mpr ⟨test, htest, rfl⟩
  refine ⟨fun n hn hne => ?_, fun texts => ⟨_, hresult texts⟩, fun texts => matchesText_iff,
    fun texts others h => ?_⟩
  · have hrest : (Selector.ofText asked).criteria.restMeets n.attributes = true :=
      Criteria.restMeets_iff.mpr ⟨rfl, rfl, rfl, rfl, rfl, rfl⟩
    refine Criteria.matchesNode_eq_true.mpr ⟨Criteria.textMeets_iff.mpr ?_, hrest⟩
    rintro _ ⟨⟩
    refine ⟨asked, hn, ?_⟩
    rw [hresult, List.any_cons, accepts_self hne htest, Bool.true_or]
  · rw [hresult, hresult, Except.ok.injEq, Bool.eq_iff_iff]
    simp [h]

/-- A label that does not match itself as a pattern. -/
theorem node_matches_its_texts_sum :
    let sum : Node := { attributes := { label := "a+b" } }
    IsComparable "a+b" ∧ "a+b" ∈ sum.attributes.texts ∧
      (Selector.ofText "a+b").criteria.matchesNode sum = .ok true := by
  intro sum
  have hasked : IsComparable "a+b" := .inr (.inl ⟨_, rfl⟩)
  exact ⟨hasked, by decide, (node_matches_its_texts hasked).1 sum (by decide) (by decide)⟩

end ElementFinder

import ElementFinder.Proofs.FieldSources

/-!
# Entries without a value

A known key with null for its value sets nothing, so such entries may be added to the mappings of a selector
and taken away. The other key for the text is the exception: its null is written like any value, and where
it is the last that counts, its words are the text.
-/

namespace ElementFinder

theorem forall₂_imp_mem {α β : Type} {R S : α → β → Prop} {l : List α} {l' : List β}
    (h : List.Forall₂ R l l') (himp : ∀ a ∈ l, ∀ b ∈ l', R a b → S a b) : List.Forall₂ S l l' := by
  induction h with
  | nil => exact .nil
  | cons hab _ ih =>
      refine .cons (himp _ List.mem_cons_self _ List.mem_cons_self hab) (ih fun a ha b hb => ?_)
      exact himp a (List.mem_cons_of_mem _ ha) b (List.mem_cons_of_mem _ hb)

theorem forall₂_and {α β : Type} {R S : α → β → Prop} {l : List α} {l' : List β}
    (hr : List.Forall₂ R l l') (hs : List.Forall₂ S l l') : List.Forall₂ (fun a b => R a b ∧ S a b) l l' := by
  induction hr with
  | nil => exact .nil
  | cons hab _ ih =>
      obtain ⟨hab', hs⟩ := List.forall₂_cons.mp hs
      exact .cons ⟨hab, hab'⟩ (ih hs)

/-- A value that counts as false is not written like null, if it is not null. -/
theorem Value.writeOrFail_ne_null {v : Value} (hnull : v.isNull = false) (hfalse : v.truthy = false) :
    v.writeOrFail ≠ .ok "None" := by
  have hwords : ∀ {text : String}, v.writeOrFail = .ok text → text ≠ "None" →
      v.writeOrFail ≠ .ok "None" := by
    intro text hv hne heq
    exact hne (Except.ok.inj (hv.symm.trans heq))
  cases v with
  | null => cases hnull
  | bool b =>
      obtain rfl : b = false := hfalse
      exact hwords rfl (by decide)
  | int n =>
      intro heq
      change (Numeral.write n).mapError Failure.numeral = .ok "None" at heq
      rw [Numeral.write] at heq
      split at heq
      · exact Decimal.isForeign_upperN.notMem_toString n (Except.ok.inj heq ▸ by decide)
      · cases heq
  | float x => exact hwords rfl fun heq => Decimal.isForeign_upperN.notMem_text x (heq ▸ by decide)
  | text s =>
      obtain rfl : s = "" := by simpa [truthy] using hfalse
      exact hwords rfl (by decide)
  | bytes bs =>
      obtain rfl : bs = [] := by simpa [truthy] using hfalse
      exact hwords rfl (by decide)
  | list items =>
      obtain rfl : items = [] := by simpa [truthy] using hfalse
      exact hwords rfl (by decide)
  | set items =>
      obtain rfl : items = [] := by simpa [truthy] using hfalse
      exact hwords rfl (by decide)
  | map entries =>
      obtain rfl : entries = [] := by simpa [truthy] using hfalse
      exact hwords rfl (by decide)
  | _ => cases hfalse

namespace Selector

open Value

variable {strict textGiven : Bool} {place : String} {v w : Value} {e f : Value × Value}
  {xs ys : List (Value × Value)} {k : FieldKey} {s t : Selector}

/-! ## The same selector data but for null entries -/

/-- The entry has a known key, and null for its value. -/
def isNullEntry (e : Value × Value) : Bool :=
  e.2.isNull && match EntryKind.ofKey e.1 with
    | .unknown => false
    | _ => true

/-- The entries but for those with a known key and null. -/
def given (entries : List (Value × Value)) : List (Value × Value) :=
  entries.filter fun e => !isNullEntry e

/-- The value that the text is from: the last one that counts for it. -/
def textSource (entries : List (Value × Value)) : Option Value :=
  (entries.reverse.find? fun e => target (givesText entries) e == some .text).map (·.2)

mutual

/-- Two values are the same but for null entries in the mappings of the selector, its anchors and
descendants; and any two such mappings meet a condition. -/
inductive NullsAside (p : List (Value × Value) → List (Value × Value) → Prop) : Value → Value → Prop
  | same (v : Value) : NullsAside p v v
  | map {xs ys : List (Value × Value)} : p xs ys →
      List.Forall₂ (EntryNullsAside p) (given xs) (given ys) → NullsAside p (.map xs) (.map ys)

/-- The same for two entries. -/
inductive EntryNullsAside (p : List (Value × Value) → List (Value × Value) → Prop) :
    Value × Value → Value × Value → Prop
  | same (e : Value × Value) : EntryNullsAside p e e
  | anchor {key v w : Value} {r : Relation} {name : String} :
      EntryKind.ofKey key = .field (.anchor r) name → NullsAside p v w →
      EntryNullsAside p (key, v) (key, w)
  | descendants {key : Value} {items items' : List Value} {name : String} :
      EntryKind.ofKey key = .field .descendants name → List.Forall₂ (NullsAside p) items items' →
      EntryNullsAside p (key, .list items) (key, .list items')

end

/-- The text is from null in both mappings or in neither. -/
def SameNullText (xs ys : List (Value × Value)) : Prop :=
  textSource xs = some .null ↔ textSource ys = some .null

variable {p : List (Value × Value) → List (Value × Value) → Prop} {key : Value} {name : String}

theorem mem_given : e ∈ given xs ↔ e ∈ xs ∧ isNullEntry e = false := by
  simp [given]

theorem nullsAside_map_iff (hp : ∀ xs, p xs xs) : NullsAside p (.map xs) (.map ys) ↔
    p xs ys ∧ List.Forall₂ (EntryNullsAside p) (given xs) (given ys) := by
  constructor
  · intro h
    cases h with
    | same => exact ⟨hp xs, List.forall₂_same.mpr fun e _ => .same e⟩
    | map h hentries => exact ⟨h, hentries⟩
  · exact fun h => .map h.1 h.2

theorem entryNullsAside_anchor_iff {r : Relation} (hkey : EntryKind.ofKey key = .field (.anchor r) name) :
    EntryNullsAside p (key, v) (key, w) ↔ NullsAside p v w := by
  constructor
  · intro h
    cases h with
    | same => exact .same v
    | anchor _ h => exact h
    | descendants h _ => cases hkey.symm.trans h
  · exact .anchor hkey

theorem entryNullsAside_descendants_iff {items items' : List Value}
    (hkey : EntryKind.ofKey key = .field .descendants name) :
    EntryNullsAside p (key, .list items) (key, .list items') ↔ List.Forall₂ (NullsAside p) items items' := by
  constructor
  · intro h
    cases h with
    | same => exact List.forall₂_same.mpr fun v _ => .same v
    | anchor h _ => cases hkey.symm.trans h
    | descendants _ h => exact h
  · exact .descendants hkey

theorem EntryNullsAside.key_eq (h : EntryNullsAside p e f) : f.1 = e.1 := by
  cases h <;> rfl

theorem isNull_of_isNullEntry (h : isNullEntry e = true) : e.2 = .null := by
  obtain ⟨key, v⟩ := e
  cases v with
  | null => rfl
  | _ => cases h

theorem EntryNullsAside.target_eq (h : EntryNullsAside p e f) (he : isNullEntry e = false)
    (hf : isNullEntry f = false) : target textGiven f = target textGiven e := by
  cases h with
  | same => rfl
  | anchor hkey _ =>
      simp only [isNullEntry, hkey, Bool.and_true] at he hf
      simp [target, hkey, he, hf]
  | descendants hkey _ => simp [target, hkey, isNull]

theorem EntryNullsAside.eq_of_untargeted (h : EntryNullsAside p e f) (he : isNullEntry e = false)
    (hk : target textGiven e = none) : f = e := by
  cases h with
  | same => rfl
  | anchor hkey _ =>
      simp only [isNullEntry, hkey, Bool.and_true] at he
      simp [target, hkey, he] at hk
  | descendants hkey _ => simp [target, hkey, isNull] at hk

theorem EntryNullsAside.eq_of_text (h : EntryNullsAside p e f)
    (hk : target textGiven e = some .text ∨ target textGiven f = some .text) : f = e := by
  cases h with
  | same => rfl
  | anchor hkey _ | descendants hkey _ => simp [target, hkey] at hk

/-- The null of an entry counts for the text as that of its other key, if no text is given. -/
theorem key_of_target_null (h : target textGiven (key, .null) = some k) :
    key = .text textAlias ∧ textGiven = false := by
  rw [target] at h
  cases hkey : EntryKind.ofKey key with
  | textAlias =>
      refine ⟨EntryKind.key_of_textAlias hkey, ?_⟩
      cases textGiven with
      | true => simp [hkey] at h
      | false => rfl
  | unknown => simp [hkey] at h
  | field k name => simp [hkey, isNull] at h

theorem key_of_target_text (h : target textGiven e = some .text) :
    e.1 = .text textAlias ∨ e.1 = .text "text" := by
  rw [target] at h
  cases hkey : EntryKind.ofKey e.1 with
  | textAlias => exact Or.inl (EntryKind.key_of_textAlias hkey)
  | unknown => simp [hkey] at h
  | field k name =>
      obtain ⟨heq, -⟩ := EntryKind.ofKey_eq_field hkey
      cases hnull : e.2.isNull with
      | true => simp [hkey, hnull] at h
      | false =>
          obtain rfl : k = .text := by simpa [hkey, hnull] using h
          exact Or.inr heq

/-! ## The text -/

theorem find?_filter_of_find? {α : Type} {p q : α → Bool} {l : List α}
    (h : ∀ a, l.find? q = some a → p a = true) : (l.filter p).find? q = l.find? q := by
  induction l with
  | nil => rfl
  | cons a l ih =>
      cases hq : q a with
      | true => simp [hq, h a (by simp [hq])]
      | false =>
          have hrest := ih fun b hb => h b (by simpa [hq] using hb)
          rw [List.filter_cons]
          split <;> simpa [hq] using hrest

/-- The value that the text is from is among the given entries, if it is not null. -/
theorem textSource_eq (h : textSource xs ≠ some .null) : textSource xs =
    ((given xs).reverse.find? fun e => target (givesText xs) e == some .text).map (·.2) := by
  rw [given, ← List.filter_reverse, find?_filter_of_find?, textSource]
  intro e he
  by_contra hnull
  refine h ?_
  rw [textSource, he]
  exact congrArg some (isNull_of_isNullEntry (by simpa using hnull))

theorem textSource_eq_some (h : textSource xs = some v) : ∃ before e after, xs = before ++ e :: after ∧
    e.2 = v ∧ target (givesText xs) e = some .text ∧ ∀ e ∈ after, target (givesText xs) e ≠ some .text := by
  obtain ⟨e, he, rfl⟩ := Option.map_eq_some_iff.mp h
  obtain ⟨hk, later, earlier, hsplit, hlater⟩ := List.find?_eq_some_iff_append.mp he
  refine ⟨earlier.reverse, e, later.reverse, ?_, rfl, by simpa using hk, ?_⟩
  · rw [← List.reverse_reverse xs, hsplit]
    simp
  · simpa using hlater

theorem text_of_source (h : ofEntries strict place (givesText xs) xs {} = .ok s)
    (hsource : textSource xs = some v) : ∃ a, v.writeOrFail = .ok a ∧ s.criteria.text = some a := by
  obtain ⟨before, e, after, hxs, rfl, hk, hafter⟩ := textSource_eq_some hsource
  obtain ⟨a, ha⟩ := exists_says h (hxs ▸ by simp) hk
  refine ⟨a, ha "", ?_⟩
  generalize givesText xs = textGiven at h hk hafter
  subst hxs
  exact get_of_last h hk hafter ha

theorem text_of_no_source (h : ofEntries strict place (givesText xs) xs {} = .ok s)
    (hsource : textSource xs = none) : s.criteria.text = none := by
  refine get_of_untargeted (k := .text) h fun e he hk => ?_
  have hfind := List.find?_eq_none.mp (Option.map_eq_none_iff.mp hsource) e (List.mem_reverse.mpr he)
  simp [hk] at hfind

theorem not_isNullEntry_of_ne (h : e.2 ≠ .null) : isNullEntry e = false := by
  by_contra hnull
  exact h (isNull_of_isNullEntry (by simpa using hnull))

/-- Without a text that counts as true, null is written where the text is from the null of its other key,
and nowhere else. -/
theorem text_ne (hs : ofEntries strict place (givesText xs) xs {} = .ok s)
    (ht : ofEntries strict place (givesText ys) ys {} = .ok t) (hgives : givesText ys = givesText xs)
    (hapart : NamesApart xs)
    (hmem : ∀ e ∈ ys, target (givesText xs) e = some .text → isNullEntry e = false → e ∈ xs)
    (hxs : textSource xs = some .null) (hys : textSource ys ≠ some .null) :
    s.criteria.text ≠ t.criteria.text := by
  obtain ⟨words, hwords, hs⟩ := text_of_source hs hxs
  obtain rfl : "None" = words := Except.ok.inj hwords
  obtain ⟨before, ⟨key, _⟩, after, hsplit, rfl, hk, -⟩ := textSource_eq_some hxs
  obtain ⟨rfl, hgiven⟩ := key_of_target_null hk
  have hother : (.text textAlias, .null) ∈ xs := by simp [hsplit]
  rw [hs]
  cases hsource : textSource ys with
  | none =>
      rw [text_of_no_source ht hsource]
      simp
  | some v =>
      obtain ⟨a, ha, ht⟩ := text_of_source ht hsource
      obtain ⟨before', ⟨key', w⟩, after', hsplit', rfl, hk', -⟩ := textSource_eq_some hsource
      have hnull : w ≠ .null := fun h => hys (h ▸ hsource)
      rw [hgives] at hk'
      -- The other key has null for its value, so this value is that of the text itself and counts as false.
      have hw : (key', w) ∈ xs := hmem _ (by simp [hsplit']) hk' (not_isNullEntry_of_ne hnull)
      have hkey' : key' ≠ .text textAlias := fun heq =>
        hnull (congrArg Prod.snd (hapart.eq_of_name hw hother heq rfl))
      have hname : key' = .text "text" := (key_of_target_text hk').resolve_left hkey'
      subst hname
      have hfalse : w.truthy = false := by
        by_contra htrue
        have hgives : givesText xs = true := (givesText_iff hapart).mpr ⟨w, hw, by simpa using htrue⟩
        rw [hgiven] at hgives
        cases hgives
      rw [ht]
      intro heq
      obtain rfl : "None" = a := Option.some.inj heq
      refine Value.writeOrFail_ne_null ?_ hfalse ha
      cases w with
      | null => exact absurd rfl hnull
      | _ => rfl

theorem textSource_congr (h : List.Forall₂ (EntryNullsAside p) (given xs) (given ys))
    (hgives : givesText ys = givesText xs) (hxs : textSource xs ≠ some .null)
    (hys : textSource ys ≠ some .null) : textSource ys = textSource xs := by
  rw [textSource_eq hxs, textSource_eq hys, hgives]
  congr 1
  have hreverse := List.forall₂_reverse_iff.mpr h
  generalize (given xs).reverse = l at hreverse
  generalize (given ys).reverse = l' at hreverse
  induction hreverse with
  | nil => rfl
  | @cons e f _ _ hef _ ih =>
      by_cases hk : target (givesText xs) e = some .text ∨ target (givesText xs) f = some .text
      · obtain rfl := hef.eq_of_text hk
        simp [List.find?_cons, ih]
      · obtain ⟨he, hf⟩ := not_or.mp hk
        simpa [he, hf] using ih

theorem givesText_nullsAside (h : List.Forall₂ (EntryNullsAside p) (given xs) (given ys))
    (hxs : NamesApart xs) (hys : NamesApart ys) : givesText ys = givesText xs := by
  have htext : ∀ {v : Value}, v.truthy = true → isNullEntry (.text "text", v) = false ∧
      target false (.text "text", v) = some .text := by
    intro v htrue
    have hnull : v.isNull = false := by
      cases v with
      | null => cases htrue
      | _ => rfl
    constructor
    · simp [isNullEntry, hnull]
    · show (if v.isNull then none else some FieldKey.text) = some .text
      simp [hnull]
  rw [Bool.eq_iff_iff, givesText_iff hys, givesText_iff hxs]
  constructor
  · rintro ⟨v, hv, htrue⟩
    obtain ⟨hnull, hk⟩ := htext htrue
    obtain ⟨e, he, hef⟩ := exists_left_of_forall₂ h (mem_given.mpr ⟨hv, hnull⟩)
    obtain rfl := hef.eq_of_text (Or.inr hk)
    exact ⟨v, (mem_given.mp he).1, htrue⟩
  · rintro ⟨v, hv, htrue⟩
    obtain ⟨hnull, hk⟩ := htext htrue
    obtain ⟨f, hf, hef⟩ := exists_right_of_forall₂ h (mem_given.mpr ⟨hv, hnull⟩)
    obtain rfl := hef.eq_of_text (Or.inl hk)
    exact ⟨v, (mem_given.mp hf).1, htrue⟩

theorem text_eq_iff (h : List.Forall₂ (EntryNullsAside p) (given xs) (given ys)) (hxs : NamesApart xs)
    (hys : NamesApart ys) (hs : ofEntries strict place (givesText xs) xs {} = .ok s)
    (ht : ofEntries strict place (givesText ys) ys {} = .ok t) :
    t.criteria.text = s.criteria.text ↔ SameNullText xs ys := by
  have hgives := givesText_nullsAside h hxs hys
  rw [SameNullText]
  by_cases hx : textSource xs = some .null
  · by_cases hy : textSource ys = some .null
    · refine iff_of_true ?_ (iff_of_true hx hy)
      obtain ⟨a, ha, hs⟩ := text_of_source hs hx
      obtain ⟨b, hb, ht⟩ := text_of_source ht hy
      rw [hs, ht, Except.ok.inj (hb.symm.trans ha)]
    · refine iff_of_false (fun heq => ?_) fun hiff => hy (hiff.mp hx)
      refine text_ne hs ht hgives hxs (fun f hf hk hnull => ?_) hx hy heq.symm
      obtain ⟨e, he, hef⟩ := exists_left_of_forall₂ h (mem_given.mpr ⟨hf, hnull⟩)
      obtain rfl := hef.eq_of_text (Or.inr hk)
      exact (mem_given.mp he).1
  · by_cases hy : textSource ys = some .null
    · refine iff_of_false (fun heq => ?_) fun hiff => hx (hiff.mpr hy)
      refine text_ne ht hs hgives.symm hys (fun e he hk hnull => ?_) hy hx heq
      obtain ⟨f, hf, hef⟩ := exists_right_of_forall₂ h (mem_given.mpr ⟨he, hnull⟩)
      obtain rfl := hef.eq_of_text (Or.inl hk)
      exact (mem_given.mp hf).1
    · refine iff_of_true ?_ (iff_of_false hx hy)
      have hsame := textSource_congr h hgives hx hy
      cases hsource : textSource xs with
      | none => rw [text_of_no_source hs hsource, text_of_no_source ht (hsame.trans hsource)]
      | some v =>
          obtain ⟨a, ha, hs⟩ := text_of_source hs hsource
          obtain ⟨b, hb, ht⟩ := text_of_source ht (hsame.trans hsource)
          rw [hs, ht, Except.ok.inj (hb.symm.trans ha)]

/-! ## Whole mappings -/

theorem not_isNullEntry_of_target (hk : target textGiven e = some k) (htext : k ≠ .text) :
    isNullEntry e = false := by
  by_contra hnull
  have hvalue := isNull_of_isNullEntry (Bool.not_eq_false _ ▸ hnull)
  simp [target, ofKey_of_target hk htext, hvalue, isNull] at hk

theorem readEntry_isNullEntry (h : isNullEntry e = true) :
    ∃ set, readEntry strict place textGiven e.1 e.2 = .ok set := by
  cases hk : target textGiven e with
  | none =>
      rw [readEntry_idle hk, readIdle]
      cases hkey : EntryKind.ofKey e.1 with
      | unknown => simp [isNullEntry, hkey] at h
      | textAlias => exact ⟨_, rfl⟩
      | field k name => exact ⟨_, rfl⟩
  | some k =>
      obtain rfl : k = .text := by
        by_contra htext
        rw [not_isNullEntry_of_target hk htext] at h
        cases h
      rw [readEntry_targeted hk, isNull_of_isNullEntry h]
      exact ⟨_, rfl⟩

/-- What an entry says for a field, another entry says as well, or something else if a text in it is from null
in one of the two only. -/
def ContentKept (strict : Bool) (k : FieldKey) (e f : Value × Value) : Prop :=
  ∀ a, Says strict e.2 k a → ∃ b, Says strict f.2 k b ∧ (b = a ↔ EntryNullsAside SameNullText e f)

theorem exists_ofEntries_nullsAside (hentries : List.Forall₂ (EntryNullsAside p) (given xs) (given ys))
    (hcontent : ∀ e ∈ given xs, ∀ f ∈ given ys, EntryNullsAside p e f → ∀ k,
      target textGiven e = some k → ContentKept strict k e f)
    (hs : ofEntries strict place textGiven xs {} = .ok s) :
    ∃ t, ofEntries strict place textGiven ys {} = .ok t := by
  refine exists_ofEntries.mpr fun f hf => ?_
  cases hnull : isNullEntry f with
  | true => exact readEntry_isNullEntry hnull
  | false =>
      have hinGiven := mem_given.mpr ⟨hf, hnull⟩
      obtain ⟨e, he, hef⟩ := exists_left_of_forall₂ hentries hinGiven
      obtain ⟨hmem, henull⟩ := mem_given.mp he
      obtain ⟨set, hset⟩ := exists_ofEntries.mp ⟨s, hs⟩ e hmem
      have htarget : target textGiven f = target textGiven e := hef.target_eq henull hnull
      cases hk : target textGiven e with
      | none =>
          rw [readEntry_idle hk] at hset
          rw [readEntry_idle (htarget.trans hk), hef.key_eq]
          exact ⟨set, hset⟩
      | some k =>
          obtain ⟨a, ha, _⟩ := readEntry_targeted_ok hk hset
          obtain ⟨b, hb, _⟩ := hcontent e he f hinGiven hef k hk a ha
          rw [readEntry_targeted (htarget.trans hk), hb]
          exact ⟨_, rfl⟩

theorem ofEntries_nullsAside (hentries : List.Forall₂ (EntryNullsAside p) (given xs) (given ys))
    (hxs : NamesApart xs) (hys : NamesApart ys)
    (hcontent : ∀ e ∈ given xs, ∀ f ∈ given ys, EntryNullsAside p e f → ∀ k,
      target (givesText xs) e = some k → ContentKept strict k e f)
    (hs : ofEntries strict place (givesText xs) xs {} = .ok s) :
    ∃ t, ofEntries strict place (givesText ys) ys {} = .ok t ∧ (t = s ↔ SameNullText xs ys ∧
      List.Forall₂ (EntryNullsAside SameNullText) (given xs) (given ys)) := by
  have hgives := givesText_nullsAside hentries hxs hys
  obtain ⟨t, ht⟩ := exists_ofEntries_nullsAside hentries hcontent hs
  rw [← hgives] at ht
  refine ⟨t, ht, ?_⟩
  have htext := text_eq_iff hentries hxs hys hs ht
  rw [hgives] at ht
  have hcontents : ∀ e ∈ given xs, ∀ f ∈ given ys, EntryNullsAside p e f → ∀ k ≠ .text,
      target (givesText xs) e = some k → (t.get k = s.get k ↔ EntryNullsAside SameNullText e f) := by
    intro e he f hf hef k htext hk
    obtain ⟨hmem, hnull⟩ := mem_given.mp he
    obtain ⟨hmem', hnull'⟩ := mem_given.mp hf
    obtain ⟨a, ha⟩ := exists_says hs hmem hk
    obtain ⟨b, hb, hiff⟩ := hcontent e he f hf hef k hk a ha
    rw [get_of_apart hxs hs hmem htext hk ha,
      get_of_apart hys ht hmem' htext ((hef.target_eq hnull hnull').trans hk) hb, ← hiff]
    exact Option.some_inj
  constructor
  · rintro rfl
    refine ⟨htext.mp rfl, forall₂_imp_mem hentries fun e he f hf hef => ?_⟩
    obtain ⟨-, hnull⟩ := mem_given.mp he
    cases hk : target (givesText xs) e with
    | none =>
        obtain rfl := hef.eq_of_untargeted hnull hk
        exact .same _
    | some k =>
        by_cases hkey : k = .text
        · obtain rfl := hef.eq_of_text (Or.inl (hkey ▸ hk))
          exact .same _
        · exact (hcontents e he f hf hef k hkey hk).mp rfl
  · rintro ⟨hsource, hsame⟩
    refine ext_get fun k => ?_
    by_cases hkey : k = .text
    · subst hkey
      exact htext.mpr hsource
    by_cases hsome : ∃ e ∈ xs, target (givesText xs) e = some k
    · obtain ⟨e, he, hk⟩ := hsome
      have hinGiven := mem_given.mpr ⟨he, not_isNullEntry_of_target hk hkey⟩
      obtain ⟨f, hf, hef, hsame⟩ := exists_right_of_forall₂ (forall₂_and hentries hsame) hinGiven
      exact (hcontents e hinGiven f hf hef k hkey hk).mpr hsame
    · have hnone : ∀ e ∈ xs, target (givesText xs) e ≠ some k := fun e he hk => hsome ⟨e, he, hk⟩
      rw [get_of_untargeted hs hnone]
      refine get_of_untargeted ht fun f hf hk => ?_
      have hnull := not_isNullEntry_of_target hk hkey
      obtain ⟨e, he, hef⟩ := exists_left_of_forall₂ hentries (mem_given.mpr ⟨hf, hnull⟩)
      obtain ⟨hmem, hnull'⟩ := mem_given.mp he
      exact hnone e hmem ((hef.target_eq hnull' hnull).symm.trans hk)

/-- The same for the selectors that two values are read as. -/
def SelectorKept (strict : Bool) (v w : Value) : Prop :=
  ∀ s, ReadsAs strict v s → ∃ t, ReadsAs strict w t ∧ (t = s ↔ NullsAside SameNullText v w)

/-- The same for those that two lists are read as. -/
def ItemsKept (strict : Bool) (items items' : List Value) : Prop :=
  ∀ place i ss, ofList strict place i items = .ok ss → ∃ ts, ofList strict place i items' = .ok ts ∧
    (ts = ss ↔ List.Forall₂ (NullsAside SameNullText) items items')

theorem ofList_nullsAside {items items' : List Value} (h : List.Forall₂ (NullsAside p) items items')
    (hread : ∀ v ∈ items, ∀ w ∈ items', NullsAside p v w → SelectorKept strict v w) :
    ItemsKept strict items items' := by
  induction h with
  | nil => exact fun _ _ ss hss => ⟨ss, hss, iff_of_true rfl .nil⟩
  | @cons v w items items' hvw _ ih =>
      intro place i ss hss
      rw [ofList] at hss
      obtain ⟨s, hs, hss⟩ := except_bind_ok.mp hss
      obtain ⟨rest, hrest, hss⟩ := except_bind_ok.mp hss
      cases hss
      obtain ⟨t, ht, hiff⟩ := hread v List.mem_cons_self w List.mem_cons_self hvw s (readsAs_of_ofValue hs)
      obtain ⟨rest', hrest', hiff'⟩ := ih (fun v hv w hw =>
        hread v (List.mem_cons_of_mem _ hv) w (List.mem_cons_of_mem _ hw)) place (i + 1) rest hrest
      refine ⟨t :: rest', ?_, ?_⟩
      · rw [ofList, ht, hrest']
        rfl
      · rw [List.cons.injEq, List.forall₂_cons, hiff, hiff']

theorem contentKept_of_nullsAside (h : EntryNullsAside p e f) (hk : target textGiven e = some k)
    (hvalue : ∀ r, k = .anchor r → NullsAside p e.2 f.2 → SelectorKept strict e.2 f.2)
    (hitems : ∀ items items', k = .descendants → e.2 = .list items → f.2 = .list items' →
      List.Forall₂ (NullsAside p) items items' → ItemsKept strict items items') :
    ContentKept strict k e f := by
  cases h with
  | same => exact fun a ha => ⟨a, ha, iff_of_true rfl (.same e)⟩
  | @anchor key v w r name hkey hvw =>
      obtain ⟨-, rfl⟩ : v.isNull = false ∧ .anchor r = k := by simpa [target, hkey] using hk
      intro a ha
      obtain ⟨b, hb, hiff⟩ := hvalue r rfl hvw a ha
      exact ⟨b, hb, hiff.trans (entryNullsAside_anchor_iff hkey).symm⟩
  | @descendants key items items' name hkey h =>
      obtain rfl : .descendants = k := by simpa [target, hkey, isNull] using hk
      intro a ha
      obtain ⟨b, hb, hiff⟩ := hitems items items' rfl rfl rfl h "" 0 a (ha "")
      have hread : readContent strict "" (.list items') .descendants = .ok b := hb
      exact ⟨b, says_of_readContent hread, hiff.trans (entryNullsAside_descendants_iff hkey).symm⟩

theorem ofValue_nullsAside (strict : Bool) (v : Value) :
    (∀ w, NullsAside p v w → AllVisited NamesApart v → AllVisited NamesApart w →
      SelectorKept strict v w) ∧
    (∀ items items', v = .list items → List.Forall₂ (NullsAside p) items items' →
      (∀ u ∈ items, AllVisited NamesApart u) → (∀ u ∈ items', AllVisited NamesApart u) →
      ItemsKept strict items items') := by
  induction v using inside_induction with
  | step v ih =>
      constructor
      · intro w h hv hw s hs
        cases h with
        | same => exact ⟨s, hs, iff_of_true rfl (.same v)⟩
        | @map xs ys _ hentries =>
            obtain ⟨hxs, hinxs⟩ := allVisited_map_iff.mp hv
            obtain ⟨hys, hinys⟩ := allVisited_map_iff.mp hw
            have hcontent : ∀ e ∈ given xs, ∀ f ∈ given ys, EntryNullsAside p e f → ∀ k,
                target (givesText xs) e = some k → ContentKept strict k e f := by
              intro e he f hf hef k hk
              obtain ⟨he, hnull⟩ := mem_given.mp he
              obtain ⟨hf, hnull'⟩ := mem_given.mp hf
              have hein := allInField_of_target hk (hinxs e he)
              have hfin := allInField_of_target ((hef.target_eq hnull hnull').trans hk) (hinys f hf)
              obtain ⟨hvalue, hitems⟩ := ih e.2 (.entry he)
              refine contentKept_of_nullsAside hef hk ?_ ?_
              · rintro r rfl h
                exact hvalue f.2 h hein hfin
              · rintro items items' rfl heq heq' h
                exact hitems items items' heq h (hein items heq) (hfin items' heq')
            obtain ⟨t, ht, hiff⟩ := ofEntries_nullsAside hentries hxs hys hcontent (hs "")
            exact ⟨t, readsAs_of_ofValue ht, hiff.trans (nullsAside_map_iff fun _ => Iff.rfl).symm⟩
      · rintro items items' rfl h hitems hitems'
        exact ofList_nullsAside h fun v hv w hw hvw =>
          (ih v (.item hv)).1 w hvw (hitems v hv) (hitems' w hw)

end Selector

/-! ## Main result -/

open Selector

/-- Null entries with known keys may be added to a mapping that is read as a selector, and to its anchors and
descendants, and taken away: a selector is read again, and the same one exactly if in all of these mappings
the text is from the null of its other key in both or in neither. -/
theorem null_entries_set_nothing_iff (strict : Bool) (place : String) (v w : Value) (s : Selector)
    (h : NullsAside (fun _ _ => True) v w) (hv : ∀ entries, Visits v entries → NamesApart entries)
    (hw : ∀ entries, Visits w entries → NamesApart entries) (hs : ofValue strict place v = .ok s) :
    ∃ t, ofValue strict place w = .ok t ∧ (t = s ↔ NullsAside SameNullText v w) := by
  obtain ⟨t, ht, hiff⟩ := (ofValue_nullsAside strict v).1 w h hv hw s (readsAs_of_ofValue hs)
  exact ⟨t, ht place, hiff⟩

/-- A selector with an anchor. -/
def saveBelowName : List (Value × Value) :=
  [(.text "id", .text "save"), (.text "below", .map [(.text "text", .text "Name")])]

/-- The same one with a width that is null, and with the null of the other key for the text where a text is
given. -/
def saveBelowNameWithNulls : List (Value × Value) :=
  [(.text "id", .text "save"), (.text "width", .null),
    (.text "below", .map [(.text "text", .text "Name"), (.text "element", .null)])]

theorem null_entries_set_nothing_iff_save :
    NullsAside (fun _ _ => True) (.map saveBelowName) (.map saveBelowNameWithNulls) ∧
    (∀ entries, Visits (.map saveBelowName) entries → NamesApart entries) ∧
    (∀ entries, Visits (.map saveBelowNameWithNulls) entries → NamesApart entries) ∧
    ∃ s, ofValue true "selector" (.map saveBelowName) = .ok s ∧
      ofValue true "selector" (.map saveBelowNameWithNulls) = .ok s := by
  have haside : ∀ p, p saveBelowName saveBelowNameWithNulls →
      p [(.text "text", .text "Name")] [(.text "text", .text "Name"), (.text "element", .null)] →
      NullsAside p (.map saveBelowName) (.map saveBelowNameWithNulls) := by
    intro p houter hinner
    have hanchor : NullsAside p (.map [(.text "text", .text "Name")])
        (.map [(.text "text", .text "Name"), (.text "element", .null)]) :=
      .map hinner (.cons (.same (.text "text", .text "Name")) .nil)
    exact .map houter (.cons (.same (.text "id", .text "save")) (.cons (.anchor rfl hanchor) .nil))
  have hname : ∀ rest, NamesApart ((.text "text", .text "Name") :: rest) →
      (∀ e ∈ rest, AllWithin NamesApart e.1 e.2) →
      AllVisited NamesApart (.map ((.text "text", .text "Name") :: rest)) := fun rest hapart hrest =>
    allVisited_map_iff.mpr ⟨hapart, List.forall_mem_cons.mpr ⟨trivial, hrest⟩⟩
  have hv : AllVisited NamesApart (.map saveBelowName) := by
    refine allVisited_map_iff.mpr ⟨by simp [NamesApart, saveBelowName], ?_⟩
    exact List.forall_mem_cons.mpr ⟨trivial, List.forall_mem_singleton.mpr
      (hname [] (by simp [NamesApart]) nofun)⟩
  have hw : AllVisited NamesApart (.map saveBelowNameWithNulls) := by
    refine allVisited_map_iff.mpr ⟨by simp [NamesApart, saveBelowNameWithNulls], ?_⟩
    exact List.forall_mem_cons.mpr ⟨trivial, List.forall_mem_cons.mpr ⟨trivial, List.forall_mem_singleton.mpr
      (hname _ (by simp [NamesApart]) (List.forall_mem_singleton.mpr trivial))⟩⟩
  have h := haside (fun _ _ => True) trivial trivial
  obtain ⟨t, ht, hiff⟩ := null_entries_set_nothing_iff true "selector" _ _ _ h hv hw rfl
  have hsame : NullsAside SameNullText (.map saveBelowName) (.map saveBelowNameWithNulls) :=
    haside SameNullText (iff_of_false nofun nofun) (iff_of_false nofun nofun)
  exact ⟨h, hv, hw, _, rfl, hiff.mpr hsame ▸ ht⟩

/-- The null of the other key for the text is written as a text. -/
theorem null_of_other_key_is_text :
    NullsAside (fun _ _ => True) (.map [(.text "id", .text "save")])
      (.map [(.text "id", .text "save"), (.text "element", .null)]) ∧
    (ofValue true "selector" (.map [(.text "id", .text "save")])).map (·.criteria.text) = .ok none ∧
    (ofValue true "selector" (.map [(.text "id", .text "save"), (.text "element", .null)])).map
      (·.criteria.text) = .ok (some "None") :=
  ⟨.map trivial (.cons (.same (.text "id", .text "save")) .nil), rfl, rfl⟩

end ElementFinder

import ElementFinder.Json.Reader
import ElementFinder.Proofs.Numerals
import ElementFinder.Proofs.Written

/-!
# The written forms of documents

The reader of documents refuses integers with too many digits, so every value that it gives has a written
form.
-/

namespace ElementFinder

/-! ## Values -/

namespace Value

theorem holdsTooLong_put {k v : Value} {entries : List (Value × Value)}
    (h : (Value.map (put k v entries)).HoldsTooLong) :
    k.HoldsTooLong ∨ v.HoldsTooLong ∨ (Value.map entries).HoldsTooLong := by
  rw [HoldsTooLong.map_iff] at h ⊢
  induction entries with
  | nil => simpa [put, or_assoc] using h
  | cons entry rest ih =>
      obtain ⟨k', v'⟩ := entry
      rw [put] at h
      split at h <;> simp only [List.mem_cons, exists_eq_or_imp] at h ⊢ <;> grind

end Value

namespace Json

open Value

theorem readNumber_written {c after : Cursor} {v : Value} (h : readNumber c = .ok (v, after)) :
    ¬v.HoldsTooLong := by
  rw [readNumber] at h
  split at h
  · cases h
  · dsimp only at h
    split at h
    · split at h
      · cases h
      · next n hread =>
        cases h
        rintro ⟨hlong⟩
        exact Nat.not_le.mpr (Numeral.read_lt hread) hlong
    · cases h
      nofun

theorem word?_written {cs : List Char} {w : String × Value} (h : word? cs = some w) :
    ¬w.2.HoldsTooLong := by
  have hw := List.mem_of_find?_eq_some h
  simp only [words, List.mem_cons, List.not_mem_nil, or_false] at hw
  obtain rfl | rfl | rfl | rfl | rfl | rfl := hw <;> nofun

mutual

theorem readValue_written : ∀ (fuel depth : Nat) {c after : Cursor} {v : Value},
    readValue fuel depth c = .ok (v, after) → ¬v.HoldsTooLong
  | 0, _, _, _, _, h => by
      rw [readValue.eq_def] at h
      cases h
  | fuel + 1, depth, c, after, v, h => by
      rw [readValue.eq_def] at h
      dsimp only at h
      split at h
      · obtain ⟨⟨s, c'⟩, -, h⟩ := except_map_ok.mp h
        cases h
        exact HoldsTooLong.not_text s
      · split at h
        · cases h
        · split at h
          · cases h
            simp [HoldsTooLong.list_iff]
          · obtain ⟨⟨items, c'⟩, hitems, h⟩ := except_map_ok.mp h
            cases h
            simpa [HoldsTooLong.list_iff] using readItems_written fuel _ hitems nofun
      · split at h
        · cases h
        · split at h
          · cases h
            simp [HoldsTooLong.map_iff]
          · obtain ⟨⟨entries, c'⟩, hentries, h⟩ := except_map_ok.mp h
            cases h
            exact readEntries_written fuel _ hentries (by simp [HoldsTooLong.map_iff])
      · split at h
        · next hword =>
          cases h
          exact word?_written hword
        · exact readNumber_written h

theorem readItems_written : ∀ (fuel depth : Nat) {c after : Cursor} {acc items : List Value},
    readItems fuel depth c acc = .ok (items, after) → (∀ v ∈ acc, ¬v.HoldsTooLong) →
      ∀ v ∈ items, ¬v.HoldsTooLong
  | 0, _, _, _, _, _, h, _ => by
      rw [readItems.eq_def] at h
      cases h
  | fuel + 1, depth, c, after, acc, items, h, hacc => by
      rw [readItems.eq_def] at h
      dsimp only at h
      split at h
      · cases h
      · next v c hv =>
        have hall : ∀ w ∈ v :: acc, ¬w.HoldsTooLong :=
          List.forall_mem_cons.mpr ⟨readValue_written fuel depth hv, hacc⟩
        split at h
        · cases h
          exact fun w hw => hall w (List.mem_reverse.mp hw)
        · exact readItems_written fuel depth h hall
        · cases h

theorem readEntries_written : ∀ (fuel depth : Nat) {c after : Cursor} {acc entries : List (Value × Value)},
    readEntries fuel depth c acc = .ok (entries, after) → ¬(Value.map acc).HoldsTooLong →
      ¬(Value.map entries).HoldsTooLong
  | 0, _, _, _, _, _, h, _ => by
      rw [readEntries.eq_def] at h
      cases h
  | fuel + 1, depth, c, after, acc, entries, h, hacc => by
      rw [readEntries.eq_def] at h
      dsimp only at h
      split at h
      · split at h
        · cases h
        · next key c _ =>
          split at h
          · split at h
            · cases h
            · next v c hv =>
              have hput : ¬(Value.map (put (.text key) v acc)).HoldsTooLong := by
                intro hlong
                rcases holdsTooLong_put hlong with hkey | hvalue | hmap
                · exact HoldsTooLong.not_text key hkey
                · exact readValue_written fuel depth hv hvalue
                · exact hacc hmap
              split at h
              · cases h
                exact hput
              · exact readEntries_written fuel depth h hput
              · cases h
          · cases h
      · cases h

end

/-- What is read has a written form. -/
theorem read_written {cs : List Char} {v : Value} (h : read cs = .ok v) : ¬v.HoldsTooLong := by
  rw [read] at h
  split at h
  · cases h
  · next hvalue =>
    dsimp only at h
    split at h
    · cases h
      exact readValue_written _ _ hvalue
    · cases h

end Json

end ElementFinder

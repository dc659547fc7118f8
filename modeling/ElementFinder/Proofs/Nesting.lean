import ElementFinder.Xml.Reader

/-!
# Nested tags

The tags that are read before a fault are the beginning of a well nested row of tags, however
elements and entities stand in each other: every tag that ends an element ends one that is open.
-/

namespace ElementFinder.Xml

namespace Event

def begins : Event → Bool
  | .opened _ _ => true
  | .closed => false

@[simp] theorem begins_opened (name : String) (attributes : List (String × String)) :
    (opened name attributes).begins = true := rfl

@[simp] theorem begins_closed : closed.begins = false := rfl

end Event

/-! ## Rows of tags -/

/-- At no place there are more ends than elements that have begun. -/
def Nested (events : List Event) : Prop :=
  ∀ part, part <+: events → part.countP (!·.begins) ≤ part.countP Event.begins

theorem nested_concat {events : List Event} {e : Event} :
    Nested (events ++ [e]) ↔ Nested events ∧
      (events ++ [e]).countP (!·.begins) ≤ (events ++ [e]).countP Event.begins := by
  simp only [Nested, List.prefix_concat_iff, forall_eq_or_imp, and_comm]

/-! ## Reading -/

namespace Progress

variable {s s' : Progress}

/-- The tags so far are nested, and the open elements are those that have not ended. -/
def Nests (s : Progress) : Prop :=
  Nested s.events.reverse ∧
    s.events.countP Event.begins = s.events.countP (!·.begins) + s.frames.length

theorem openTag_inv {d : Declarations} {opened : List (List Char)} {tagRest : List Char}
    {tag : WrittenTag} (h : s.openTag d opened tagRest tag = .ok s') :
    ∃ name attributes frame, s'.events = .opened name attributes :: s.events ∧
      s'.frames = frame :: s.frames := by
  rw [openTag] at h
  split at h
  · cases h
  · dsimp only at h
    split at h
    · cases h
    · cases h
      exact ⟨_, _, _, rfl, rfl⟩

theorem Nests.openTag {d : Declarations} {opened : List (List Char)} {tagRest : List Char}
    {tag : WrittenTag} (h : s.openTag d opened tagRest tag = .ok s') (hs : s.Nests) : s'.Nests := by
  obtain ⟨name, attributes, frame, hevents, hframes⟩ := openTag_inv h
  obtain ⟨hnested, hcount⟩ := hs
  rw [Nests, hevents, hframes, List.reverse_cons, nested_concat]
  refine ⟨⟨hnested, ?_⟩, ?_⟩
  all_goals
    simp [List.countP_cons]
    omega

theorem Nests.closeTag (hs : s.Nests) : s.closeTag.Nests := by
  rw [Progress.closeTag]
  split
  · exact hs
  · next f frames hframes =>
    obtain ⟨hnested, hcount⟩ := hs
    rw [hframes, List.length_cons] at hcount
    rw [Nests, List.reverse_cons, nested_concat]
    refine ⟨⟨hnested, ?_⟩, ?_⟩
    all_goals
      simp
      omega

end Progress

end ElementFinder.Xml

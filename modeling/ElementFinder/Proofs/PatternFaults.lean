import ElementFinder.Pattern.Reader
import ElementFinder.Proofs.Numerals
import ElementFinder.Proofs.Results
import Mathlib

/-!
# Faults of patterns

A pattern that cannot be read is malformed, unless a count in braces is out of reach or its flags choose two
kinds of character classes. Every reading stays within the text, and a fault of another kind comes from what
stands there.
-/

namespace ElementFinder.Pattern

open Std.Do Reading

set_option mvcgen.warning false

/-! ## What stands in a text -/

/-- The digits stand for a number that no repetition has, or are too many for a number. -/
structure IsFarCount (ds : List Char) : Prop where
  digits : ∀ d ∈ ds, d.isDigit = true
  far : turnsLimit ≤ Nat.ofDigitChars 10 ds 0 ∨ Numeral.digitLimit < ds.length

/-- Nothing, or a comma with other digits behind it. -/
def IsSecondBound (es : List Char) : Prop :=
  es = [] ∨ ∃ ds, es = ',' :: ds ∧ ∀ d ∈ ds, d.isDigit = true

/-- A count that is out of reach stands in front of a closing brace, alone or with a comma and another count
between them. -/
def HasFarCount (text : List Char) : Prop :=
  ∃ ds es, IsFarCount ds ∧ IsSecondBound es ∧ ds ++ es ++ ['\x7d'] <:+: text

/-- The letter stands for a flag. -/
def isFlagLetter (c : Char) : Bool := (flagOf? (some (.plain c))).isSome

/-- The flag is one of several in front of a closing bracket, as they stand where they hold for a whole
pattern. -/
def SetsFlag (flag : Char) (text : List Char) : Prop :=
  ∃ cs, flag ∈ cs ∧ (∀ c ∈ cs, isFlagLetter c = true) ∧ cs ++ [')'] <:+: text

/-- The fault is one that a pattern with this text can have. -/
def Admits (text : List Char) : Fault → Prop
  | .malformed => True
  | .tooManyTurns => HasFarCount text
  | .countNumeral _ => HasFarCount text
  | .twoClassChoices => SetsFlag 'a' text ∧ SetsFlag 'u' text

theorem Admits.malformed_or {text : List Char} {f : Fault} (h : Admits text f) :
    f = .malformed ∨ HasFarCount text ∨ SetsFlag 'a' text ∧ SetsFlag 'u' text := by
  cases f with
  | malformed => exact .inl rfl
  | tooManyTurns => exact .inr (.inl h)
  | countNumeral _ => exact .inr (.inl h)
  | twoClassChoices => exact .inr (.inr h)

theorem IsFarCount.ne_nil {ds : List Char} (h : IsFarCount ds) : ds ≠ [] := by
  rintro rfl
  exact absurd h.far (by decide)

theorem isFarCount_of_read {ds : List Char} (hne : ds ≠ []) (hdigits : ∀ d ∈ ds, d.isDigit = true)
    (h : ∀ n, Numeral.read 10 (String.ofList ds) = .ok n → turnsLimit ≤ n.toNat) : IsFarCount ds := by
  refine ⟨hdigits, ?_⟩
  rcases Nat.lt_or_ge Numeral.digitLimit ds.length with hlong | hshort
  · exact .inr hlong
  · have hcore : Numeral.core (String.ofList ds) = ds := by
      rw [Numeral.core_of_plain, String.toList_ofList]
      exact fun c hc => .inl (hdigits c (by simpa using hc))
    have hsign : Numeral.splitSign (Numeral.core (String.ofList ds)) = (false, ds) := by
      rw [hcore, Numeral.splitSign_of_isDigit hdigits]
    exact .inl (by simpa using h _ (Numeral.read_of_digits hsign hdigits hne hshort))

theorem flatMap_tokens (cs : List Char) : (tokens cs).flatMap Token.chars = cs := by
  induction cs using tokens.induct <;> simp_all [tokens, Token.chars]

/-- Plain tokens that follow each other are characters that do. -/
theorem infix_of_plain {cs text : List Char} (h : cs.map .plain <:+: tokens text) : cs <:+: text := by
  have hchars : (cs.map Token.plain).flatMap Token.chars = cs := by
    rw [List.flatMap_map]
    exact List.flatMap_singleton' cs
  obtain ⟨before, after, h⟩ := h
  refine ⟨before.flatMap Token.chars, after.flatMap Token.chars, ?_⟩
  rw [← flatMap_tokens text, ← h, List.flatMap_append, List.flatMap_append, hchars]

namespace Reading

variable {text : List Char} {α β : Type} {s t : Progress}

/-! ## What reading keeps -/

/-- The place that reading has come to lies in the text, and a choice of character classes among the flags for
the whole pattern comes from the text. -/
structure Within (text : List Char) (s : Progress) : Prop where
  rest : s.rest <:+ tokens text
  ascii : s.flags.ascii = true → SetsFlag 'a' text
  unicode : s.flags.unicode = true → SetsFlag 'u' text

/-- Some tokens further on, with the same flags. -/
theorem Within.behind (hs : Within text s) (ts : List Token) (hrest : s.rest = ts ++ t.rest)
    (hflags : t.flags = s.flags) : Within text t where
  rest := (hrest ▸ List.suffix_append ts t.rest).trans hs.rest
  ascii h := hs.ascii (hflags ▸ h)
  unicode h := hs.unicode (hflags ▸ h)

/-- Reading stays within the text, or ends with a fault that the text admits. -/
abbrev Keeps (text : List Char) (x : Reading α) : Prop :=
  ⦃fun s => ⌜Within text s⌝⦄ x ⦃post⟨fun _ s => ⌜Within text s⌝, fun f => ⌜Admits text f⌝⟩⦄

/-- What holds of a result: of the value and the state after it, or of the fault. -/
def Fits (Q : α → Progress → Prop) (E : Fault → Prop) : Except Fault (α × Progress) → Prop
  | .ok (a, t) => Q a t
  | .error f => E f

theorem triple_iff {P : Progress → Prop} {x : Reading α} {Q : α → Progress → Prop} {E : Fault → Prop} :
    (⦃fun s => ⌜P s⌝⦄ x ⦃post⟨fun a s => ⌜Q a s⌝, fun f => ⌜E f⌝⟩⦄) ↔ ∀ s, P s → Fits Q E (x s) := by
  have hresult : ∀ r : Except Fault (α × Progress),
      (wp⟦r⟧ (fun p => ⌜Q p.1 p.2⌝, fun f => ⌜E f⌝, ())).down ↔ Fits Q E r := by
    rintro (f | ⟨a, t⟩) <;> exact Iff.rfl
  exact forall_congr' fun s => imp_congr_right fun _ => hresult (x s)

theorem Fits.bind {P : α → Progress → Prop} {Q : β → Progress → Prop} {E : Fault → Prop} {x : Reading α}
    {f : α → Reading β} (hx : Fits P E (x s)) (hf : ∀ a t, P a t → Fits Q E (f a t)) :
    Fits Q E ((x >>= f) s) := by
  have hrun : (x >>= f) s = x s >>= fun p => f p.1 p.2 := rfl
  rw [hrun]
  cases h : x s with
  | error e =>
      rw [h] at hx
      exact hx
  | ok p =>
      rw [h] at hx
      exact hf p.1 p.2 hx

theorem Fits.imp {P Q : α → Progress → Prop} {E : Fault → Prop} {r : Except Fault (α × Progress)}
    (hr : Fits P E r) (h : ∀ a t, P a t → Q a t) : Fits Q E r := by
  rcases r with f | ⟨a, t⟩
  · exact hr
  · exact h a t hr

theorem get_fits {E : Fault → Prop} : Fits (fun a t => a = s ∧ t = s) E ((get : Reading Progress) s) :=
  ⟨rfl, rfl⟩

theorem malformed_fits {Q : α → Progress → Prop} : Fits Q (Admits text) ((malformed : Reading α) s) :=
  trivial

theorem throw_spec {f : Fault} {Q : PostCond α (.arg Progress (.except Fault .pure))} :
    ⦃fun _ => Q.2.1 f⦄ (throw f : Reading α) ⦃Q⦄ :=
  fun _ h => h

@[spec] theorem malformed_spec {Q : PostCond α (.arg Progress (.except Fault .pure))} :
    ⦃fun _ => Q.2.1 .malformed⦄ (malformed : Reading α) ⦃Q⦄ :=
  throw_spec

/-! ## Characters in sequence -/

/-- Between two places of the text there are these characters, all of one kind. -/
structure Between (text : List Char) (ok : Char → Bool) (s : Progress) (cs : List Char) (t : Progress) :
    Prop where
  within : Within text t
  rest : s.rest = cs.map .plain ++ t.rest
  kind : ∀ c ∈ cs, ok c = true

theorem Between.refl (hs : Within text s) (ok : Char → Bool) : Between text ok s [] s :=
  ⟨hs, rfl, by simp⟩

theorem peek_fits : Fits (fun r t => r = s.rest.head? ∧ t = s) (Admits text) (peek s) :=
  ⟨rfl, rfl⟩

theorem take_fits (hs : Within text s) :
    Fits (fun r t => r = s.rest.head? ∧ s.rest = r.toList ++ t.rest ∧ Within text t) (Admits text) (take s) := by
  refine Fits.bind get_fits ?_
  rintro _ s ⟨rfl, rfl⟩
  cases hrest : s.rest with
  | nil => exact ⟨rfl, hrest.symm, hs⟩
  | cons u rest =>
      dsimp only
      split
      · exact malformed_fits
      · exact ⟨rfl, rfl, hs.behind [u] hrest rfl⟩

theorem accept_fits {c : Char} (hs : Within text s) :
    Fits (fun r t => Between text (· == c) s (if r then [c] else []) t) (Admits text) (accept c s) := by
  refine Fits.bind peek_fits ?_
  rintro _ _ ⟨rfl, rfl⟩
  split
  · next hhead =>
    refine Fits.bind (take_fits hs) ?_
    rintro _ t ⟨rfl, hrest, ht⟩
    rw [hhead] at hrest
    exact ⟨ht, hrest, by simp⟩
  · exact .refl hs _

theorem takeSome_fits {ok : Char → Bool} {count : Nat} (hs : Within text s) :
    Fits (Between text ok s) (Admits text) (takeSome ok count s) := by
  induction count generalizing s with
  | zero => exact .refl hs ok
  | succ n ih =>
      refine Fits.bind peek_fits ?_
      rintro _ s ⟨rfl, rfl⟩
      rcases hhead : s.rest.head? with _ | (c | _ | _) <;> try exact .refl hs ok
      by_cases hc : ok c = true
      · simp only [hc, ↓reduceIte]
        refine Fits.bind (take_fits hs) ?_
        rintro _ t ⟨rfl, hrest, ht⟩
        refine Fits.bind (ih ht) fun cs u hcs => ?_
        rw [hhead, hcs.rest] at hrest
        exact ⟨hcs.within, hrest, List.forall_mem_cons.mpr ⟨hc, hcs.kind⟩⟩
      · simp only [hc]
        exact .refl hs ok

theorem takeAll_fits {ok : Char → Bool} (hs : Within text s) :
    Fits (Between text ok s) (Admits text) (takeAll ok s) := by
  refine Fits.bind get_fits ?_
  rintro _ _ ⟨rfl, rfl⟩
  exact takeSome_fits hs

/-! ## Counts -/

/-- The digits stand in front of a closing brace, alone or with a comma and other digits between them. -/
structure IsBound (text ds : List Char) : Prop where
  digits : ∀ d ∈ ds, d.isDigit = true
  closed : ∃ es, IsSecondBound es ∧ ds ++ es ++ ['\x7d'] <:+: text

theorem boundOf_keeps {ds : List Char} (h : IsBound text ds) : Keeps text (boundOf ds) := by
  refine triple_iff.mpr fun s hs => ?_
  obtain ⟨es, hes, hclosed⟩ := h.closed
  rw [boundOf]
  split
  · exact hs
  · next hempty =>
    have hne : ds ≠ [] := by simpa using hempty
    cases hread : Numeral.read 10 (String.ofList ds) with
    | error fault =>
        exact ⟨ds, es, isFarCount_of_read hne h.digits (by simp [hread]), hes, hclosed⟩
    | ok n =>
        dsimp only
        split
        · next hfar =>
          refine ⟨ds, es, isFarCount_of_read hne h.digits fun m hm => ?_, hes, hclosed⟩
          cases hread.symm.trans hm
          exact hfar
        · exact hs

/-- What comes behind the digits of the bounds: the closing brace, or the bounds are none and reading goes back
to where they began. -/
theorem closeBounds_fits {start : Progress} {low high es : List Char} (hstart : Within text start)
    (hs : Within text s) (hlow : ∀ d ∈ low, d.isDigit = true) (hhigh : ∀ d ∈ high, d.isDigit = true)
    (hes : es = ',' :: high ∨ es = [] ∧ high = low) (hrest : start.rest = (low ++ es).map .plain ++ s.rest) :
    Fits (fun _ => Within text) (Admits text) ((accept '\x7d' >>= fun closed =>
      if !closed then set start >>= fun _ => pure none
      else boundOf low >>= fun least => boundOf high >>= fun most =>
        match most with
        | some m => if m < least.getD 0 then malformed else pure (some (least.getD 0, most))
        | none => pure (some (least.getD 0, none)) : Reading (Option (Nat × Option Nat))) s) := by
  refine Fits.bind (accept_fits hs) fun closed t ht => ?_
  cases closed with
  | false => exact hstart
  | true =>
      have hbraced : low ++ es ++ ['\x7d'] <:+: text := by
        refine infix_of_plain (.trans ⟨[], t.rest, ?_⟩ hstart.rest.isInfix)
        simp [hrest, ht.rest]
      have hleast : Keeps text (boundOf low) := by
        refine boundOf_keeps ⟨hlow, es, ?_, hbraced⟩
        rcases hes with rfl | ⟨rfl, -⟩
        · exact .inr ⟨high, rfl, hhigh⟩
        · exact .inl rfl
      have hmost : Keeps text (boundOf high) := by
        refine boundOf_keeps ⟨hhigh, [], .inl rfl, .trans ?_ hbraced⟩
        rcases hes with rfl | ⟨rfl, rfl⟩
        · exact ⟨low ++ [','], [], by simp⟩
        · simp
      have hbounds : Keeps text (boundOf low >>= fun least => boundOf high >>= fun most =>
          match most with
          | some m => if m < least.getD 0 then malformed else pure (some (least.getD 0, most))
          | none => pure (some (least.getD 0, none))) := by
        mvcgen [hleast, hmost]
      exact triple_iff.mp hbounds t ht.within

@[spec] theorem readBounds_keeps : Keeps text readBounds := by
  refine triple_iff.mpr fun s hs => Fits.bind get_fits ?_
  rintro _ _ ⟨rfl, rfl⟩
  refine Fits.bind peek_fits ?_
  rintro _ _ ⟨rfl, rfl⟩
  split
  · exact hs
  refine Fits.bind (takeAll_fits hs) fun low t hlow => ?_
  refine Fits.bind (accept_fits hlow.within) fun comma u hcomma => ?_
  cases comma with
  | true =>
      refine Fits.bind (takeAll_fits hcomma.within) fun high v hhigh => ?_
      refine closeBounds_fits hs hhigh.within hlow.kind hhigh.kind (.inl rfl) ?_
      simp [hlow.rest, hcomma.rest, hhigh.rest]
  | false =>
      refine closeBounds_fits hs hcomma.within hlow.kind hlow.kind (.inr ⟨rfl, rfl⟩) ?_
      simp [hlow.rest, hcomma.rest]

/-! ## Flags -/

/-- The flags come from these letters. -/
structure FromLetters (cs : List Char) (added : Flags) : Prop where
  letters : ∀ c ∈ cs, isFlagLetter c = true
  ascii : added.ascii = true → 'a' ∈ cs
  unicode : added.unicode = true → 'u' ∈ cs

theorem flagOf?_eq_some {r : Option Token} {flag : Flags} (h : flagOf? r = some flag) :
    ∃ c, r = some (.plain c) ∧ FromLetters [c] flag := by
  unfold flagOf? at h
  split at h <;> cases h <;>
    exact ⟨_, rfl, List.forall_mem_singleton.mpr rfl, by simp, by simp⟩

theorem FromLetters.union {cs ds : List Char} {f g : Flags} (hf : FromLetters cs f) (hg : FromLetters ds g) :
    FromLetters (cs ++ ds) (f.union g) where
  letters := List.forall_mem_append.mpr ⟨hf.letters, hg.letters⟩
  ascii h := by
    rw [Flags.union, Bool.or_eq_true] at h
    exact List.mem_append.mpr (h.imp hf.ascii hg.ascii)
  unicode h := by
    rw [Flags.union, Bool.or_eq_true] at h
    exact List.mem_append.mpr (h.imp hf.unicode hg.unicode)

/-- Flags that end with a closing bracket are set by the text. -/
def Closed (text : List Char) (p : Flags × Char) : Prop :=
  p.2 = ')' → (p.1.ascii = true → SetsFlag 'a' text) ∧ (p.1.unicode = true → SetsFlag 'u' text)

theorem FromLetters.closed {cs : List Char} {added : Flags} (h : FromLetters cs added)
    (hin : (cs ++ [')']).map .plain <:+: tokens text) (sign : Char) : Closed text (added, sign) := fun _ =>
  ⟨fun ha => ⟨cs, h.ascii ha, h.letters, infix_of_plain hin⟩,
    fun hu => ⟨cs, h.unicode hu, h.letters, infix_of_plain hin⟩⟩

/-- The letters so far stand in front of the next token and the rest. -/
theorem readAdded_fits {fuel : Nat} {r : Option Token} {added : Flags} (cs : List Char) (hs : Within text s)
    (hcs : FromLetters cs added) (hin : cs.map .plain ++ r.toList ++ s.rest <:+ tokens text) :
    Fits (fun p t => Within text t ∧ Closed text p) (Admits text) (readAdded fuel r added s) := by
  induction fuel generalizing r added cs s with
  | zero => exact malformed_fits
  | succ n ih =>
      rw [readAdded]
      cases hflag : flagOf? r with
      | none => exact malformed_fits
      | some flag =>
          obtain ⟨c, rfl, hc⟩ := flagOf?_eq_some hflag
          have hmore := hcs.union hc
          dsimp only
          split
          · exact malformed_fits (s := s)
          refine Fits.bind (take_fits hs) ?_
          rintro r t ⟨-, hrest, ht⟩
          have hin : (cs ++ [c]).map .plain ++ r.toList ++ t.rest <:+ tokens text := by
            simpa [hrest] using hin
          split
          · refine ⟨ht, hmore.closed (.trans ⟨[], t.rest, ?_⟩ hin.isInfix) _⟩
            simp
          · exact ⟨ht, nofun⟩
          · exact ⟨ht, nofun⟩
          · exact ih _ ht hmore hin

/-! ## Single pieces -/

@[spec] theorem peek_keeps : Keeps text peek := by
  mvcgen [peek]

@[spec] theorem take_keeps : Keeps text take :=
  triple_iff.mpr fun _ hs => (take_fits hs).imp fun _ _ ht => ht.2.2

@[spec] theorem accept_keeps {c : Char} : Keeps text (accept c) :=
  triple_iff.mpr fun _ hs => (accept_fits hs).imp fun _ _ ht => ht.within

@[spec] theorem takeSome_keeps {ok : Char → Bool} {count : Nat} : Keeps text (takeSome ok count) :=
  triple_iff.mpr fun _ hs => (takeSome_fits hs).imp fun _ _ ht => ht.within

@[spec] theorem takeUntil_keeps {close : Char} {fuel : Nat} {taken : List Char} :
    Keeps text (takeUntil close fuel taken) := by
  induction fuel generalizing taken with
  | zero => mvcgen [takeUntil]
  | succ n ih => mvcgen [takeUntil, ih]

@[spec] theorem takeName_keeps {close : Char} : Keeps text (takeName close) := by
  mvcgen [takeName]

@[spec] theorem skipComment_keeps {fuel : Nat} : Keeps text (skipComment fuel) := by
  induction fuel with
  | zero => mvcgen [skipComment]
  | succ n ih => mvcgen [skipComment, ih]

@[spec] theorem skipLine_keeps {fuel : Nat} : Keeps text (skipLine fuel) := by
  induction fuel with
  | zero => mvcgen [skipLine]
  | succ n ih => mvcgen [skipLine, ih]

@[spec] theorem readCode_keeps {count : Nat} : Keeps text (readCode count) := by
  mvcgen [readCode]

@[spec] theorem readNamed_keeps : Keeps text readNamed := by
  mvcgen [readNamed]

@[spec] theorem readSharedEscape_keeps {c : Char} : Keeps text (readSharedEscape c) := by
  mvcgen [readSharedEscape]

@[spec] theorem readSetEscape_keeps {c : Char} : Keeps text (readSetEscape c) := by
  mvcgen [readSetEscape]

@[spec] theorem checkLookBack_keeps {g : Nat} : Keeps text (checkLookBack g) := by
  mvcgen [checkLookBack]

@[spec] theorem referTo_keeps {g : Nat} : Keeps text (referTo g) := by
  mvcgen [referTo]

@[spec] theorem reference_keeps {ds : List Char} : Keeps text (readDigitEscape.reference ds) := by
  mvcgen [readDigitEscape.reference]

@[spec] theorem readDigitEscape_keeps {c : Char} : Keeps text (readDigitEscape c) := by
  mvcgen [readDigitEscape]

@[spec] theorem readEscape_keeps {c : Char} : Keeps text (readEscape c) := by
  mvcgen [readEscape]

theorem rangeTo_keeps {fuel : Nat} (items : List SetItem) (low high : SetItem)
    (hmore : ∀ {items}, Keeps text (readSetItems fuel items)) :
    Keeps text (readSetItems.rangeTo fuel items low high) := by
  unfold readSetItems.rangeTo
  mvcgen [hmore]

theorem afterItem_keeps {fuel : Nat} (items : List SetItem) (item : SetItem)
    (hmore : ∀ {items}, Keeps text (readSetItems fuel items)) :
    Keeps text (readSetItems.afterItem fuel items item) := by
  have hrange (low high : SetItem) := rangeTo_keeps items low high hmore
  mvcgen [readSetItems.afterItem, hmore, hrange]

@[spec] theorem readSetItems_keeps {fuel : Nat} {items : List SetItem} : Keeps text (readSetItems fuel items) := by
  induction fuel generalizing items with
  | zero => mvcgen [readSetItems]
  | succ n ih =>
      have hafter (item : SetItem) := afterItem_keeps items item ih
      mvcgen [readSetItems, hafter]

@[spec] theorem readSet_keeps : Keeps text readSet := by
  mvcgen [readSet]

@[spec] theorem readTurns_keeps {c : Char} : Keeps text (readTurns c) := by
  mvcgen [readTurns]

@[spec] theorem repeatLast_keeps {bounds : Nat × Option Nat} {done : List Piece} :
    Keeps text (repeatLast bounds done) := by
  mvcgen [repeatLast]

/-! ## Groups -/

@[spec] theorem readDropped_keeps {fuel : Nat} {dropped : Flags} : Keeps text (readDropped fuel dropped) := by
  induction fuel generalizing dropped with
  | zero => mvcgen [readDropped]
  | succ n ih => mvcgen [readDropped, ih]

@[spec] theorem readCondition_keeps : Keeps text readCondition := by
  mvcgen [readCondition]
  all_goals exact Within.behind ‹_› [] rfl rfl

@[spec] theorem openGroup_keeps {name : Option (List Char)} : Keeps text (openGroup name) := by
  mvcgen [openGroup]
  all_goals exact Within.behind ‹_› [] rfl rfl

@[spec] theorem closeGroup_keeps {index : Nat} {body : List Piece} : Keeps text (closeGroup index body) := by
  mvcgen [closeGroup]
  all_goals exact Within.behind ‹_› [] rfl rfl

@[spec] theorem closing_keeps : Keeps text closing := by
  mvcgen [closing]

@[spec] theorem readNamedOpening_keeps : Keeps text readNamedOpening := by
  mvcgen [readNamedOpening]

theorem Within.withFlags {added : Flags} {sign : Char} (hs : Within text s) (h : Closed text (added, sign))
    (hsign : sign = ')') : Within text { s with flags := s.flags.union added } where
  rest := hs.rest
  ascii ha := (Bool.or_eq_true_iff.mp ha).elim hs.ascii (h hsign).1
  unicode hu := (Bool.or_eq_true_iff.mp hu).elim hs.unicode (h hsign).2

/-- Reading is in the text, behind the token in hand. -/
abbrev Behind (text : List Char) (r : Option Token) (s : Progress) : Prop :=
  Within text s ∧ r.toList ++ s.rest <:+ tokens text

theorem take_spec : ⦃fun s => ⌜Within text s⌝⦄ take
    ⦃post⟨fun r s => ⌜Behind text r s⌝, fun f => ⌜Admits text f⌝⟩⦄ :=
  triple_iff.mpr fun _ hs => (take_fits hs).imp fun _ _ ht => ⟨ht.2.2, ht.2.1 ▸ hs.rest⟩

@[spec] theorem readAdded_spec {fuel : Nat} {r : Option Token} : ⦃fun s => ⌜Behind text r s⌝⦄ readAdded fuel r {}
    ⦃post⟨fun p s => ⌜Within text s ∧ Closed text p⌝, fun f => ⌜Admits text f⌝⟩⦄ :=
  triple_iff.mpr fun _ hs => readAdded_fits [] hs.1 ⟨by simp, nofun, nofun⟩ hs.2

@[spec] theorem readFlags_spec {r : Option Token} : ⦃fun s => ⌜Behind text r s⌝⦄ readFlags r
    ⦃post⟨fun _ s => ⌜Within text s⌝, fun f => ⌜Admits text f⌝⟩⦄ := by
  mvcgen [readFlags]
  case isTrue hsign s hs _ => exact hs.1.withFlags hs.2 hsign
  all_goals simp_all only

@[spec] theorem readOpening_keeps : Keeps text readOpening := by
  mvcgen [readOpening, take_spec, - take_keeps]
  all_goals next hs => exact hs.1

/-! ## Whole patterns -/

theorem sequence_keeps (fuel : Nat) :
    (∀ verbose outer arms, Keeps text (readArms verbose outer fuel arms)) ∧
      ∀ verbose first done, Keeps text (readSequence verbose first fuel done) := by
  induction fuel with
  | zero => exact ⟨fun _ _ _ => by mvcgen [readArms], fun _ _ _ => by mvcgen [readSequence]⟩
  | succ n ih =>
      obtain ⟨harms, hsequence⟩ := ih
      refine ⟨fun verbose outer arms => ?_, fun verbose first done => ?_⟩
      · mvcgen [readArms, harms, hsequence]
      · mvcgen [readSequence, harms, hsequence]
        -- a look back changes only the place it started from
        all_goals exact Within.behind ‹_› [] rfl rfl

theorem readWhole_keeps : Keeps text readWhole := by
  have harms {verbose outer : Bool} {fuel : Nat} {arms : List (List Piece)} :
      Keeps text (readArms verbose outer fuel arms) := (sequence_keeps fuel).1 _ _ _
  mvcgen [readWhole, harms, throw_spec, - Spec.throw_MonadExcept]
  next s hs _ hflags =>
    obtain ⟨ha, hu⟩ := Bool.and_eq_true_iff.mp hflags
    exact ⟨hs.ascii ha, hs.unicode hu⟩

end Reading

/-- A pattern that is not read is malformed, or has what its fault says, unless character classes are chosen
from outside. -/
theorem admits_of_read {flags : Flags} {text : String} {f : Fault} (hflags : flags.hasClasses = false)
    (h : read flags text = .error f) : Admits text.toList f := by
  rw [Flags.hasClasses, Bool.or_eq_false_iff] at hflags
  have hstart : Within text.toList { rest := tokens text.toList, flags } :=
    ⟨List.suffix_rfl, by simp [hflags.1], by simp [hflags.2]⟩
  have hfits := triple_iff.mp readWhole_keeps _ hstart
  rw [read, except_map_error] at h
  rwa [show readWhole _ = .error f from h] at hfits

end ElementFinder.Pattern

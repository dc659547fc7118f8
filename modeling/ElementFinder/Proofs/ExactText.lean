import ElementFinder.Proofs.Calls

/-!
# Exact texts before a tap

Before a tap an element that has exactly the wanted text is asked for by a query, but the page comes
before the answer of that query. On the page a text also matches where it is only part of another, and
of all that match the first of the greatest rank is taken.
-/

namespace ElementFinder

open Run Exchange Finder

variable {σ : Type} {f : Finder σ} {s : Selector} {d : Deadline} {text handle : String}
  {t u v : World σ} {e : Element}

/-- The selector asks for a text and for nothing else that decides where it is looked for. -/
structure Selector.AsksOnlyText (s : Selector) (text : String) : Prop where
  text : givenText? s.criteria.text = some text
  id : givenText? s.criteria.id = none
  size : s.criteria.hasSize = false
  relative : s.hasRelative = false
  index : givenText? s.index = none

/-- One of the main texts of a node is the text. -/
def Node.HasText (n : Node) (text : String) : Prop :=
  text ∈ [n.attributes.label, n.attributes.name, n.attributes.value]

/-- The page that a client shows next. -/
def nextPage (c : Client σ) (x : Exchange σ) : Except Failure Snapshot :=
  x.answer c .source >>= Snapshot.ofSource

theorem Selector.AsksOnlyText.tapAttempt_eq (hs : s.AsksOnlyText text) :
    f.tapAttempt s d = Attempt.tap f.client s (some d) := by
  simp [tapAttempt, isTapText, hs.relative, hs.id, hs.text]

/-- A text that is given describes its selector. -/
theorem Selector.describe_of_text (h : givenText? s.criteria.text = some text) : s.describe = .ok text := by
  have hne : text.isEmpty = false := by
    have := Option.filter_eq_some_iff.mp h
    simpa using this.2
  rw [describe, Criteria.describe, h]
  simp [hne]

theorem Selector.AsksOnlyText.describe_eq (hs : s.AsksOnlyText text) : s.describe = .ok text :=
  describe_of_text hs.text

/-- A page that has been answered gives the element of the picked node. -/
theorem pickFrom_eq_ok {c : Client σ} {x : Exchange σ} :
    x.answer c .source >>= Attempt.pickFrom s = .ok e ↔
      ∃ description page n, s.describe = .ok description ∧ nextPage c x = .ok page ∧
        s.pickIn page = .ok (some n) ∧
        e = Attempt.ofNode n (page.tapTarget n).bounds description Attempt.onPage := by
  constructor
  · intro h
    obtain ⟨source, hsource, h⟩ := except_bind_ok.mp h
    obtain ⟨description, hdescribe, h⟩ := except_bind_ok.mp h
    obtain ⟨page, hpage, h⟩ := except_bind_ok.mp h
    obtain ⟨n, hn, h⟩ := except_bind_ok.mp h
    cases n with
    | none => cases h
    | some n =>
        cases h
        exact ⟨description, page, n, hdescribe, except_bind_ok.mpr ⟨source, hsource, hpage⟩, hn, rfl⟩
  · rintro ⟨description, page, n, hdescribe, hpage, hn, rfl⟩
    obtain ⟨source, hsource, hpage⟩ := except_bind_ok.mp hpage
    refine except_bind_ok.mpr ⟨source, hsource, except_bind_ok.mpr ⟨description, hdescribe, ?_⟩⟩
    refine except_bind_ok.mpr ⟨page, hpage, except_bind_ok.mpr ⟨some n, hn, rfl⟩⟩

/-- After an exact answer, an attempt that succeeds returns the node that the page gives, or the
element of the handle if the page gives none. -/
theorem fallback_exact
    (hexact : v.exchange.answer f.client s.criteria.exactQuery.request = .ok handle)
    (h : Attempt.fallback f.client s v = (.ok e, u)) :
    let x := v.exchange.after f.client s.criteria.exactQuery.request
    x.answer f.client .source >>= Attempt.pickFrom s = .ok e ∨
      e.handle = some handle ∧ ∀ e', x.answer f.client .source >>= Attempt.pickFrom s ≠ .ok e' := by
  intro x
  obtain ⟨_, _, ho⟩ | ⟨queried, y, p, z, hq, hp, hend⟩ := Attempt.fallback_inv h
  · cases ho
  obtain ⟨hy, ⟨_, ha, hfound⟩ | ⟨_, hfound⟩⟩ | ⟨_, missed, hmissed, _⟩ :=
    Attempt.exactOrContains_inv hq
  · cases hexact.symm.trans ha
    cases hfound
    change y.exchange = x at hy
    have hpage := Attempt.byPage_inv hp
    rw [hy] at hpage
    obtain ⟨rfl, _, _⟩ | ⟨_, _, _, _, hmissed, _⟩ | ⟨g, q, handle', y', rfl, _, hq, _, hend⟩ := hend
    · obtain ⟨_, _, hp, _⟩ | ⟨_, hp⟩ := hpage
      · cases hp
      · exact Or.inl hp.symm
    · cases hmissed
    · cases hq
      refine Or.inr ⟨Attempt.ofHandle_ok hend, fun e' he' => ?_⟩
      obtain ⟨_, hdescribe, _, _⟩ | ⟨_, hp⟩ := hpage
      · obtain ⟨_, _, _, hdescribe', _⟩ := pickFrom_eq_ok.mp he'
        cases hdescribe.symm.trans hdescribe'
      · cases hp.trans he'
  · cases hfound
  · cases hexact.symm.trans hmissed

/-- Where the queries for interactive elements miss and the exact query is answered, a tap returns the
element of the handle or a node that has the text, exactly if no node that only contains the text is
the first of the greatest rank among the matching nodes of the page. -/
theorem tap_keeps_exact_text_iff (hs : s.AsksOnlyText text) {g : Failure}
    (hmiss : Attempt.byQueries f.client s (some d) s.criteria.interactiveQueries t = (.error g, v))
    (hexact : v.exchange.answer f.client s.criteria.exactQuery.request = .ok handle)
    (h : f.tapAttempt s d t = (.ok e, u)) :
    let x := v.exchange.after f.client s.criteria.exactQuery.request
    (e.handle = some handle ∨
        ∃ page n description, nextPage f.client x = .ok page ∧ s.pickIn page = .ok (some n) ∧
          n.HasText text ∧
          e = Attempt.ofNode n (page.tapTarget n).bounds description Attempt.onPage) ↔
      ¬∃ page found n, nextPage f.client x = .ok page ∧
        s.criteria.filterNodes page.nodes = .ok found ∧ FirstBest Node.rank found n ∧
        ¬n.HasText text := by
  intro x
  rw [hs.tapAttempt_eq, Attempt.tap_eq] at h
  obtain ⟨hq, _⟩ | ⟨g', v', hq, _, _, hrun⟩ := Attempt.queriesOr_inv h
  · cases hmiss.symm.trans hq
  cases hmiss.symm.trans hq
  -- The page gives the element or the handle does; the picked node is the first of the best.
  obtain hpicked | ⟨hhandle, hnone⟩ := fallback_exact hexact hrun
  · obtain ⟨description, page, n, _, hpage, hn, rfl⟩ := pickFrom_eq_ok.mp hpicked
    constructor
    · rintro (hhandle | ⟨page', n', _, hpage', hn', htext, _⟩) ⟨page'', found, m, hpage'', hm⟩
      · cases hhandle
      · cases hpage'.symm.trans hpage''
        cases hn'.symm.trans ((Selector.pickIn_unindexed hs.index).mpr ⟨found, hm.1, hm.2.1⟩)
        exact hm.2.2 htext
    · intro hno
      refine Or.inr ⟨page, n, description, hpage, hn, ?_, rfl⟩
      by_contra htext
      obtain ⟨found, hfound, hbest⟩ := (Selector.pickIn_unindexed hs.index).mp hn
      exact hno ⟨page, found, n, hpage, hfound, hbest, htext⟩
  · refine iff_of_true (Or.inl hhandle) ?_
    rintro ⟨page, found, n, hpage, hfound, hbest, _⟩
    have hn := (Selector.pickIn_unindexed hs.index).mpr ⟨found, hfound, hbest⟩
    exact hnone _ (pickFrom_eq_ok.mpr ⟨text, page, n, hs.describe_eq, hpage, hn, rfl⟩)

/-- A client that only finds an element by one query, and shows a page. -/
def pageClient (query : Query) (source : String) : Client Unit where
  ask r u t :=
    match r with
    | .find method value =>
      { outcome := if method = query.method ∧ value = query.value then .ok "handle"
          else .error (.query "" none)
        client := u, now := t }
    | .text _ => { outcome := .ok "", client := u, now := t }
    | .rect _ => { outcome := .ok {}, client := u, now := t }
    | .displayed _ => { outcome := .ok true, client := u, now := t }
    | .source => { outcome := .ok source, client := u, now := t }

theorem pageClient_answer (query : Query) (source : String) (x : Exchange Unit) :
    x.answer (pageClient query source) query.request = .ok "handle" :=
  if_pos ⟨rfl, rfl⟩

/-- A page on which a longer text stands deeper than the wanted one. -/
def longerTextDeeper : String :=
  "<App><Field label=\"Password\"/><Row><Link label=\"Forgot Password?\"/></Row></App>"

theorem tap_keeps_exact_text_iff_password :
    let s := Selector.ofText "Password"
    let f : Finder Unit := { client := pageClient s.criteria.exactQuery longerTextDeeper }
    let d : Deadline := ⟨10.0, 0.0, false⟩
    let t : World Unit := { client := (), wall := ⟨"", ""⟩ }
    s.AsksOnlyText "Password" ∧ ∃ g v e u,
      Attempt.byQueries f.client s (some d) s.criteria.interactiveQueries t = (.error g, v) ∧
      v.exchange.answer f.client s.criteria.exactQuery.request = .ok "handle" ∧
      f.tapAttempt s d t = (.ok e, u) ∧
      let x := v.exchange.after f.client s.criteria.exactQuery.request
      ((e.handle = some "handle" ∨
          ∃ page n description, nextPage f.client x = .ok page ∧ s.pickIn page = .ok (some n) ∧
            n.HasText "Password" ∧
            e = Attempt.ofNode n (page.tapTarget n).bounds description Attempt.onPage) ↔
        ¬∃ page found n, nextPage f.client x = .ok page ∧
          s.criteria.filterNodes page.nodes = .ok found ∧ FirstBest Node.rank found n ∧
          ¬n.HasText "Password") := by
  intro s f d t
  have hs : s.AsksOnlyText "Password" :=
    ⟨by decide, by decide, by decide, by decide, by decide⟩
  obtain ⟨g, v, hmiss⟩ := exists_error (p := Attempt.byQueries f.client s (some d)
    s.criteria.interactiveQueries t) (by decide +kernel)
  obtain ⟨e, u, h⟩ := exists_ok (p := f.tapAttempt s d t) (by decide +kernel)
  have hexact := pageClient_answer s.criteria.exactQuery longerTextDeeper v.exchange
  exact ⟨hs, g, v, e, u, hmiss, hexact, h, tap_keeps_exact_text_iff hs hmiss hexact h⟩

/-- Only the exact query is answered, but the tap goes to a node that only contains the text. -/
theorem tap_goes_to_longer_text :
    let s := Selector.ofText "Password"
    let f : Finder Unit := { client := pageClient s.criteria.exactQuery longerTextDeeper }
    let d : Deadline := ⟨10.0, 0.0, false⟩
    let t : World Unit := { client := (), wall := ⟨"", ""⟩ }
    (Attempt.byQueries f.client s (some d) s.criteria.interactiveQueries t).1.toOption = none ∧
      t.exchange.answer f.client s.criteria.exactQuery.request = .ok "handle" ∧
      (f.tapAttempt s d t).1.toOption.map (fun e => (e.text, e.handle)) =
        some ("Forgot Password?", none) := by
  intro s f d t
  refine ⟨by decide +kernel, pageClient_answer _ _ _, by decide +kernel⟩

end ElementFinder

import ElementFinder.Page.Source
import ElementFinder.Proofs.Exchange

/-!
# Rows of requests

Requests that follow each other, each in the exchange that those before it have left. What was sent
tells the row, and the last page that the row was answered with is found by going through it.
-/

namespace ElementFinder.Exchange

variable {σ : Type} {c : Client σ} {x : Exchange σ} {r : Request} {rs : List Request}

/-- The exchange after a row of requests. -/
def afterAll (c : Client σ) (x : Exchange σ) (rs : List Request) : Exchange σ :=
  rs.foldl (fun x r => x.after c r) x

/-- The requests of a row, each with the exchange in which it is sent. -/
def asked (c : Client σ) (x : Exchange σ) : List Request → List (Exchange σ × Request)
  | [] => []
  | r :: rs => (x, r) :: asked c (x.after c r) rs

@[simp] theorem afterAll_append (rs rs' : List Request) :
    x.afterAll c (rs ++ rs') = (x.afterAll c rs).afterAll c rs' :=
  List.foldl_append

theorem asked_append (rs rs' : List Request) :
    asked c x (rs ++ rs') = asked c x rs ++ asked c (x.afterAll c rs) rs' := by
  induction rs generalizing x with
  | nil => rfl
  | cons r rs ih =>
      rw [List.cons_append, asked, ih]
      rfl

theorem sent_afterAll (rs : List Request) :
    (x.afterAll c rs).sent = x.sent ++ (asked c x rs).map fun e => noted e.2 e.1 := by
  induction rs generalizing x with
  | nil => simp [asked, afterAll]
  | cons r rs ih =>
      show ((x.after c r).afterAll c rs).sent = _
      simp [ih, asked]

theorem map_asked (rs : List Request) : (asked c x rs).map (·.2) = rs := by
  induction rs generalizing x with
  | nil => rfl
  | cons r rs ih => rw [asked, List.map_cons, ih]

/-- What was sent tells the row of requests. -/
theorem afterAll_injective : Function.Injective (x.afterAll c) := by
  intro rs rs' h
  have hsent := congrArg Exchange.sent h
  rw [sent_afterAll, sent_afterAll] at hsent
  have hrequests := congrArg (List.map Sent.request) (List.append_cancel_left hsent)
  simpa [Function.comp_def, map_asked] using hrequests

/-- A run is a row of requests, each of which is allowed where it is sent. -/
theorem Leads.exists_row {allowed : Exchange σ → Request → Prop} {y : Exchange σ}
    (h : Leads c allowed x y) :
    ∃ rs, y = x.afterAll c rs ∧ ∀ e ∈ asked c x rs, allowed e.1 e.2 := by
  induction h with
  | refl => exact ⟨[], rfl, by simp [asked]⟩
  | @tail y _ _ hstep ih =>
      obtain ⟨rs, rfl, hall⟩ := ih
      obtain ⟨r, hr, rfl⟩ := hstep
      refine ⟨rs ++ [r], by rw [afterAll_append]; rfl, fun e he => ?_⟩
      rw [asked_append] at he
      rcases List.mem_append.mp he with he | he
      · exact hall e he
      · rw [List.mem_singleton.mp he]
        exact hr

/-! ## Pages -/

/-- The source that a request for the page is answered with. -/
def page? (c : Client σ) : Exchange σ × Request → Option String
  | (x, .source) => (x.answer c .source).toOption
  | _ => none

/-- The last source that a row of requests is answered with. -/
def lastPage? (c : Client σ) (x : Exchange σ) (rs : List Request) : Option String :=
  ((asked c x rs).filterMap (page? c)).getLast?

theorem lastPage?_append (rs rs' : List Request) :
    x.lastPage? c (rs ++ rs') = ((x.afterAll c rs).lastPage? c rs').or (x.lastPage? c rs) := by
  rw [lastPage?, asked_append, List.filterMap_append, List.getLast?_append]
  rfl

/-- A request of the row is answered with the source of a page that can be read. -/
def ReadsPage (c : Client σ) (x : Exchange σ) (rs : List Request) (page : Snapshot) : Prop :=
  ∃ y, (y, Request.source) ∈ asked c x rs ∧ y.answer c .source >>= Snapshot.ofSource = .ok page

theorem readsPage_append {rs rs' : List Request} {page : Snapshot} :
    ReadsPage c x (rs ++ rs') page ↔
      ReadsPage c x rs page ∨ ReadsPage c (x.afterAll c rs) rs' page := by
  simp only [ReadsPage, asked_append, List.mem_append, or_and_right, exists_or]

theorem readsPage_source {page : Snapshot} :
    ReadsPage c x [.source] page ↔ x.answer c .source >>= Snapshot.ofSource = .ok page := by
  simp [ReadsPage, asked]

end ElementFinder.Exchange

import ElementFinder.Http.Session
import ElementFinder.Proofs.ReadDocuments

/-!
# Replies of a server

A call over HTTP is answered or fails as a query, whatever the server replies, but for three cases: a path
that cannot be sent, a document that is nested too deeply, and a rectangle with a side that is no number or
has no bound.
-/

namespace ElementFinder.Http

/-- A call: a request is put to a server, and its reply is read. -/
def Session.call (s : Session) (r : Request) (reply : Reply) : Except Failure r.Answer := do
  let _ ← s.target r
  s.read r reply

theorem Session.call_eq {s : Session} {r : Request} {target : String} (h : s.target r = .ok target)
    (reply : Reply) : s.call r reply = s.read r reply := by
  rw [call, h]
  rfl

/-! ## Documents in replies -/

/-- The body of a reply is a document with this value. -/
def IsDocument (body : List UInt8) (v : Value) : Prop :=
  ∃ cs, Json.decode body = .ok cs ∧ Json.read cs = .ok v

namespace Reply

variable {reply : Reply} {entries : List (Value × Value)} {status : Int} {body : List UInt8}

/-- The status that comes with a reply. -/
def status? : Reply → Option Int
  | received status _ => some status
  | broken _ _ => none

/-- The reply is no error and has these entries. -/
inductive Gives (entries : List (Value × Value)) : Reply → Prop
  | intro {status : Int} {body : List UInt8} : status < 400 → IsDocument body (.map entries) →
      reportedError? entries = none → Gives entries (received status body)

/-- The document in the reply is nested too deeply to be read. -/
inductive IsTooDeep : Reply → Prop
  | intro {status : Int} {body : List UInt8} {cs : List Char} : Json.decode body = .ok cs →
      Json.read cs = .error .tooDeep → IsTooDeep (received status body)

/-- What reading a reply comes to. A failure as a query has the status that came with the reply. -/
inductive ReadAs (reply : Reply) : Except Failure (List (Value × Value)) → Prop
  | entries {entries : List (Value × Value)} : reply.Gives entries → ReadAs reply (.ok entries)
  | refused {text : String} : (∀ entries, ¬reply.Gives entries) → ¬reply.IsTooDeep →
      ReadAs reply (.error (.query text reply.status?))
  | tooDeep : reply.IsTooDeep → ReadAs reply (.error .endless)

theorem document_cases (path : String) (status : Int) (body : List UInt8) :
    (∃ v, document path status body = .ok v ∧ IsDocument body v) ∨
    (document path status body = .error .endless ∧ (received status body).IsTooDeep) ∨
    ∃ text, document path status body = .error (.query text (some status)) ∧
      (∀ v, ¬IsDocument body v) ∧ ¬(received status body).IsTooDeep := by
  rw [document]
  cases hcs : Json.decode body with
  | error reason =>
      refine Or.inr (Or.inr ⟨_, rfl, ?_, ?_⟩)
      · rintro v ⟨cs, hdecode, -⟩
        cases hcs.symm.trans hdecode
      · rintro ⟨hdecode, -⟩
        cases hcs.symm.trans hdecode
  | ok cs =>
      dsimp only
      cases hv : Json.read cs with
      | ok v => exact Or.inl ⟨v, rfl, cs, hcs, hv⟩
      | error fault =>
          by_cases hdeep : fault = .tooDeep
          · subst hdeep
            exact Or.inr (Or.inl ⟨rfl, hcs, hv⟩)
          · refine Or.inr (Or.inr ⟨unreadable path body (fault.message cs), ?_, ?_, ?_⟩)
            · cases fault <;> first | rfl | exact absurd rfl hdeep
            · rintro v ⟨cs, hdecode, hread⟩
              cases hcs.symm.trans hdecode
              cases hv.symm.trans hread
            · rintro ⟨hdecode, hread⟩
              cases hcs.symm.trans hdecode
              exact hdeep (Except.error.inj (hv.symm.trans hread))

theorem isDocument_unique {v w : Value} (hv : IsDocument body v) (hw : IsDocument body w) : v = w := by
  obtain ⟨cs, hdecode, hread⟩ := hv
  obtain ⟨cs', hdecode', hread'⟩ := hw
  cases hdecode.symm.trans hdecode'
  exact Except.ok.inj (hread.symm.trans hread')

theorem not_isTooDeep_of_isDocument {v : Value} (hv : IsDocument body v) :
    ¬(received status body).IsTooDeep := by
  obtain ⟨cs, hdecode, hread⟩ := hv
  rintro ⟨hdecode', hread'⟩
  cases hdecode.symm.trans hdecode'
  cases hread.symm.trans hread'

theorem Gives.unique {entries' : List (Value × Value)} (h : reply.Gives entries)
    (h' : reply.Gives entries') : entries = entries' := by
  obtain ⟨-, hv, -⟩ := h
  obtain ⟨-, hv', -⟩ := h'
  cases isDocument_unique hv hv'
  rfl

theorem Gives.not_isTooDeep (h : reply.Gives entries) : ¬reply.IsTooDeep := by
  obtain ⟨-, hv, -⟩ := h
  exact not_isTooDeep_of_isDocument hv

theorem reportedError?_written {message : Value} (h : reportedError? entries = some message)
    (hentries : ¬(Value.map entries).HoldsTooLong) : ¬message.HoldsTooLong := by
  simp only [reportedError?, Option.bind_eq_bind, Option.bind_eq_some_iff, Option.pure_def,
    Option.some.injEq] at h
  obtain ⟨value, ⟨v, hv, hvalue⟩, name, -, rfl⟩ := h
  have hlong := fun h => hentries (.of_lookup hv h)
  cases v <;> cases hvalue
  split
  · cases hmessage : Value.field? "message" value with
    | none => nofun
    | some message => exact fun h => hlong (.of_lookup hmessage h)
  · exact Value.HoldsTooLong.not_text name

theorem entries_readAs (verb path : String) (reply : Reply) :
    reply.ReadAs (Http.entries verb path reply) := by
  cases reply with
  | broken kind text => exact .refused nofun nofun
  | received status body =>
      rw [Http.entries]
      obtain ⟨v, hdocument, hv⟩ | ⟨hdocument, hdeep⟩ | ⟨text, hdocument, hno, hshallow⟩ :=
        document_cases path status body <;> rw [hdocument]
      · have hwords : ¬v.HoldsTooLong := by
          obtain ⟨cs, -, hread⟩ := hv
          exact Json.read_written hread
        have hshallow : ¬(received status body).IsTooDeep := not_isTooDeep_of_isDocument hv
        obtain ⟨shown, hshown⟩ := Value.displayOrFail_ok hwords
        dsimp only [bind, Except.bind]
        cases v with
        | map entries =>
            have hgives : ∀ {es}, (received status body).Gives es →
                status < 400 ∧ reportedError? entries = none := by
              rintro es ⟨hstatus, hes, hreported⟩
              cases isDocument_unique hv hes
              exact ⟨hstatus, hreported⟩
            dsimp only
            cases hreported : reportedError? entries with
            | some message =>
                obtain ⟨shown, hshown⟩ := Value.writeOrFail_ok (reportedError?_written hreported hwords)
                dsimp only
                rw [hshown]
                refine .refused (fun es hes => ?_) hshallow
                cases hreported.symm.trans (hgives hes).2
            | none =>
                dsimp only
                split
                · next hstatus => exact .refused (fun es hes => Int.not_lt.mpr hstatus (hgives hes).1) hshallow
                · next hstatus => exact .entries ⟨Int.not_le.mp hstatus, hv, hreported⟩
        | _ =>
            dsimp only
            rw [hshown]
            refine .refused ?_ hshallow
            rintro entries ⟨-, hes, -⟩
            cases isDocument_unique hv hes
      · exact .tooDeep hdeep
      · refine .refused ?_ hshallow
        rintro entries ⟨-, hv, -⟩
        exact hno _ hv

theorem entries_of_gives (verb path : String) (h : reply.Gives entries) :
    Http.entries verb path reply = .ok entries := by
  have hread := entries_readAs verb path reply
  generalize Http.entries verb path reply = result at hread
  cases hread with
  | entries h' => rw [h.unique h']
  | refused hno _ => exact absurd h (hno entries)
  | tooDeep hdeep => exact absurd hdeep h.not_isTooDeep

end Reply

/-! ## Answers -/

/-- A side of a rectangle is a double without a value: it has no bound, or is no number. -/
def HasUnboundedSide (value : Value) : Prop :=
  ∃ entries, value = .map entries ∧ ∃ name ∈ ["x", "y", "width", "height"], ∃ x,
    Value.field? name entries = some (.float x) ∧ Binary.ofFloat? x = none

/-- A failure as anything but a query, exactly on a condition. -/
abbrev StraysFromQueryWhen {α : Type} (p : Prop) (x : Except Failure α) : Prop :=
  FailsWhen (fun f : Failure => f.isQuery = false) p x

theorem wholePart_strays (x : Float) : StraysFromQueryWhen (Binary.ofFloat? x = none) (wholePart x) := by
  rw [wholePart]
  cases hx : Binary.ofFloat? x with
  | some b => exact .ok nofun
  | none => exact .error (by split <;> rfl) rfl

theorem coordinate_strays (v? : Option Value) :
    StraysFromQueryWhen (∃ x, v? = some (.float x) ∧ Binary.ofFloat? x = none) (coordinate v?) := by
  rw [coordinate.eq_def]
  split
  · exact .ok nofun
  · next x => exact (wholePart_strays x).congr (by simp)
  · next _ hfloat => exact .ok fun ⟨x, hx, _⟩ => hfloat x hx

theorem rectIn_strays (value : Value) : StraysFromQueryWhen (HasUnboundedSide value) (rectIn value) := by
  rw [rectIn]
  cases hentries : entries? value with
  | none =>
      refine .ok ?_
      rintro ⟨entries, rfl, -⟩
      cases hentries
  | some entries =>
      have hvalue : value = .map entries := by
        cases value <;> cases hentries
        rfl
      have hside := fun name => coordinate_strays (Value.field? name entries)
      have hrect := (hside "x").bind fun x => (hside "y").bind fun y =>
        (hside "width").both (hside "height") (Bounds.mk x y)
      exact hrect.congr (by simp [HasUnboundedSide, hvalue])

/-- The answer can be used: a handle is not empty. -/
def IsUsable : (r : Request) → r.Answer → Prop
  | .find _ _, handle => handle ≠ ""
  | _, _ => True

theorem handleIn?_ne {value : List (Value × Value)} {handle : String} (h : handleIn? value = some handle) :
    handle ≠ "" := by
  have hnonempty : ∀ {v}, handle? v = some handle → handle ≠ "" := by
    rintro v hv rfl
    cases (Option.filter_eq_some_iff.mp hv).2
  simp only [handleIn?, Option.orElse_eq_or, Option.or_eq_some_iff, Option.bind_eq_some_iff] at h
  rcases h with ⟨v, -, hv⟩ | ⟨-, ⟨v, -, hv⟩ | ⟨-, h⟩⟩
  · exact hnonempty hv
  · exact hnonempty hv
  · obtain ⟨e, -, he⟩ := List.exists_of_findSome?_eq_some h
    split at he
    · cases he
    · exact hnonempty he

/-- It is an answer or a failure as a query. -/
def EndsOrderly {α : Type} (result : Except Failure α) : Prop :=
  (∃ a, result = .ok a) ∨ ∃ text status, result = .error (.query text status)

theorem not_endsOrderly {α : Type} {f : Failure} (hf : f.isQuery = false) :
    ¬EndsOrderly (.error f : Except Failure α) := by
  rintro (⟨_, ⟨⟩⟩ | ⟨_, _, ⟨⟩⟩)
  cases hf

/-- What the value of a reply that is no error comes to. -/
inductive AnsweredAs (value : Value) : (r : Request) → Except Failure r.Answer → Prop
  | answer {r : Request} {a : r.Answer} : IsUsable r a →
      (∀ handle, r = .rect handle → ¬HasUnboundedSide value) → AnsweredAs value r (.ok a)
  | refused {r : Request} {text : String} : (∀ handle, r ≠ .rect handle) →
      AnsweredAs value r (.error (.query text none))
  | unbounded {handle : String} {f : Failure} : f.isQuery = false → HasUnboundedSide value →
      AnsweredAs value (.rect handle) (.error f)

theorem answerIn_answeredAs (value : Value) (r : Request) : AnsweredAs value r (answerIn value r) := by
  cases r with
  | find method query =>
      rw [answerIn]
      split
      · next handle hhandle =>
        obtain ⟨entries, -, hhandle⟩ := Option.bind_eq_some_iff.mp hhandle
        exact .answer (handleIn?_ne hhandle) nofun
      · exact .refused nofun
  | text handle => exact .answer trivial nofun
  | rect handle =>
      have hrect := rectIn_strays value
      rw [answerIn]
      cases hvalue : rectIn value with
      | ok b =>
          rw [hvalue] at hrect
          cases hrect with
          | ok hbounded => exact .answer trivial fun _ _ => hbounded
      | error f =>
          rw [hvalue] at hrect
          cases hrect with
          | error hf hunbounded => exact .unbounded hf hunbounded
  | displayed handle => exact .answer trivial nofun
  | source =>
      rw [answerIn]
      split
      · exact .answer trivial nofun
      · exact .refused nofun

theorem answerIn_endsOrderly_iff (value : Value) (r : Request) :
    EndsOrderly (answerIn value r) ↔ ∀ handle, r = .rect handle → ¬HasUnboundedSide value := by
  have hanswer := answerIn_answeredAs value r
  generalize answerIn value r = result at hanswer
  cases hanswer with
  | answer _ hbounded => exact iff_of_true (Or.inl ⟨_, rfl⟩) hbounded
  | refused hrect => exact iff_of_true (Or.inr ⟨_, _, rfl⟩) fun handle h => absurd h (hrect handle)
  | unbounded hf hside => exact iff_of_false (not_endsOrderly hf) fun hbounded => hbounded _ rfl hside

theorem isUsable_of_answerIn {value : Value} {r : Request} {a : r.Answer}
    (h : answerIn value r = .ok a) : IsUsable r a := by
  have hanswer := answerIn_answeredAs value r
  rw [h] at hanswer
  cases hanswer with
  | answer husable _ => exact husable

/-! ## Calls -/

/-- The value in a reply that is no error. -/
def answerValue (entries : List (Value × Value)) : Value := (Value.field? "value" entries).getD .null

/-- The reply has a rectangle with a side that is no number or has no bound. -/
def Reply.GivesUnboundedSide (reply : Reply) : Prop :=
  ∃ entries, reply.Gives entries ∧ HasUnboundedSide (answerValue entries)

/-- A call ends in an answer or a failure as a query, unless its path cannot be sent, the document in the
reply is nested too deeply, or the answer would be a rectangle with a side that is no number or has no bound.
It is answered only by a reply that is no error, and with a handle that is not empty; a failure that is due
to the reply as a whole has its status. -/
theorem calls_end_orderly_iff (s : Session) (r : Request) (reply : Reply) :
    (EndsOrderly (s.call r reply) ↔ (target? s.address (s.path r)).isSome ∧ ¬reply.IsTooDeep ∧
      ∀ handle, r = .rect handle → ¬reply.GivesUnboundedSide) ∧
    (∀ a, s.call r reply = .ok a → IsUsable r a ∧ ∃ entries, reply.Gives entries) ∧
    ∀ text status, s.call r reply = .error (.query text status) →
      (∀ entries, ¬reply.Gives entries) → status = reply.status? := by
  cases htarget : target? s.address (s.path r) with
  | none =>
      have hcall : s.call r reply = .error (.other "InvalidURL" "") := by
        rw [Session.call, Session.target, htarget]
        rfl
      rw [hcall]
      exact ⟨iff_of_false (not_endsOrderly rfl) nofun, nofun, nofun⟩
  | some target =>
      have hread := Reply.entries_readAs (verb r) (s.path r) reply
      rw [Session.call_eq (by rw [Session.target, htarget]), Session.read]
      generalize entries (verb r) (s.path r) reply = read at hread
      cases hread with
      | @entries entries hgives =>
          have hrect : reply.GivesUnboundedSide ↔ HasUnboundedSide (answerValue entries) :=
            ⟨fun ⟨_, h, hside⟩ => h.unique hgives ▸ hside, fun hside => ⟨entries, hgives, hside⟩⟩
          have hends := answerIn_endsOrderly_iff (answerValue entries) r
          rw [hrect]
          exact ⟨hends.trans ⟨fun h => ⟨rfl, hgives.not_isTooDeep, h⟩, fun h => h.2.2⟩,
            fun a ha => ⟨isUsable_of_answerIn ha, entries, hgives⟩,
            fun _ _ _ hno => absurd hgives (hno entries)⟩
      | refused hno hshallow =>
          refine ⟨iff_of_true (Or.inr ⟨_, _, rfl⟩) ⟨rfl, hshallow, ?_⟩, nofun, ?_⟩
          · rintro _ - ⟨entries, hgives, -⟩
            exact hno entries hgives
          · rintro _ _ ⟨⟩ -
            rfl
      | tooDeep hdeep =>
          exact ⟨iff_of_false (not_endsOrderly rfl) fun ⟨_, hshallow, _⟩ => hshallow hdeep, nofun, nofun⟩

def endlessText : String := "\x7b\"value\": \x7b\"x\": 1e999\x7d\x7d"

/-- The reply is a rectangle, one side of which has no bound. -/
def endlessReply : Reply := .received 200 (endlessText.toList.flatMap Utf8.encodeChar)

theorem endless_rectangle_ends_otherwise :
    Session.call ⟨localAddress, none⟩ (.rect "e1") endlessReply = .error .overflow ∧
      ¬EndsOrderly (Session.call ⟨localAddress, none⟩ (.rect "e1") endlessReply) := by
  have hgives : endlessReply.Gives [(.text "value", .map [(.text "x", .float infinity)])] :=
    ⟨by decide, ⟨endlessText.toList, rfl, rfl⟩, rfl⟩
  have htarget : Session.target ⟨localAddress, none⟩ (.rect "e1") = .ok "/element/e1/rect" := rfl
  have hcall : Session.call ⟨localAddress, none⟩ (.rect "e1") endlessReply = .error .overflow := by
    rw [Session.call_eq htarget, Session.read, Reply.entries_of_gives _ _ hgives]
    rfl
  rw [hcall]
  exact ⟨rfl, not_endsOrderly rfl⟩

end ElementFinder.Http

import ElementFinder.Proofs.KeptPages

/-!
# Pages that are overwritten

The file of a kept page has a name made of the safe form of its label and of the moment, to the second. So a
page is overwritten by a later one for the same directory, with the same safe form, in the same second, and
by no other. What a file holds in the end is the last page that was kept in it.
-/

namespace ElementFinder

theorem append_separator_inj {α : Type} {sep : α} {a b x y : List α} (hx : sep ∉ x) (hy : sep ∉ y)
    (h : a ++ sep :: x = b ++ sep :: y) : a = b ∧ x = y := by
  rcases List.append_eq_append_iff.mp h with ⟨w, rfl, hw⟩ | ⟨w, rfl, hw⟩
  · cases w with
    | nil => exact ⟨by simp, (List.cons.inj hw).2⟩
    | cons c w => exact absurd (by rw [(List.cons.inj hw).2]; simp) hx
  · cases w with
    | nil => exact ⟨by simp, (List.cons.inj hw).2.symm⟩
    | cons c w => exact absurd (by rw [(List.cons.inj hw).2]; simp) hy

namespace Artifact

open FileTree

variable {t u : FileTree} {directory label label' stamp stamp' : String} {p : Place}

/-! ## Names of files -/

/-- A moment as it stands in the name of a file: the digits of the day and those of the time. -/
def IsStamp (stamp : String) : Prop :=
  ∃ day time : List Char, (∀ c ∈ day, c.isDigit = true) ∧ (∀ c ∈ time, c.isDigit = true) ∧
    stamp.toList = day ++ '_' :: time

theorem IsStamp.slash_notMem (h : IsStamp stamp) : '/' ∉ stamp.toList := by
  obtain ⟨day, time, hday, htime, h⟩ := h
  rw [h, List.mem_append, List.mem_cons]
  rintro (h | h | h)
  · exact absurd (hday _ h) (by decide)
  · exact absurd h (by decide)
  · exact absurd (htime _ h) (by decide)

theorem toList_fileName : (fileName label stamp).toList =
    (safePrefix label).toList ++ '_' :: stamp.toList ++ "_source.xml".toList := by
  simp [fileName]

theorem fileName_plain : fileName label stamp ≠ "" ∧ fileName label stamp ≠ "." ∧
    fileName label stamp ≠ ".." := by
  have hlong : 2 < (fileName label stamp).toList.length := by
    rw [toList_fileName, List.length_append]
    exact Nat.lt_of_lt_of_le (by decide) (Nat.le_add_left _ _)
  refine ⟨?_, ?_, ?_⟩ <;> (intro h; rw [h] at hlong; exact absurd hlong (by decide))

/-- The name tells the safe form of the label and the moment. -/
theorem fileName_eq_iff (h : IsStamp stamp) (h' : IsStamp stamp') :
    fileName label stamp = fileName label' stamp' ↔
      safePrefix label = safePrefix label' ∧ stamp = stamp' := by
  refine ⟨fun hname => ?_, fun ⟨hlabel, hstamp⟩ => by rw [fileName, fileName, hlabel, hstamp]⟩
  have notMem : ∀ {cs : List Char}, (∀ c ∈ cs, c.isDigit = true) → '_' ∉ cs :=
    fun hcs hmem => absurd (hcs _ hmem) (by decide)
  obtain ⟨day, time, hday, htime, hstamp⟩ := h
  obtain ⟨day', time', hday', htime', hstamp'⟩ := h'
  have hname := congrArg String.toList hname
  rw [toList_fileName, toList_fileName] at hname
  have hname := List.append_cancel_right hname
  rw [hstamp, hstamp'] at hname
  -- The time stands behind the last underscore and the day behind the one before it.
  have hsplit : ∀ a b c : List Char, a ++ '_' :: (b ++ '_' :: c) = (a ++ '_' :: b) ++ '_' :: c := by simp
  rw [hsplit, hsplit] at hname
  obtain ⟨hname, htimes⟩ := append_separator_inj (notMem htime) (notMem htime') hname
  obtain ⟨hlabel, hdays⟩ := append_separator_inj (notMem hday) (notMem hday') hname
  rw [hdays, htimes, ← hstamp'] at hstamp
  exact ⟨String.toList_inj.mp hlabel, String.toList_inj.mp hstamp⟩

/-! ## Calls -/

/-- A page that is to be kept. -/
structure Call where
  directory : Option String
  label : String
  stamp : String
  page : Option String

namespace Call

variable {c d : Call}

/-- The place for the page. -/
def place (t : FileTree) (c : Call) : Place :=
  plainNames (t.origin (c.directory.getD "")) (c.directory.getD "") ++ [fileName c.label c.stamp]

/-- Two pages are for the same file: in directories at the same place, with the same safe form of their
labels, and in the same second. -/
def SameFile (t : FileTree) (c d : Call) : Prop :=
  plainNames (t.origin (c.directory.getD "")) (c.directory.getD "") =
      plainNames (t.origin (d.directory.getD "")) (d.directory.getD "") ∧
    safePrefix c.label = safePrefix d.label ∧ c.stamp = d.stamp

instance : Decidable (SameFile t c d) := inferInstanceAs (Decidable (_ ∧ _ ∧ _))

theorem place_congr (h : u.workingDirectory = t.workingDirectory) : c.place u = c.place t := by
  rw [place, place, origin_congr h]

theorem place_eq_iff (hc : IsStamp c.stamp) (hd : IsStamp d.stamp) :
    c.place t = d.place t ↔ SameFile t c d := by
  rw [place, place, SameFile, ← fileName_eq_iff hc hd]
  constructor
  · intro h
    obtain ⟨hdirectory, hname⟩ := List.append_inj' h (by simp)
    exact ⟨hdirectory, List.singleton_inj.mp hname⟩
  · rintro ⟨hdirectory, hname⟩
    rw [hdirectory, hname]

def run (c : Call) (t : FileTree) : FileTree × Log × List (String × String) :=
  keep t c.directory c.label c.stamp c.page

/-- The tree only grows. Either nothing is kept and all files are as before, or the page is at its place,
which the path that is given names, and all other files are as before. -/
theorem run_inv (hstamp : IsStamp c.stamp) (t : FileTree) :
    Grows t (c.run t).1 ∧
      (((c.run t).2.2 = [] ∧ ∀ q, (c.run t).1.content? q = t.content? q) ∨
        ∃ path, (c.run t).2.2 = [("page_source", path)] ∧ c.page.isSome ∧
          (c.run t).1.filePlace? path = some (c.place t) ∧
          (c.run t).1.content? (c.place t) = c.page ∧
          ∀ q, q ≠ c.place t → (c.run t).1.content? q = t.content? q) := by
  obtain hnone | ⟨directory, page, hdirectory, hpage, hgiven, hgiven'⟩ :=
    keep_cases c.label c.stamp c.directory c.page
  · rw [run, hnone]
    exact ⟨.refl t, Or.inl ⟨rfl, fun _ => rfl⟩⟩
  have hmade := Grows.makeDirectories t directory
  have hsame : ∀ q, (t.makeDirectories directory).1.content? q = t.content? q :=
    content?_makeDirectories t directory
  have hsome : (some directory).filter (!·.isEmpty) = some directory := by simp [hgiven]
  have hsome' : (some page).filter (!·.isEmpty) = some page := by simp [hgiven']
  rw [run, keep, hdirectory, hpage, hsome, hsome']
  dsimp only
  cases hwritten : if (t.makeDirectories directory).2 = true then
      (t.makeDirectories directory).1.write? (join directory (fileName c.label c.stamp)) page
    else none with
  | none => exact ⟨hmade, Or.inl ⟨rfl, hsame⟩⟩
  | some u =>
      obtain ⟨-, hwritten⟩ := Option.ite_none_right_eq_some.mp hwritten
      obtain ⟨q, hq, rfl⟩ := Option.map_eq_some_iff.mp hwritten
      have hfree := not_isDirectory_filePlace? hq
      have hplace : q = c.place t := by
        rw [filePlace?_join hgiven (slash_notMem_fileName hstamp.slash_notMem) fileName_plain hq,
          origin_congr hmade.working, place, hdirectory, Option.getD_some]
      have hput := Grows.put (t.makeDirectories directory).1 q page
      subst hplace
      refine ⟨hmade.trans hput, Or.inr ⟨_, rfl, by simp, hput.filePlace? hq ?_, content?_put_self _ _ _, ?_⟩⟩
      · rwa [isDirectory_put]
      · exact fun x hx => (content?_put page hx).trans (hsame x)

end Call

/-- The path that a call was given for its page. -/
structure Receipt where
  call : Call
  path : String

/-- The tree after some calls. -/
def after (t : FileTree) : List Call → FileTree
  | [] => t
  | c :: rest => after (c.run t).1 rest

/-- The paths that some calls were given, in their order. -/
def receipts (t : FileTree) : List Call → List Receipt
  | [] => []
  | c :: rest => ((c.run t).2.2.map fun a => ⟨c, a.2⟩) ++ receipts (c.run t).1 rest

variable {calls : List Call} {r r' : Receipt}

theorem call_mem_of_mem_receipts (h : r ∈ receipts t calls) : r.call ∈ calls := by
  induction calls generalizing t with
  | nil => cases h
  | cons c rest ih =>
      rw [receipts, List.mem_append, List.mem_map] at h
      obtain ⟨_, _, rfl⟩ | h := h
      · exact List.mem_cons_self
      · exact List.mem_cons_of_mem _ (ih h)

theorem grows_after (hstamps : ∀ c ∈ calls, IsStamp c.stamp) (t : FileTree) : Grows t (after t calls) := by
  induction calls generalizing t with
  | nil => exact .refl t
  | cons c rest ih =>
      rw [List.forall_mem_cons] at hstamps
      exact (Call.run_inv hstamps.1 t).1.trans (ih hstamps.2 _)

/-- A file holds the last page that was kept in it, or what it held before. -/
theorem content?_after (hstamps : ∀ c ∈ calls, IsStamp c.stamp) (t : FileTree) (p : Place) :
    (after t calls).content? p =
      match ((receipts t calls).filter fun r => r.call.place t = p).getLast? with
      | some r => r.call.page
      | none => t.content? p := by
  induction calls generalizing t with
  | nil => rfl
  | cons c rest ih =>
      rw [List.forall_mem_cons] at hstamps
      obtain ⟨hgrows, hrun⟩ := Call.run_inv hstamps.1 t
      have hplace : ∀ d : Call, d.place (c.run t).1 = d.place t := fun d => Call.place_congr hgrows.working
      rw [after, ih hstamps.2, receipts, List.filter_append, List.getLast?_append]
      simp only [hplace]
      cases ((receipts (c.run t).1 rest).filter fun r => r.call.place t = p).getLast? with
      | some r => rfl
      | none =>
          obtain ⟨hnone, hsame⟩ | ⟨path, hpath, -, -, hcontent, hsame⟩ := hrun
          · simp [hnone, hsame]
          · by_cases hp : c.place t = p
            · simp [hpath, ← hp, hcontent]
            · simp [hpath, hp, hsame p (Ne.symm hp)]

/-- A path names the place of its page, and goes on to. -/
theorem filePlace?_of_mem_receipts (hstamps : ∀ c ∈ calls, IsStamp c.stamp) (h : r ∈ receipts t calls) :
    (after t calls).filePlace? r.path = some (r.call.place t) := by
  induction calls generalizing t with
  | nil => cases h
  | cons c rest ih =>
      rw [List.forall_mem_cons] at hstamps
      obtain ⟨hgrows, hrun⟩ := Call.run_inv hstamps.1 t
      rw [receipts, List.mem_append] at h
      obtain h | h := h
      · obtain ⟨hnone, -⟩ | ⟨path, hpath, hpage, hplace, hcontent, -⟩ := hrun
        · simp [hnone] at h
        · rw [hpath, List.map_singleton, List.mem_singleton] at h
          subst h
          have hafter := grows_after hstamps.2 (c.run t).1
          refine hafter.filePlace? hplace (hafter.file _ ?_ ?_).1
          · exact not_isDirectory_filePlace? hplace
          · rwa [hcontent]
      · rw [after, ih hstamps.2 h, Call.place_congr hgrows.working]

/-! ## Main result -/

theorem sameFile_filter (hstamps : ∀ c ∈ calls, IsStamp c.stamp) (h : r ∈ receipts t calls) :
    ((receipts t calls).filter fun q => q.call.place t = r.call.place t) =
      (receipts t calls).filter fun q => Call.SameFile t r.call q.call := by
  refine List.filter_congr fun q hq => ?_
  rw [decide_eq_decide, eq_comm]
  exact Call.place_eq_iff (hstamps _ (call_mem_of_mem_receipts h)) (hstamps _ (call_mem_of_mem_receipts hq))

end Artifact

open Artifact

/-- A path that was given for a page names, after all calls, a file that holds the last page that was kept for
the same file: in a directory at the same place, with the same safe form of its label and in the same second.
So each path still holds its own page exactly if all pages that were kept for one file are the same. -/
theorem kept_pages_stay_iff {calls : List Artifact.Call} (t : FileTree)
    (hstamps : ∀ c ∈ calls, IsStamp c.stamp) :
    (∀ r ∈ receipts t calls, ∃ last,
      ((receipts t calls).filter fun q => Call.SameFile t r.call q.call).getLast? = some last ∧
        (after t calls).read? r.path = last.call.page) ∧
    ((∀ r ∈ receipts t calls, (after t calls).read? r.path = r.call.page) ↔
      ∀ r ∈ receipts t calls, ∀ q ∈ receipts t calls, Call.SameFile t r.call q.call →
        r.call.page = q.call.page) := by
  have hlast : ∀ r ∈ receipts t calls, ∃ last,
      ((receipts t calls).filter fun q => Call.SameFile t r.call q.call).getLast? = some last ∧
        (after t calls).read? r.path = last.call.page := by
    intro r hr
    rw [FileTree.read?, filePlace?_of_mem_receipts hstamps hr, Option.bind_some, content?_after hstamps,
      sameFile_filter hstamps hr]
    cases hlast : ((receipts t calls).filter fun q => Call.SameFile t r.call q.call).getLast? with
    | some last => exact ⟨last, rfl, rfl⟩
    | none =>
        have hself : r ∉ (receipts t calls).filter fun q => Call.SameFile t r.call q.call := by
          rw [List.getLast?_eq_none_iff.mp hlast]
          exact List.not_mem_nil
        exact absurd (List.mem_filter.mpr ⟨hr, by simp [Call.SameFile]⟩) hself
  refine ⟨hlast, fun hown r hr q hq hsame => ?_, fun hpages r hr => ?_⟩
  · obtain ⟨last, hr', hread⟩ := hlast r hr
    obtain ⟨last', hq', hread'⟩ := hlast q hq
    have hplace : r.call.place t = q.call.place t :=
      (Call.place_eq_iff (hstamps _ (call_mem_of_mem_receipts hr))
        (hstamps _ (call_mem_of_mem_receipts hq))).mpr hsame
    rw [← sameFile_filter hstamps hr, hplace, sameFile_filter hstamps hq, hq'] at hr'
    cases hr'
    rw [← hown r hr, ← hown q hq, hread, hread']
  · obtain ⟨last, hr', hread⟩ := hlast r hr
    obtain ⟨hmem, hsame⟩ := List.mem_filter.mp (List.mem_of_getLast? hr')
    rw [hread, hpages r hr last hmem (by simpa using hsame)]

namespace Artifact

/-- The page of a search that failed. -/
def loginPage : Call :=
  { directory := some "pages", label := "element_Log in", stamp := "20240102_030405", page := some "<Login/>" }

/-- The page of another search in the same second. -/
def signInPage : Call :=
  { directory := some "./pages", label := "element_Log/in", stamp := "20240102_030405", page := some "<SignIn/>" }

theorem isStamp_loginPage : IsStamp "20240102_030405" :=
  ⟨"20240102".toList, "030405".toList, List.all_eq_true.mp (by decide), List.all_eq_true.mp (by decide),
    by decide⟩

end Artifact

/-- A second later the other search has a file of its own. -/
theorem kept_pages_stay_iff_second_later :
    let calls := [loginPage, { signInPage with stamp := "20240102_030406" }]
    (∀ c ∈ calls, IsStamp c.stamp) ∧ (receipts {} calls).length = 2 ∧
      ∀ r ∈ receipts {} calls, (after {} calls).read? r.path = r.call.page := by
  intro calls
  have hlater : IsStamp "20240102_030406" :=
    ⟨"20240102".toList, "030406".toList, List.all_eq_true.mp (by decide), List.all_eq_true.mp (by decide),
      by decide⟩
  have hstamps : ∀ c ∈ calls, IsStamp c.stamp := by
    simp [calls, loginPage, isStamp_loginPage, hlater]
  exact ⟨hstamps, by decide +kernel, (kept_pages_stay_iff {} hstamps).2.mpr (by decide +kernel)⟩

/-- In the same second both searches keep their pages in one file, which holds the second one only. -/
theorem kept_page_is_overwritten :
    let calls := [loginPage, signInPage]
    ((receipts {} calls).map fun r => (r.path, r.call.page, (after {} calls).read? r.path)) =
        [("pages/element_Log_in_20240102_030405_source.xml", some "<Login/>", some "<SignIn/>"),
          ("./pages/element_Log_in_20240102_030405_source.xml", some "<SignIn/>", some "<SignIn/>")] ∧
      ¬∀ r ∈ receipts {} calls, (after {} calls).read? r.path = r.call.page := by
  decide +kernel

end ElementFinder

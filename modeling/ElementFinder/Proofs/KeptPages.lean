import ElementFinder.Files.Artifact
import ElementFinder.Proofs.FileTrees
import ElementFinder.Report.Timing
import Mathlib.Logic.Relation

/-!
# Pages that are kept beside the timing log

A page is kept in a directory, and lines go to the file of the timing log. If this file is neither on the
way to the directory nor further inside, then its lines make no difference to the pages that can be kept.
-/

namespace ElementFinder

namespace FileTree

variable {t u : FileTree} {p q x : Place}

/-! ## What stays -/

/-- All but a file at one place, and all but some directories, have stayed as they were. -/
structure AlikeBut (file : Place) (made : List Place) (t u : FileTree) : Prop where
  working : u.workingDirectory = t.workingDirectory
  content : ∀ q, q ≠ file → u.content? q = t.content? q
  directory : ∀ q, q ∉ made → u.isDirectory q = t.isDirectory q

namespace AlikeBut

variable {file : Place} {made : List Place} {v : FileTree}

protected theorem refl (t : FileTree) : AlikeBut file made t t := ⟨rfl, fun _ _ => rfl, fun _ _ => rfl⟩

protected theorem trans (h : AlikeBut file made t u) (h' : AlikeBut file made u v) : AlikeBut file made t v :=
  ⟨h'.working.trans h.working, fun q hq => (h'.content q hq).trans (h.content q hq),
    fun q hq => (h'.directory q hq).trans (h.directory q hq)⟩

protected theorem makeDirectories (t : FileTree) (file : Place) (path : String) :
    AlikeBut file (passed (t.origin path) (names path)) t (t.makeDirectories path).1 := by
  by_cases hlong : pathLimit ≤ path.utf8ByteSize
  · rw [makeDirectories, if_pos hlong]
    exact .refl t
  · have hframe := makeAll_frame t (t.origin path) (names path)
    rw [makeDirectories_eq hlong]
    refine ⟨(hframe []).1, fun q _ => ?_, fun q => (hframe q).2.2⟩
    rw [content?, content?, (hframe []).2.1]

protected theorem append? {path line : String} (h : t.append? path line = some u) :
    AlikeBut (plainNames (t.origin path) path) made t u := by
  obtain ⟨q, hq, rfl⟩ := Option.map_eq_some_iff.mp h
  rw [plainNames_eq, ← filePlace?_lands hq]
  exact ⟨workingDirectory_put _, fun x hx => content?_put _ hx, fun x _ => isDirectory_put _⟩

end AlikeBut

end FileTree

/-! ## Pages -/

namespace Artifact

open FileTree

variable {t u : FileTree} {directory label stamp page : String}

theorem isSafe_of_mem_squeezed {c : Char} {cs : List Char} (h : c ∈ squeezed cs) : isSafe c = true := by
  fun_induction squeezed cs with
  | case1 => cases h
  | case2 d rest hd ih =>
      obtain rfl | h := List.mem_cons.mp h
      · exact hd
      · exact ih h
  | case3 _ _ d rest _ ih =>
      obtain rfl | h := List.mem_cons.mp h
      · decide
      · exact ih h
  | case4 _ _ d rest _ ih => exact ih h
  | case5 =>
      obtain rfl := List.mem_singleton.mp h
      decide

/-- The safe form of a prefix has safe characters only. -/
theorem isSafe_of_mem_safePrefix {c : Char} (h : c ∈ (safePrefix label).toList) : isSafe c = true := by
  rw [safePrefix] at h
  split at h
  · exact List.all_eq_true.mp (by decide : "element".toList.all isSafe = true) c h
  · rw [String.toList_ofList] at h
    have h := List.mem_of_mem_take h
    rw [Text.trimOf, Text.trimEndOf, List.mem_reverse] at h
    have h := List.mem_reverse.mp ((List.dropWhile_sublist _).subset h)
    exact isSafe_of_mem_squeezed ((List.dropWhile_sublist _).subset h)

/-- The name of a page that is kept has no slash. -/
theorem slash_notMem_fileName (hstamp : '/' ∉ stamp.toList) : '/' ∉ (fileName label stamp).toList := by
  have hgiven : '/' ∉ (safePrefix label).toList := fun h =>
    absurd (isSafe_of_mem_safePrefix h) (by decide)
  rw [fileName]
  simp only [String.toList_append, List.mem_append, not_or]
  exact ⟨⟨⟨hgiven, by decide⟩, hstamp⟩, by decide⟩

theorem keep_of_no_directory {directory page : Option String} (h : directory.filter (!·.isEmpty) = none) :
    keep t directory label stamp page = (t, [], []) := by
  rw [keep, h]

/-- Nothing is kept, or it is a page with a text in a directory with a name. -/
theorem keep_cases (label stamp : String) (directory page : Option String) :
    (∀ t, keep t directory label stamp page = (t, [], [])) ∨
      ∃ d text, directory = some d ∧ page = some text ∧ d.isEmpty = false ∧ text.isEmpty = false := by
  cases hdirectory : directory.filter (!·.isEmpty) with
  | none => exact Or.inl fun t => keep_of_no_directory hdirectory
  | some d =>
      cases hpage : page.filter (!·.isEmpty) with
      | none => exact Or.inl fun t => by rw [keep, hdirectory, hpage]
      | some text =>
          obtain ⟨hd, hd'⟩ := Option.filter_eq_some_iff.mp hdirectory
          obtain ⟨htext, htext'⟩ := Option.filter_eq_some_iff.mp hpage
          exact Or.inr ⟨d, text, hd, htext, by simpa using hd', by simpa using htext'⟩

theorem keep_paths (hdirectory : directory.isEmpty = false) (hpage : page.isEmpty = false) :
    (keep t (some directory) label stamp (some page)).2.2 =
      if (t.makeDirectories directory).2 = true ∧
        ((t.makeDirectories directory).1.filePlace?
          (join directory (fileName label stamp))).isSome then
        [("page_source", join directory (fileName label stamp))] else [] := by
  have hsome : (some directory).filter (!·.isEmpty) = some directory := by simp [hdirectory]
  have hpage : (some page).filter (!·.isEmpty) = some page := by simp [hpage]
  rw [keep, hsome, hpage]
  dsimp only
  cases (t.makeDirectories directory).2 with
  | false => rfl
  | true =>
      simp only [↓reduceIte, true_and, write?]
      cases (t.makeDirectories directory).1.filePlace? (join directory (fileName label stamp)) <;>
        rfl

/-- What is kept in a directory hangs on the files on the way there, and on directories right inside. -/
theorem keep_paths_congr (hworking : u.workingDirectory = t.workingDirectory)
    (hfiles : ∀ q ∈ passed (t.origin directory) (names directory),
      (t.content? q).isSome = (u.content? q).isSome)
    (hinside : ∀ q, parent q = plainNames (t.origin directory) directory →
      t.isDirectory q = u.isDirectory q)
    (hdirectory : directory.isEmpty = false) (hpage : page.isEmpty = false)
    (hstamp : '/' ∉ stamp.toList) :
    (keep t (some directory) label stamp (some page)).2.2 =
      (keep u (some directory) label stamp (some page)).2.2 := by
  have horigin : u.origin directory = t.origin directory := by
    rw [origin, origin, hworking]
  have hfile : '/' ∉ (fileName label stamp).toList := slash_notMem_fileName hstamp
  have hmakes := fun q => makeDirectories_congr (x := q) horigin hfiles
  have hmade := (hmakes [] rfl).1
  rw [keep_paths hdirectory hpage, keep_paths hdirectory hpage]
  cases ht : (t.makeDirectories directory).2 with
  | false => simp [← hmade, ht]
  | true =>
      have hu := hmade.symm.trans ht
      have hplace : ((t.makeDirectories directory).1.filePlace?
          (join directory (fileName label stamp))).isSome =
          ((u.makeDirectories directory).1.filePlace?
            (join directory (fileName label stamp))).isSome := by
        rw [filePlace?_makeDirectories hdirectory hfile ht,
          filePlace?_makeDirectories hdirectory hfile hu, horigin]
        split
        · rfl
        · cases hq : follow {} (plainNames (t.origin directory) directory)
              [fileName label stamp] with
          | none => rfl
          | some q =>
              obtain ⟨-, hsame⟩ := hmakes q (hinside q (parent_of_follow hq))
              rw [Option.filter_some, Option.filter_some, hsame]
      rw [hu, hplace]

end Artifact

/-! ## Lines of the timing log -/

namespace TimingLog

open FileTree

variable {log : TimingLog} {files t u : FileTree} {directory path : String} {stamp : String}

/-- The files after one more line. -/
def written (log : TimingLog) (line : String) (files : FileTree) : FileTree :=
  (log.write line false files).1

theorem write_fst (line : String) (isError : Bool) :
    (log.write line isError files).1 = log.written line files := by
  rw [written, write, write]
  cases log.path.filter (!·.isEmpty) <;> rfl

/-- Lines of the timing log lead from some files to others. -/
abbrev Leads (log : TimingLog) : FileTree → FileTree → Prop :=
  Relation.ReflTransGen fun a b => ∃ line, b = log.written line a

/-- Lines of the timing log make no difference to the pages that can be kept in a directory. -/
def SparesArtifacts (log : TimingLog) (files : FileTree) (directory : Option String) (stamp : String) :
    Prop :=
  ∀ after label page, log.Leads files after →
    (Artifact.keep after directory label stamp page).2.2 =
      (Artifact.keep files directory label stamp page).2.2

theorem sparesArtifacts_of_no_path {directory : Option String}
    (h : log.path.filter (!·.isEmpty) = none) : log.SparesArtifacts files directory stamp := by
  intro after label page hafter
  have hsame : after = files := by
    induction hafter with
    | refl => rfl
    | tail _ hstep ih =>
        obtain ⟨line, rfl⟩ := hstep
        rw [written, write, h]
        exact ih
  rw [hsame]

theorem sparesArtifacts_of_no_directory {directory : Option String}
    (h : directory.filter (!·.isEmpty) = none) : log.SparesArtifacts files directory stamp := by
  intro after label page _
  rw [Artifact.keep_of_no_directory h, Artifact.keep_of_no_directory h]

/-- A line is added to its file once the directories on the way are made, or it cannot be written. -/
theorem appendLine_cases (path line : String) (files : FileTree) :
    appendLine path line files = ((files.makeDirectories (files.directoryOf path)).1, [notWritten path]) ∨
      ∃ after, (files.makeDirectories (files.directoryOf path)).1.append? path (line ++ "\n") = some after ∧
        appendLine path line files = (after, []) := by
  rw [appendLine]
  dsimp only
  cases happend : if (files.makeDirectories (files.directoryOf path)).2 = true then
      (files.makeDirectories (files.directoryOf path)).1.append? path (line ++ "\n") else none with
  | none => exact Or.inl rfl
  | some after => exact Or.inr ⟨after, (Option.ite_none_right_eq_some.mp happend).2, rfl⟩

/-- A line leaves all but the file of the log and the directories on the way as it was. -/
theorem written_alikeBut (hpath : log.path = some path) (line : String) (files : FileTree) :
    AlikeBut (plainNames (files.origin path) path) (passed [] (names (files.directoryOf path))) files
      (log.written line files) := by
  have horigin : files.origin (files.directoryOf path) = [] := by
    rw [origin, directoryOf, isAbsolute_append (by decide)]
    rfl
  have hdirectories := AlikeBut.makeDirectories files (plainNames (files.origin path) path)
    (files.directoryOf path)
  rw [horigin] at hdirectories
  rw [written, write, hpath, Option.filter_some]
  split
  · exact .refl files
  · next hsome =>
    split at hsome
    · cases hsome
      obtain hfailed | ⟨after, happend, hdone⟩ := appendLine_cases path line files
      · rw [hfailed]
        exact hdirectories
      · have hput : AlikeBut _ (passed [] (names (files.directoryOf path))) _ after :=
          AlikeBut.append? happend
        rw [origin_congr hdirectories.working] at hput
        rw [hdone]
        exact hdirectories.trans hput
    · cases hsome

/-- The file of a log lies apart from a directory: it is neither on the way there nor further inside. -/
def Apart (files : FileTree) (path directory : String) : Prop :=
  plainNames (files.origin path) path ∉ passed (files.origin directory) (names directory) ∧
    ∀ q ∈ passed [] (names (files.directoryOf path)),
      parent q ≠ plainNames (files.origin directory) directory

instance : Decidable (Apart files path directory) := inferInstanceAs (Decidable (_ ∧ _))

theorem sparesArtifacts_of_apart (hpath : log.path = some path) (hstamp : '/' ∉ stamp.toList)
    (h : Apart files path directory) : log.SparesArtifacts files (some directory) stamp := by
  intro after label page hafter
  have halike : AlikeBut (plainNames (files.origin path) path)
      (passed [] (names (files.directoryOf path))) files after := by
    induction hafter with
    | refl => exact .refl files
    | @tail before _ _ hstep ih =>
        obtain ⟨line, rfl⟩ := hstep
        refine ih.trans ?_
        have hstep := written_alikeBut hpath line before
        rw [directoryOf, origin_congr ih.working, ← directoryOf] at hstep
        exact hstep
  obtain hnone | ⟨d, text, hd, rfl, hdirectory, hpage⟩ :=
    Artifact.keep_cases label stamp (some directory) page
  · rw [hnone, hnone]
  · cases hd
    refine (Artifact.keep_paths_congr halike.working (fun q hq => ?_) (fun q hq => ?_) hdirectory
      hpage hstamp).symm
    · have hne : q ≠ plainNames (files.origin path) path := fun h' => h.1 (h' ▸ hq)
      rw [halike.content q hne]
    · exact (halike.directory q fun hmade => h.2 q hmade hq).symm

/-- The file of a log is not in the way of a directory: there is no file, or no directory, or they lie apart. -/
def Clears (log : TimingLog) (files : FileTree) (directory : Option String) : Prop :=
  log.path.filter (!·.isEmpty) = none ∨ directory.filter (!·.isEmpty) = none ∨
    ∃ path d, log.path = some path ∧ directory = some d ∧ Apart files path d

theorem Clears.sparesArtifacts {directory : Option String} (h : log.Clears files directory)
    (hstamp : '/' ∉ stamp.toList) : log.SparesArtifacts files directory stamp := by
  obtain hpath | hdirectory | ⟨path, d, hpath, rfl, hapart⟩ := h
  · exact sparesArtifacts_of_no_path hpath
  · exact sparesArtifacts_of_no_directory hdirectory
  · exact sparesArtifacts_of_apart hpath hstamp hapart

end TimingLog

end ElementFinder

import ElementFinder.Proofs.OverwrittenPages

/-!
# Files of kept pages

A page goes to one file right inside its directory, or to none, whatever its label is made of. The path of the
file is given exactly if all of the page was written, also on a disk that fails at any point.
-/

namespace ElementFinder

namespace FileTree

variable {t : FileTree} {directory file : String}

/-- Nothing is in the way of a file in a directory: its path and all names in it are short enough, no file is on
the way to the directory, and no directory is in the place of the file, nor is one made there on the way. -/
structure HasRoom (t : FileTree) (directory file : String) : Prop where
  path : (join directory file).utf8ByteSize < pathLimit
  names : ∀ name ∈ FileTree.names directory ++ [file], name.utf8ByteSize ≤ nameLimit
  way : ∀ q ∈ passed (t.origin directory) (FileTree.names directory), t.content? q = none
  place : t.isDirectory (plainNames (t.origin directory) directory ++ [file]) = false
  unmade : plainNames (t.origin directory) directory ++ [file] ∉
    passed (t.origin directory) (FileTree.names directory)

theorem utf8ByteSize_le_join (hfile : '/' ∉ file.toList) :
    directory.utf8ByteSize ≤ (join directory file).utf8ByteSize := by
  rw [join, isAbsolute_of_plain hfile]
  simp only [Bool.false_eq_true, ↓reduceIte]
  split <;> simp only [String.utf8ByteSize_append] <;> omega

theorem follow_plain {p : Place} (hplain : file ≠ "" ∧ file ≠ "." ∧ file ≠ "..") :
    t.follow p [file] = if nameLimit < file.utf8ByteSize then none else some (p ++ [file]) := by
  simp [follow, hplain]

/-- A file can be written in a directory exactly if there is room for it. -/
theorem hasRoom_iff (hdirectory : directory.isEmpty = false) (hfile : '/' ∉ file.toList)
    (hplain : file ≠ "" ∧ file ≠ "." ∧ file ≠ "..") :
    ((t.makeDirectories directory).2 = true ∧
      ((t.makeDirectories directory).1.filePlace? (join directory file)).isSome) ↔
        t.HasRoom directory file := by
  have hsize : directory.utf8ByteSize ≤ (join directory file).utf8ByteSize := utf8ByteSize_le_join hfile
  constructor
  · rintro ⟨hmade, hplace⟩
    -- Once the directory is made, the file is at its place, or the path, the name or a directory there is too much.
    rw [filePlace?_makeDirectories hdirectory hfile hmade] at hplace
    split at hplace
    · cases hplace
    next hpath =>
    rw [follow_plain hplain] at hplace
    split at hplace
    · cases hplace
    next hname =>
    have hshort := not_pathLimit_le hmade
    rw [makeDirectories_eq hshort] at hmade hplace
    obtain ⟨hway, hnames⟩ := makeAll_isSome_iff.mp hmade
    have hfree : t.isDirectory (plainNames (t.origin directory) directory ++ [file]) = false ∧
        plainNames (t.origin directory) directory ++ [file] ∉
          passed (t.origin directory) (FileTree.names directory) := by
      simpa [Option.isSome_filter, isDirectory_makeAll_eq hmade] using hplace
    refine ⟨Nat.lt_of_not_le hpath, ?_, hway, hfree.1, hfree.2⟩
    simpa [or_imp, forall_and, Nat.not_lt.mp hname] using hnames
  · rintro ⟨hpath, hnames, hway, hfree, hunmade⟩
    rw [List.forall_mem_append] at hnames
    have hshort : ¬pathLimit ≤ directory.utf8ByteSize := by omega
    have hmade : (t.makeDirectories directory).2 = true := by
      rw [makeDirectories_eq hshort]
      exact makeAll_isSome_iff.mpr ⟨hway, hnames.1⟩
    refine ⟨hmade, ?_⟩
    rw [filePlace?_makeDirectories hdirectory hfile hmade, if_neg (Nat.not_le.mpr hpath), follow_plain hplain,
      if_neg (Nat.not_lt.mpr (hnames.2 file List.mem_cons_self))]
    rw [makeDirectories_eq hshort] at hmade ⊢
    simp [isDirectory_makeAll_eq hmade, hfree, hunmade]

end FileTree

namespace Artifact

open FileTree

variable {t : FileTree} {directory label stamp page file : String}

/-! ## Names -/

/-- A name that is safe on any disk: up to 80 letters, digits, underscores, dots and hyphens. -/
structure IsSafeName (name : String) : Prop where
  nonempty : name ≠ ""
  short : name.length ≤ 80
  plain : ∀ c ∈ name.toList, c.isAlphanum = true ∨ c = '_' ∨ c = '.' ∨ c = '-'

theorem isSafe_iff {c : Char} : isSafe c = true ↔ c.isAlphanum = true ∨ c = '_' ∨ c = '.' ∨ c = '-' := by
  simp [isSafe, or_assoc]

theorem isSafeName_safePrefix (label : String) : IsSafeName (safePrefix label) := by
  refine ⟨?_, ?_, fun c hc => isSafe_iff.mp (isSafe_of_mem_safePrefix hc)⟩
  · rw [safePrefix]
    split
    · decide
    · next hsome => simpa using hsome
  · rw [safePrefix]
    split
    · decide
    · rw [String.length_ofList]
      exact List.length_take_le _ _

/-! ## Disks that fail -/

/-- A disk, which can fail at any point; it tells what it has done, and if that was all. Making directories
changes no file. Writing changes no file but the one that the path names, which then holds the whole text if the
disk did not fail. -/
structure Disk where
  make : FileTree → String → FileTree × Bool
  write : FileTree → String → String → FileTree × Bool
  working_make : ∀ t path, (make t path).1.workingDirectory = t.workingDirectory
  content?_make : ∀ t path q, (make t path).1.content? q = t.content? q
  working_write : ∀ t path text, (write t path text).1.workingDirectory = t.workingDirectory
  content?_write : ∀ t path text q, t.filePlace? path ≠ some q →
    (write t path text).1.content? q = t.content? q
  read?_write : ∀ t path text, (write t path text).2 = true → (write t path text).1.read? path = some text

namespace Disk

variable {disk : Disk}

/-- Keeps a page in a directory of the disk, if there is one, and gives the paths of what was written. -/
def keep (disk : Disk) (t : FileTree) (directory : Option String) (given stamp : String)
    (page : Option String) : FileTree × Log × List (String × String) :=
  match directory.filter (!·.isEmpty), page.filter (!·.isEmpty) with
  | some directory, some page =>
    let path := FileTree.join directory (fileName given stamp)
    let (t, made) := disk.make t directory
    let (t, written) := if made then disk.write t path page else (t, false)
    if written then (t, [], [("page_source", path)]) else (t, [notWritten path], [])
  | _, _ => (t, [], [])

/-- The disk makes a directory and writes the whole of a file in it. -/
def Manages (disk : Disk) (t : FileTree) (directory file page : String) : Prop :=
  (disk.make t directory).2 = true ∧
    (disk.write (disk.make t directory).1 (join directory file) page).2 = true

/-- The part of a text that there is room for. -/
def fitting (room : Option Nat) (text : String) : String :=
  match room with
  | none => text
  | some n => String.ofList (text.toList.take n)

/-- The disk that fails where the tree has no room, or behind the characters of a text that it has room for. -/
def limited (room : Option Nat) : Disk where
  make := makeDirectories
  write t path text := ((t.write? path (fitting room text)).getD t,
    (t.write? path (fitting room text)).isSome && decide (fitting room text = text))
  working_make t path := (Grows.makeDirectories t path).working
  content?_make := content?_makeDirectories
  working_write t path text := by
    rw [write?]
    cases t.filePlace? path with
    | none => rfl
    | some q => exact workingDirectory_put _
  content?_write t path text q hq := by
    rw [write?]
    cases hp : t.filePlace? path with
    | none => rfl
    | some p =>
        refine content?_put _ ?_
        rintro rfl
        exact hq hp
  read?_write t path text h := by
    obtain ⟨hwritten, hfits⟩ := Bool.and_eq_true_iff.mp h
    rw [of_decide_eq_true hfits] at hwritten ⊢
    obtain ⟨u, hu⟩ := Option.isSome_iff_exists.mp hwritten
    obtain ⟨p, hp, rfl⟩ := Option.map_eq_some_iff.mp hu
    have hstays := (Grows.put t p text).filePlace? hp
      (by rw [isDirectory_put, not_isDirectory_filePlace? hp])
    rw [hu, Option.getD_some, read?, hstays, Option.bind_some, content?_put_self]

/-- A disk without a limit is what pages are kept on. -/
theorem keep_limited_none : (limited none).keep = Artifact.keep := by
  funext t directory given stamp page
  rw [keep, Artifact.keep]
  cases directory.filter (!·.isEmpty) with
  | none => rfl
  | some directory =>
      cases page.filter (!·.isEmpty) with
      | none => rfl
      | some page =>
          dsimp only [limited, fitting]
          cases (t.makeDirectories directory).2 with
          | false => rfl
          | true =>
              simp only [↓reduceIte, decide_true, Bool.and_true]
              cases (t.makeDirectories directory).1.write? (join directory (fileName given stamp)) page <;> rfl

theorem limited_none_manages_iff (hdirectory : directory.isEmpty = false) (hfile : '/' ∉ file.toList)
    (hplain : file ≠ "" ∧ file ≠ "." ∧ file ≠ "..") :
    (limited none).Manages t directory file page ↔ t.HasRoom directory file := by
  rw [← hasRoom_iff hdirectory hfile hplain, Manages, limited]
  simp only [fitting, decide_true, Bool.and_true, write?, Option.isSome_map]

end Disk

/-! ## Main result -/

/-- What the keeping of a page has come to: all files are as before, but for one right inside the directory, and
either the path of this file is given, and it holds the page, or no path is given. -/
structure StaysInside (t : FileTree) (directory file page : String) (manages : Prop)
    (outcome : FileTree × Log × List (String × String)) : Prop where
  others : ∀ q, q ≠ plainNames (t.origin directory) directory ++ [file] →
    outcome.1.content? q = t.content? q
  paths : (manages ∧ outcome.2 = ([], [("page_source", join directory file)]) ∧
      outcome.1.directoryPlace? directory = some (plainNames (t.origin directory) directory) ∧
      outcome.1.filePlace? (join directory file) =
        some (plainNames (t.origin directory) directory ++ [file]) ∧
      outcome.1.read? (join directory file) = some page) ∨
    (¬manages ∧ outcome.2 = ([notWritten (join directory file)], []))

theorem Disk.staysInside (disk : Disk) (t : FileTree) (label : String) (hstamp : IsStamp stamp)
    (hdirectory : directory.isEmpty = false) (hpage : page.isEmpty = false) :
    StaysInside t directory (fileName label stamp) page
      (disk.Manages t directory (fileName label stamp) page)
      (disk.keep t (some directory) label stamp (some page)) := by
  have hfile : '/' ∉ (fileName label stamp).toList := slash_notMem_fileName hstamp.slash_notMem
  have hsome : (some directory).filter (!·.isEmpty) = some directory := by simp [hdirectory]
  have hsome' : (some page).filter (!·.isEmpty) = some page := by simp [hpage]
  have horigin : (disk.make t directory).1.origin directory = t.origin directory :=
    origin_congr (disk.working_make t directory)
  rw [Disk.keep, hsome, hsome']
  dsimp only
  cases hmade : (disk.make t directory).2 with
  | false =>
      refine ⟨fun q _ => disk.content?_make t directory q, Or.inr ⟨?_, rfl⟩⟩
      rintro ⟨hmakes, -⟩
      rw [hmade] at hmakes
      cases hmakes
  | true =>
      rw [if_pos rfl]
      have hothers : ∀ q, q ≠ plainNames (t.origin directory) directory ++ [fileName label stamp] →
          (disk.write (disk.make t directory).1 (join directory (fileName label stamp)) page).1.content? q =
            t.content? q := by
        intro q hq
        rw [disk.content?_write, disk.content?_make]
        intro hplace
        rw [filePlace?_join hdirectory hfile fileName_plain hplace, horigin] at hq
        exact hq rfl
      cases hwritten : (disk.write (disk.make t directory).1 (join directory (fileName label stamp)) page).2 with
      | false =>
          refine ⟨hothers, Or.inr ⟨?_, rfl⟩⟩
          rintro ⟨-, hwrites⟩
          rw [hwritten] at hwrites
          cases hwrites
      | true =>
          -- What was written is read through the directories that are there now, so they lead to the file.
          have hread := disk.read?_write _ _ _ hwritten
          obtain ⟨q, hplace, -⟩ := Option.bind_eq_some_iff.mp hread
          have hq := filePlace?_join hdirectory hfile fileName_plain hplace
          rw [origin_congr (disk.working_write _ _ _), horigin] at hq
          subst hq
          refine ⟨hothers, Or.inl ⟨⟨hmade, hwritten⟩, rfl, ?_, hplace, hread⟩⟩
          have hfound := directoryPlace?_of_filePlace? hdirectory hfile hplace
          rwa [parent, List.dropLast_concat] at hfound

end Artifact

open Artifact

/-- The file of a page has a safe name with the moment behind it, whatever its label is made of. Keeping the page
changes at most this file, right inside the directory. The path of the file is given if there is room for it, and
then it holds the page; else no path is given. On a disk that fails at any point it is the same, with the path
given exactly if the disk has written all of the page. -/
theorem page_stays_in_its_directory {directory stamp page : String} (t : FileTree) (label : String)
    (hstamp : IsStamp stamp) (hdirectory : directory.isEmpty = false) (hpage : page.isEmpty = false) :
    (∃ name, IsSafeName name ∧ fileName label stamp = name ++ "_" ++ stamp ++ "_source.xml") ∧
    StaysInside t directory (fileName label stamp) page (t.HasRoom directory (fileName label stamp))
      (keep t (some directory) label stamp (some page)) ∧
    (Disk.limited none).keep = keep ∧
    ∀ disk : Disk, StaysInside t directory (fileName label stamp) page
      (disk.Manages t directory (fileName label stamp) page)
      (disk.keep t (some directory) label stamp (some page)) := by
  have hfile : '/' ∉ (fileName label stamp).toList := slash_notMem_fileName hstamp.slash_notMem
  have hkept := (Disk.limited none).staysInside t label hstamp hdirectory hpage
  rw [Disk.keep_limited_none, propext (Disk.limited_none_manages_iff hdirectory hfile fileName_plain)] at hkept
  exact ⟨⟨safePrefix label, isSafeName_safePrefix label, rfl⟩, hkept, Disk.keep_limited_none,
    fun disk => disk.staysInside t label hstamp hdirectory hpage⟩

/-- A label that looks like a way out of the directory leads to a file inside. A disk with room for three characters
keeps them in this file and gives no path. -/
theorem page_stays_in_its_directory_climbing :
    let label := "element_../../etc/passwd"
    let stamp := "20240102_030405"
    let file := "element_.._.._etc_passwd_20240102_030405_source.xml"
    let kept := keep {} (some "pages") label stamp (some "<Login/>")
    let cut := (Disk.limited (some 3)).keep {} (some "pages") label stamp (some "<Login/>")
    IsStamp stamp ∧ "pages".isEmpty = false ∧ "<Login/>".isEmpty = false ∧
      kept.2.2 = [("page_source", "pages/" ++ file)] ∧ kept.1.content? ["pages", file] = some "<Login/>" ∧
      cut.2.2 = [] ∧ cut.1.content? ["pages", file] = some "<Lo" ∧
      ∀ q, q ≠ ["pages", file] → kept.1.content? q = none ∧ cut.1.content? q = none := by
  intro label stamp file kept cut
  obtain ⟨-, hkept, -, hdisk⟩ :=
    @page_stays_in_its_directory "pages" stamp "<Login/>" {} label isStamp_loginPage rfl rfl
  have hplace : FileTree.plainNames (FileTree.origin {} "pages") "pages" ++ [fileName label stamp] =
      ["pages", file] := by
    decide +kernel
  have hwhole : kept = (⟨[], [["pages"]], [(["pages", file], "<Login/>")]⟩, [],
      [("page_source", "pages/" ++ file)]) := by
    decide +kernel
  have hpart : cut = (⟨[], [["pages"]], [(["pages", file], "<Lo")]⟩, [notWritten ("pages/" ++ file)], []) := by
    decide +kernel
  have hfound : ∀ text, FileTree.content? ⟨[], [["pages"]], [(["pages", file], text)]⟩ ["pages", file] =
      some text := by
    simp [FileTree.content?]
  refine ⟨isStamp_loginPage, rfl, rfl, ?_, ?_, ?_, ?_, fun q hq => ?_⟩
  · rw [hwhole]
  · rw [hwhole, hfound]
  · rw [hpart]
  · rw [hpart, hfound]
  · rw [← hplace] at hq
    exact ⟨hkept.others q hq, (hdisk (Disk.limited (some 3))).others q hq⟩

end ElementFinder

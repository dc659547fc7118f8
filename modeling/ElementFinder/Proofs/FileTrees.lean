import ElementFinder.Files.Basic

/-!
# Ways through a file tree

Where a path leads, and what making directories and writing files leave as it was.
-/

namespace ElementFinder

/-! ## Names -/

namespace Text

theorem splitAt_ne_nil (sep : Char) (cs : List Char) : splitAt sep cs ≠ [] := by
  induction cs with
  | nil => nofun
  | cons c cs ih =>
      rw [splitAt]
      split
      · nofun
      · split <;> nofun

theorem splitAt_append (sep : Char) (a b : List Char) :
    splitAt sep (a ++ sep :: b) = splitAt sep a ++ splitAt sep b := by
  induction a with
  | nil => simp [splitAt]
  | cons c a ih =>
      rw [List.cons_append, splitAt, splitAt, ih]
      split
      · rfl
      · cases ha : splitAt sep a with
        | nil => exact absurd ha (splitAt_ne_nil sep a)
        | cons piece more => rfl

theorem splitAt_of_notMem {sep : Char} {cs : List Char} (h : sep ∉ cs) : splitAt sep cs = [cs] := by
  induction cs with
  | nil => rfl
  | cons c cs ih =>
      simp only [List.mem_cons, not_or] at h
      rw [splitAt, if_neg (Ne.symm h.1), ih h.2]

end Text

namespace FileTree

variable {t u : FileTree} {p q x : Place} {ns : List String} {name file path directory : String}

theorem isAbsolute_of_plain (hfile : '/' ∉ file.toList) : isAbsolute file = false := by
  rw [isAbsolute, beq_eq_false_iff_ne]
  exact fun h => hfile (List.mem_of_head? h)

/-- The names of a file in a directory: those of the directory, which may end with an empty one, and its
own. -/
theorem names_join (hdirectory : directory.isEmpty = false) (hfile : '/' ∉ file.toList) :
    ∃ ns, names (join directory file) = ns ++ [file] ∧
      (names directory = ns ∨ names directory = ns ++ [""]) := by
  have hsplit : ∀ a : List Char, Text.splitAt '/' (a ++ '/' :: file.toList) =
      Text.splitAt '/' a ++ [file.toList] := fun a => by
    rw [Text.splitAt_append, Text.splitAt_of_notMem hfile]
  rw [join, isAbsolute_of_plain hfile, hdirectory]
  by_cases hend : directory.toList.getLast? = some '/'
  · obtain ⟨a, ha⟩ := List.getLast?_eq_some_iff.mp hend
    refine ⟨(Text.splitAt '/' a).map String.ofList, ?_, Or.inr ?_⟩
    · have htext : (directory ++ file).toList = a ++ '/' :: file.toList := by
        simp [ha]
      simp [names, hend, htext, hsplit]
    · simp [names, ha, Text.splitAt_append, Text.splitAt]
  · refine ⟨names directory, ?_, Or.inl rfl⟩
    have htext : (directory ++ "/" ++ file).toList = directory.toList ++ '/' :: file.toList := by
      simp
    simp [names, hend, htext, hsplit]

/-! ## Ways -/

/-- The place that one name leads to. -/
def step (p : Place) (name : String) : Place :=
  if name = "" ∨ name = "." then p else if name = ".." then parent p else p ++ [name]

theorem plainNames_eq (p : Place) (path : String) : plainNames p path = (names path).foldl step p := rfl

theorem origin_congr (h : u.workingDirectory = t.workingDirectory) : u.origin path = t.origin path := by
  rw [origin, origin, h]

/-- The places that names lead through. -/
def passed (p : Place) : List String → List Place
  | [] => []
  | name :: rest =>
    if name = "" ∨ name = "." then passed p rest
    else if name = ".." then passed (parent p) rest
    else (p ++ [name]) :: passed (p ++ [name]) rest

/-- The tree with a directory at a place. -/
def withDirectory (t : FileTree) (q : Place) : FileTree :=
  if t.isDirectory q then t else { t with directories := t.directories ++ [q] }

theorem isDirectory_withDirectory :
    (t.withDirectory q).isDirectory x = (t.isDirectory x || decide (x = q)) := by
  rw [withDirectory]
  split
  · next hq =>
    by_cases hx : x = q <;> simp [hx, hq]
  · simp [isDirectory, Bool.or_assoc]

@[simp] theorem content?_withDirectory : (t.withDirectory q).content? x = t.content? x := by
  rw [withDirectory]
  split <;> rfl

/-- A file is at the place, or its name is too long. -/
def Blocks (t : FileTree) (p : Place) (name : String) : Prop :=
  (t.content? (p ++ [name])).isSome ∨ nameLimit < name.utf8ByteSize

instance : Decidable (t.Blocks p name) := inferInstanceAs (Decidable (_ ∨ _))

theorem makeAll_cons : t.makeAll p (name :: ns) =
    if name = "" ∨ name = "." then t.makeAll p ns
    else if name = ".." then t.makeAll (parent p) ns
    else if t.Blocks p name then (t, none)
    else (t.withDirectory (p ++ [name])).makeAll (p ++ [name]) ns := by
  by_cases hdirectory : t.isDirectory (p ++ [name]) = true <;>
    simp only [makeAll, withDirectory, hdirectory] <;> rfl

/-- Making directories leaves the files as they are, and other places too. -/
theorem makeAll_frame (t : FileTree) (p : Place) (ns : List String) (x : Place) :
    (t.makeAll p ns).1.workingDirectory = t.workingDirectory ∧ (t.makeAll p ns).1.files = t.files ∧
      (x ∉ passed p ns → (t.makeAll p ns).1.isDirectory x = t.isDirectory x) := by
  induction ns generalizing t p with
  | nil => exact ⟨rfl, rfl, fun _ => rfl⟩
  | cons name ns ih =>
      rw [makeAll_cons, passed]
      split
      · exact ih t p
      · split
        · exact ih t (parent p)
        · split
          · exact ⟨rfl, rfl, fun _ => rfl⟩
          · obtain ⟨hplace, hfiles, hsame⟩ := ih (t.withDirectory (p ++ [name])) (p ++ [name])
            refine ⟨hplace.trans ?_, hfiles.trans ?_, fun hx => ?_⟩
            · rw [withDirectory]
              split <;> rfl
            · rw [withDirectory]
              split <;> rfl
            · simp only [List.mem_cons, not_or] at hx
              rw [hsame hx.2, isDirectory_withDirectory]
              simp [hx.1]

/-- What making directories comes to hangs on the files on the way. -/
theorem makeAll_congr (hfiles : ∀ y ∈ passed p ns, (t.content? y).isSome = (u.content? y).isSome)
    (hx : t.isDirectory x = u.isDirectory x) :
    (t.makeAll p ns).2 = (u.makeAll p ns).2 ∧
      (t.makeAll p ns).1.isDirectory x = (u.makeAll p ns).1.isDirectory x := by
  induction ns generalizing t u p with
  | nil => exact ⟨rfl, hx⟩
  | cons name ns ih =>
      rw [passed] at hfiles
      rw [makeAll_cons, makeAll_cons]
      split
      · next hname =>
        rw [if_pos hname] at hfiles
        exact ih hfiles hx
      · next hname =>
        rw [if_neg hname] at hfiles
        split
        · next hup =>
          rw [if_pos hup] at hfiles
          exact ih hfiles hx
        · next hup =>
          rw [if_neg hup] at hfiles
          have hblocks : t.Blocks p name ↔ u.Blocks p name := by
            rw [Blocks, Blocks, hfiles _ List.mem_cons_self]
          by_cases hblocked : t.Blocks p name
          · rw [if_pos hblocked, if_pos (hblocks.mp hblocked)]
            exact ⟨rfl, hx⟩
          · rw [if_neg hblocked, if_neg (mt hblocks.mpr hblocked)]
            refine ih (fun y hy => ?_) ?_
            · rw [content?_withDirectory, content?_withDirectory]
              exact hfiles y (List.mem_cons_of_mem _ hy)
            · rw [isDirectory_withDirectory, isDirectory_withDirectory, hx]

/-- Directories stay where they are. -/
theorem isDirectory_makeAll (hx : t.isDirectory x = true) : (t.makeAll p ns).1.isDirectory x = true := by
  induction ns generalizing t p with
  | nil => exact hx
  | cons name ns ih =>
      rw [makeAll_cons]
      split
      · exact ih hx
      · split
        · exact ih hx
        · split
          · exact hx
          · exact ih (by rw [isDirectory_withDirectory, hx, Bool.true_or])

/-- No directory is made where a file is. -/
theorem not_isDirectory_makeAll (hx : t.isDirectory x = false) (hfile : (t.content? x).isSome) :
    (t.makeAll p ns).1.isDirectory x = false := by
  induction ns generalizing t p with
  | nil => exact hx
  | cons name ns ih =>
      rw [makeAll_cons]
      split
      · exact ih hx hfile
      · split
        · exact ih hx hfile
        · split
          · exact hx
          · next hfree =>
            have hne : x ≠ p ++ [name] := fun h => hfree (Or.inl (h ▸ hfile))
            refine ih ?_ (by rwa [content?_withDirectory])
            rw [isDirectory_withDirectory, hx, decide_eq_false hne]
            rfl

/-- All directories on a way can be made exactly if no file is on it and no name is too long. -/
theorem makeAll_isSome_iff : (t.makeAll p ns).2.isSome ↔
    (∀ y ∈ passed p ns, t.content? y = none) ∧ ∀ name ∈ ns, name.utf8ByteSize ≤ nameLimit := by
  induction ns generalizing t p with
  | nil => simp [makeAll, passed]
  | cons name ns ih =>
      rw [makeAll_cons, passed, List.forall_mem_cons]
      by_cases hname : name = "" ∨ name = "."
      · have hshort : name.utf8ByteSize ≤ nameLimit := by
          obtain rfl | rfl := hname <;> decide
        simp only [if_pos hname, ih, hshort, true_and]
      by_cases hup : name = ".."
      · have hshort : name.utf8ByteSize ≤ nameLimit := by
          subst hup
          decide
        simp only [if_neg hname, if_pos hup, ih, hshort, true_and]
      simp only [if_neg hname, if_neg hup, List.forall_mem_cons]
      by_cases hblocked : t.Blocks p name
      · rw [if_pos hblocked]
        refine iff_of_false (by simp) ?_
        rintro ⟨⟨hfree, -⟩, hshort, -⟩
        obtain hfile | hlong := hblocked
        · simp [hfree] at hfile
        · exact Nat.not_lt.mpr hshort hlong
      · obtain ⟨hfree, hshort⟩ := not_or.mp hblocked
        rw [if_neg hblocked, ih]
        simp only [content?_withDirectory]
        rw [Option.not_isSome_iff_eq_none] at hfree
        simp [hfree, Nat.not_lt.mp hshort]

/-- Once all directories on a way are made, those that the way leads through are there. -/
theorem isDirectory_makeAll_eq (h : (t.makeAll p ns).2.isSome) :
    (t.makeAll p ns).1.isDirectory x = (t.isDirectory x || decide (x ∈ passed p ns)) := by
  induction ns generalizing t p with
  | nil => simp [makeAll, passed]
  | cons name ns ih =>
      rw [makeAll_cons] at h ⊢
      rw [passed]
      by_cases hname : name = "" ∨ name = "."
      · simp only [if_pos hname] at h ⊢
        exact ih h
      by_cases hup : name = ".."
      · simp only [if_neg hname, if_pos hup] at h ⊢
        exact ih h
      by_cases hblocked : t.Blocks p name
      · simp [if_neg hname, if_neg hup, if_pos hblocked] at h
      · simp only [if_neg hname, if_neg hup, if_neg hblocked] at h ⊢
        rw [ih h, isDirectory_withDirectory, Bool.or_assoc]
        simp

theorem follow_cons_concat (name file : String) : t.follow p (name :: (ns ++ [file])) =
    if name = "" ∨ name = "." then t.follow p (ns ++ [file])
    else if name = ".." then t.follow (parent p) (ns ++ [file])
    else if t.isDirectory (p ++ [name]) then t.follow (p ++ [name]) (ns ++ [file]) else none := by
  cases ns <;> rfl

/-- Where all directories on a way are made, the last one is where the way leads, and it can be followed
to any name inside. -/
theorem follow_makeAll (h : (t.makeAll p ns).2 = some q) (file : String) :
    q = ns.foldl step p ∧
      (t.makeAll p ns).1.follow p (ns ++ [file]) = (t.makeAll p ns).1.follow q [file] := by
  induction ns generalizing t p with
  | nil =>
      cases h
      exact ⟨rfl, rfl⟩
  | cons name ns ih =>
      rw [makeAll_cons] at h ⊢
      rw [List.cons_append, follow_cons_concat, List.foldl_cons, step]
      by_cases hname : name = "" ∨ name = "."
      · simp only [if_pos hname] at h ⊢
        exact ih h
      by_cases hup : name = ".."
      · simp only [if_neg hname, if_pos hup] at h ⊢
        exact ih h
      by_cases hblocked : t.Blocks p name
      · simp only [if_neg hname, if_neg hup, if_pos hblocked] at h
        cases h
      · simp only [if_neg hname, if_neg hup, if_neg hblocked] at h ⊢
        rw [if_pos (isDirectory_makeAll (by rw [isDirectory_withDirectory]; simp))]
        exact ih h

/-- The place that names lead to through directories that are there. -/
def enter (t : FileTree) (p : Place) : List String → Option Place
  | [] => some p
  | name :: rest =>
    if name = "" ∨ name = "." then t.enter p rest
    else if name = ".." then t.enter (parent p) rest
    else if t.isDirectory (p ++ [name]) then t.enter (p ++ [name]) rest
    else none

theorem enter_concat_empty : t.enter p (ns ++ [""]) = t.enter p ns := by
  induction ns generalizing p with
  | nil => rfl
  | cons name ns ih => rw [List.cons_append, enter, enter, ih, ih, ih]

/-- A file is found through the directories on the way to it. -/
theorem follow_concat (file : String) :
    t.follow p (ns ++ [file]) = (t.enter p ns).bind fun q => t.follow q [file] := by
  induction ns generalizing p with
  | nil => rfl
  | cons name ns ih =>
      rw [List.cons_append, follow_cons_concat, ih, ih, ih, enter]
      repeat' split
      all_goals rfl

/-- The place of the directory that a path names, if it is there. -/
def directoryPlace? (t : FileTree) (path : String) : Option Place := t.enter (t.origin path) (names path)

/-- A way that can be followed leads to its place. -/
theorem follow_lands (h : t.follow p ns = some q) : q = ns.foldl step p := by
  fun_induction follow t p ns with
  | case1 => cases h
  | case2 => cases h
  | case3 p name hname =>
      simp only [not_or] at hname
      simp [step, hname, ← Option.some.inj h]
  | case4 p name rest _ hname ih => simpa [step, hname] using ih h
  | case5 p rest _ _ ih => simpa [step] using ih h
  | case6 p name rest _ hname hup _ ih => simpa [step, hname, hup] using ih h
  | case7 => cases h

theorem filePlace?_lands (h : t.filePlace? path = some q) : q = (names path).foldl step (t.origin path) := by
  rw [filePlace?] at h
  split at h
  · cases h
  · exact follow_lands (Option.mem_filter_iff.mp h).1

/-- A path to a file does not name a directory. -/
theorem not_isDirectory_filePlace? (h : t.filePlace? path = some q) : t.isDirectory q = false := by
  rw [filePlace?] at h
  split at h
  · cases h
  · simpa using (Option.mem_filter_iff.mp h).2

/-- The content of the file that a path names. -/
def read? (t : FileTree) (path : String) : Option String := (t.filePlace? path).bind t.content?

theorem workingDirectory_put (content : String) :
    (t.put q content).workingDirectory = t.workingDirectory := by
  rw [put]
  split <;> rfl

theorem isDirectory_put (content : String) : (t.put q content).isDirectory x = t.isDirectory x := by
  rw [put]
  split <;> rfl

theorem content?_put (content : String) (hx : x ≠ q) : (t.put q content).content? x = t.content? x := by
  rw [put]
  split
  · show ((t.files.map _).find? _).map _ = (t.files.find? _).map _
    induction t.files with
    | nil => rfl
    | cons f files ih =>
        rw [List.map_cons]
        by_cases hf : f.1 = q
        · have hfx : f.1 ≠ x := fun h => hx (h.symm.trans hf)
          rw [if_pos hf]
          simpa [List.find?_cons, hfx, hx.symm] using ih
        · rw [if_neg hf]
          by_cases hfx : f.1 = x
          · simp [hfx]
          · simpa [List.find?_cons, hfx] using ih
  · simp [content?, List.find?_append, hx.symm]

@[simp] theorem content?_put_self (t : FileTree) (q : Place) (content : String) :
    (t.put q content).content? q = some content := by
  rw [put]
  split
  · next hthere =>
    show ((t.files.map _).find? _).map _ = _
    generalize t.files = files at hthere
    induction files with
    | nil => cases hthere
    | cons f files ih =>
        rw [List.map_cons]
        by_cases hf : f.1 = q
        · simp [hf]
        · rw [List.any_cons, decide_eq_false hf, Bool.false_or] at hthere
          simpa [List.find?_cons, hf] using ih hthere
  · next hnone =>
    have hnone : t.files.find? (·.1 = q) = none := by
      rw [List.find?_eq_none]
      exact fun f hf hfq => hnone (List.any_eq_true.mpr ⟨f, hf, hfq⟩)
    simp [content?, List.find?_append, hnone]

theorem makeAll_concat_empty : t.makeAll p (ns ++ [""]) = t.makeAll p ns := by
  induction ns generalizing t p with
  | nil => rfl
  | cons name ns ih => rw [List.cons_append, makeAll_cons, makeAll_cons, ih, ih, ih]

theorem isAbsolute_append (hpath : path.isEmpty = false) (rest : String) :
    isAbsolute (path ++ rest) = isAbsolute path := by
  have hne : path.toList ≠ [] := by simpa using hpath
  obtain ⟨c, cs, hpath⟩ := List.exists_cons_of_ne_nil hne
  rw [isAbsolute, isAbsolute, String.toList_append, hpath]
  rfl

theorem isAbsolute_join (hdirectory : directory.isEmpty = false) (hfile : '/' ∉ file.toList) :
    isAbsolute (join directory file) = isAbsolute directory := by
  rw [join, isAbsolute_of_plain hfile]
  simp only [Bool.false_eq_true, ↓reduceIte]
  split
  · exact isAbsolute_append hdirectory file
  · rw [String.append_assoc]
    exact isAbsolute_append hdirectory ("/" ++ file)

theorem makeDirectories_eq (hpath : ¬pathLimit ≤ path.utf8ByteSize) :
    t.makeDirectories path =
      ((t.makeAll (t.origin path) (names path)).1, (t.makeAll (t.origin path) (names path)).2.isSome) :=
  if_neg hpath

theorem not_pathLimit_le (h : (t.makeDirectories path).2 = true) : ¬pathLimit ≤ path.utf8ByteSize := by
  intro hlong
  rw [makeDirectories, if_pos hlong] at h
  cases h

@[simp] theorem content?_makeDirectories (t : FileTree) (path : String) (q : Place) :
    (t.makeDirectories path).1.content? q = t.content? q := by
  rw [makeDirectories]
  split
  · rfl
  · rw [content?, (makeAll_frame t _ _ []).2.1, ← content?]

theorem makeDirectories_congr (horigin : u.origin path = t.origin path)
    (hfiles : ∀ y ∈ passed (t.origin path) (names path), (t.content? y).isSome = (u.content? y).isSome)
    (hx : t.isDirectory x = u.isDirectory x) :
    (t.makeDirectories path).2 = (u.makeDirectories path).2 ∧
      (t.makeDirectories path).1.isDirectory x = (u.makeDirectories path).1.isDirectory x := by
  by_cases hlong : pathLimit ≤ path.utf8ByteSize
  · rw [makeDirectories, makeDirectories, if_pos hlong, if_pos hlong]
    exact ⟨rfl, hx⟩
  · obtain ⟨hmade, hdirectory⟩ := makeAll_congr hfiles hx
    rw [makeDirectories_eq hlong, makeDirectories_eq hlong, horigin]
    exact ⟨congrArg Option.isSome hmade, hdirectory⟩

theorem parent_of_follow (h : t.follow p [name] = some q) : parent q = p := by
  rw [follow] at h
  split at h
  · cases h
  · cases h
    exact List.dropLast_concat

/-- Once a directory is made, the place of a file in it hangs on nothing but a directory of this name. -/
theorem filePlace?_makeDirectories (hdirectory : directory.isEmpty = false)
    (hfile : '/' ∉ file.toList) (h : (t.makeDirectories directory).2 = true) :
    (t.makeDirectories directory).1.filePlace? (join directory file) =
      if pathLimit ≤ (join directory file).utf8ByteSize then none
      else (follow {} (plainNames (t.origin directory) directory) [file]).filter
        fun q => !(t.makeDirectories directory).1.isDirectory q := by
  have hshort := not_pathLimit_le h
  rw [makeDirectories_eq hshort] at h ⊢
  obtain ⟨q, hq⟩ := Option.isSome_iff_exists.mp h
  obtain ⟨ns, hjoin, hdir⟩ := names_join hdirectory hfile
  have hmade : t.makeAll (t.origin directory) (names directory) = t.makeAll (t.origin directory) ns := by
    obtain hdir | hdir := hdir
    · rw [hdir]
    · rw [hdir, makeAll_concat_empty]
  obtain ⟨hlands, -⟩ := follow_makeAll hq file
  rw [hmade] at hq
  obtain ⟨-, hfollow⟩ := follow_makeAll hq file
  obtain ⟨hworking, -, -⟩ := makeAll_frame t (t.origin directory) ns []
  have horigin : (t.makeAll (t.origin directory) ns).1.origin (join directory file) = t.origin directory := by
    show (if _ then _ else _) = _
    rw [isAbsolute_join hdirectory hfile, hworking, ← origin]
  rw [filePlace?]
  dsimp only
  rw [hmade, horigin, hjoin, hfollow, hlands, ← plainNames_eq]
  rfl

/-- Where a file in a directory stands. -/
theorem filePlace?_join (hdirectory : directory.isEmpty = false) (hfile : '/' ∉ file.toList)
    (hplain : file ≠ "" ∧ file ≠ "." ∧ file ≠ "..") (h : t.filePlace? (join directory file) = some q) :
    q = plainNames (t.origin directory) directory ++ [file] := by
  obtain ⟨ns, hjoin, hnames⟩ := names_join hdirectory hfile
  have horigin : t.origin (join directory file) = t.origin directory := by
    rw [origin, origin, isAbsolute_join hdirectory hfile]
  have hway : (names directory).foldl step (t.origin directory) = ns.foldl step (t.origin directory) := by
    obtain hnames | hnames := hnames <;> simp [hnames, step]
  rw [filePlace?_lands h, hjoin, horigin, plainNames_eq, hway, List.foldl_append]
  simp [step, hplain]

/-- A file in a directory is found where the directory is found. -/
theorem directoryPlace?_of_filePlace? (hdirectory : directory.isEmpty = false) (hfile : '/' ∉ file.toList)
    (h : t.filePlace? (join directory file) = some q) :
    t.directoryPlace? directory = some (parent q) := by
  obtain ⟨ns, hjoin, hnames⟩ := names_join hdirectory hfile
  have horigin : t.origin (join directory file) = t.origin directory := by
    rw [origin, origin, isAbsolute_join hdirectory hfile]
  have hentered : t.enter (t.origin directory) (names directory) = t.enter (t.origin directory) ns := by
    obtain hnames | hnames := hnames
    · rw [hnames]
    · rw [hnames, enter_concat_empty]
  rw [filePlace?] at h
  split at h
  · cases h
  · obtain ⟨hfollow, -⟩ := Option.mem_filter_iff.mp h
    rw [hjoin, horigin, follow_concat] at hfollow
    obtain ⟨d, hd, hq⟩ := Option.bind_eq_some_iff.mp hfollow
    rw [directoryPlace?, hentered, hd, parent_of_follow hq]

/-! ## Growth -/

/-- All directories stay, and so does each file. -/
structure Grows (t u : FileTree) : Prop where
  working : u.workingDirectory = t.workingDirectory
  directory : ∀ q, t.isDirectory q = true → u.isDirectory q = true
  file : ∀ q, t.isDirectory q = false → (t.content? q).isSome →
    u.isDirectory q = false ∧ (u.content? q).isSome

namespace Grows

variable {v : FileTree}

protected theorem refl (t : FileTree) : Grows t t := ⟨rfl, fun _ h => h, fun _ h h' => ⟨h, h'⟩⟩

protected theorem trans (h : Grows t u) (h' : Grows u v) : Grows t v :=
  ⟨h'.working.trans h.working, fun q hq => h'.directory q (h.directory q hq),
    fun q hq hc => h'.file q (h.file q hq hc).1 (h.file q hq hc).2⟩

protected theorem makeDirectories (t : FileTree) (path : String) : Grows t (t.makeDirectories path).1 := by
  by_cases hlong : pathLimit ≤ path.utf8ByteSize
  · rw [makeDirectories, if_pos hlong]
    exact .refl t
  · have hcontent := content?_makeDirectories t path
    rw [makeDirectories_eq hlong] at hcontent ⊢
    exact ⟨(makeAll_frame t _ _ []).1, fun q => isDirectory_makeAll,
      fun q hq hc => ⟨not_isDirectory_makeAll hq hc, by rwa [hcontent]⟩⟩

protected theorem put (t : FileTree) (p : Place) (content : String) : Grows t (t.put p content) := by
  refine ⟨workingDirectory_put content, fun q hq => ?_, fun q hq hc => ⟨?_, ?_⟩⟩
  · rwa [isDirectory_put]
  · rwa [isDirectory_put]
  · by_cases hqp : q = p
    · simp [hqp]
    · rwa [content?_put content hqp]

theorem follow (h : Grows t u) (hq : t.follow p ns = some q) : u.follow p ns = some q := by
  fun_induction FileTree.follow t p ns with
  | case1 => cases hq
  | case2 => cases hq
  | case3 p name hname => rw [FileTree.follow, if_neg hname, hq]
  | case4 p name rest hrest hname ih =>
      rw [FileTree.follow, if_pos hname, ih hq]
      exact hrest
  | case5 p rest hrest _ ih => simpa [FileTree.follow] using ih hq
  | case6 p name rest hrest hname hup hdirectory ih =>
      rw [FileTree.follow, if_neg hname, if_neg hup, if_pos (h.directory _ hdirectory), ih hq]
      exact hrest
  | case7 => cases hq

/-- A path to a file leads there still. -/
theorem filePlace? (h : Grows t u) (hp : t.filePlace? path = some q) (hq : u.isDirectory q = false) :
    u.filePlace? path = some q := by
  rw [FileTree.filePlace?] at hp ⊢
  split at hp
  · cases hp
  · next hshort =>
    obtain ⟨hp, -⟩ := Option.mem_filter_iff.mp hp
    rw [if_neg hshort, origin_congr h.working, h.follow hp]
    simp [hq]

end Grows

end FileTree

end ElementFinder

import KeyedAccess.Files.Tree

/-!
# What file operations leave behind

Making directories changes no file, and afterwards there is a directory at the path. A file that is
written is found at its place, and nothing changes at any other place. So files of different names
that are written into one directory, one after the other, overlay the files before: none of them is
lost, and nothing outside of them is touched.
-/

namespace KeyedAccess.Files

/-- A text that can name a file in a directory: it is one name on a path, and no name of another
directory. -/
structure IsFileName (name : String) : Prop where
  /-- It holds nothing that would separate names. -/
  whole : '/' ∉ name.toList
  /-- It holds nothing that no path may hold. -/
  allowed : Char.ofNat 0 ∉ name.toList
  /-- It says something. -/
  proper : name ≠ ""
  /-- It does not stand for the directory itself. -/
  ne_here : name ≠ "."
  /-- It does not stand for the directory above. -/
  ne_above : name ≠ ".."

/-! ## Paths -/

private theorem fields_of_not_mem {separator : Char} {text : List Char} (h : separator ∉ text) :
    Text.fields separator text = [text] := by
  induction text with
  | nil => rfl
  | cons c rest ih =>
    obtain ⟨hc, hrest⟩ := List.ne_and_not_mem_of_not_mem_cons h
    rw [Text.fields, if_neg hc.symm, ih hrest]

/-- A name of a file is a path of one name. -/
theorem IsFileName.ofString {name : String} (h : IsFileName name) :
    Path.ofString name = ⟨"", [name]⟩ := by
  have hroot : name.toList.takeWhile (· == '/') = [] := by
    cases htext : name.toList with
    | nil => rfl
    | cons c rest =>
      have hc : c ≠ '/' := by
        rintro rfl
        exact h.whole (htext ▸ List.mem_cons_self)
      rw [List.takeWhile_cons_of_neg (by simpa using hc)]
  have hkeep : (name != "" && name != ".") = true := by
    rw [Bool.and_eq_true, bne_iff_ne, bne_iff_ne]
    exact ⟨h.proper, h.ne_here⟩
  simp only [Path.ofString, fields_of_not_mem h.whole, hroot, List.map_cons, List.map_nil,
    String.ofList_toList, List.filter_cons_of_pos (p := fun n => n != "" && n != ".") hkeep,
    List.filter_nil, List.length_nil]
  rfl

/-- The path of a file in a directory goes on from that of the directory. -/
theorem IsFileName.join {name : String} (h : IsFileName name) (directory : Path) :
    directory.join (.ofString name) = ⟨directory.root, directory.parts ++ [name]⟩ := by
  rw [h.ofString, Path.join, if_pos rfl]

/-! ## Places -/

variable {working : Place} {t after : Tree working} {p : Path} {place : Place}

/-- The directory in which the program runs is there, and so are those that lead to it. -/
@[simp] theorem Tree.hasDirectory_of_isPrefixOf (h : place.isPrefixOf working = true) :
    t.hasDirectory place = true := by
  rw [Tree.hasDirectory, h, Bool.true_or]

/-- A directory that is added is there. -/
@[simp] theorem Tree.hasDirectory_addDirectory {q : Place} :
    (t.addDirectory place).hasDirectory q = true ↔ t.hasDirectory q = true ∨ q = place := by
  simp only [Tree.hasDirectory, Tree.addDirectory, Bool.or_eq_true, List.contains_iff_mem,
    List.mem_append, List.mem_singleton, or_assoc]

/-- Two dots lead to the directory in which the one stands where the program runs. -/
theorem Tree.follow_above (t : Tree working) (names : List String) :
    t.follow working (".." :: names) = t.follow working.dropLast names := by
  have hthere : t.hasDirectory working = true :=
    Tree.hasDirectory_of_isPrefixOf (List.isPrefixOf_iff_prefix.mpr (List.prefix_refl working))
  rw [Tree.follow, if_pos hthere, Place.child, if_pos rfl]

/-- A directory beside the one where the program runs, by a relative and by an absolute path. -/
example (t : Tree ["home", "work"]) :
    t.place (.ofString "../out") = .ok ["home", "out"] ∧
      t.place (.ofString "/home/out") = .ok ["home", "out"] := ⟨rfl, rfl⟩

/-- A path leads to a directory if it leads to a place where there is one. -/
theorem Tree.leadsToDirectory_iff : t.leadsToDirectory p = true ↔
    ∃ place, t.place p = .ok place ∧ t.hasDirectory place = true := by
  rw [Tree.leadsToDirectory]
  cases t.place p with
  | ok place => simp
  | error e => simp

/-- Names are followed one part after the other. -/
theorem Tree.follow_append {start between : Place} {front : List String}
    (h : t.follow start front = .ok between) (back : List String) :
    t.follow start (front ++ back) = t.follow between back := by
  induction front generalizing start with
  | nil =>
    cases h
    rfl
  | cons name front ih =>
    rw [List.cons_append]
    rw [Tree.follow] at h ⊢
    split at h
    · next hd =>
      rw [if_pos hd]
      exact ih h
    · split at h <;> cases h

/-- With more directories, names that lead to a place still do. -/
theorem Tree.follow_of_directories (hd : ∀ q, t.hasDirectory q = true → after.hasDirectory q = true)
    {start : Place} {names : List String} (h : t.follow start names = .ok place) :
    after.follow start names = .ok place := by
  induction names generalizing start with
  | nil => exact h
  | cons name names ih =>
    rw [Tree.follow] at h ⊢
    split at h
    · next hs =>
      rw [if_pos (hd start hs)]
      exact ih h
    · split at h <;> cases h

/-- With more directories, a path that leads to a place still does. -/
theorem Tree.place_of_directories (hd : ∀ q, t.hasDirectory q = true → after.hasDirectory q = true)
    (h : t.place p = .ok place) : after.place p = .ok place := by
  rw [Tree.place] at h ⊢
  split at h
  · cases h
  · next hn =>
    rw [if_neg hn]
    exact Tree.follow_of_directories hd h

/-- A file name leads from a directory to the place behind it. -/
theorem Tree.place_join (hp : t.place p = .ok place) (hd : t.hasDirectory place = true)
    {name : String} (h : IsFileName name) :
    t.place (p.join (.ofString name)) = .ok (place ++ [name]) := by
  rw [h.join]
  rw [Tree.place] at hp ⊢
  split at hp
  · cases hp
  · next hparts =>
    have hall : ¬ ((p.parts ++ [name]).any fun n => n.toList.contains (Char.ofNat 0)) = true := by
      simpa [h.allowed] using hparts
    have hstart : (Path.mk p.root (p.parts ++ [name])).start working = p.start working := rfl
    rw [if_neg hall, hstart, Tree.follow_append hp, Tree.follow, if_pos hd, Tree.follow,
      Place.child, if_neg h.ne_above]

/-! ## Making directories -/

/-- Making a directory adds the place that its path leads to, and changes nothing else. -/
theorem Tree.makeDirectory_eq_ok (h : t.makeDirectory p = .ok after) :
    ∃ place, t.place p = .ok place ∧ after = t.addDirectory place := by
  simp only [Tree.makeDirectory, bind, Except.bind] at h
  split at h
  · cases h
  · next place hp =>
    split at h
    · cases h
    · cases h
      exact ⟨place, hp, rfl⟩

/-- Where a directory that exists already will do, one is made, or the tree stays as it is. -/
theorem Tree.allowExisting_cases (t : Tree working) (p : Path) :
    (∃ after, t.makeDirectory p = .ok after ∧ t.allowExisting p = (after, none)) ∨
      (t.leadsToDirectory p = true ∧ t.allowExisting p = (t, none)) ∨
      ∃ e, t.allowExisting p = (t, some e) := by
  rw [Tree.allowExisting]
  cases hm : t.makeDirectory p with
  | ok after => exact Or.inl ⟨after, rfl, rfl⟩
  | error e =>
    dsimp only
    cases hd : t.leadsToDirectory p with
    | true => exact Or.inr (Or.inl ⟨rfl, rfl⟩)
    | false => exact Or.inr (Or.inr ⟨e, rfl⟩)

/-- For a path with a name, its directory is made at once or after those that lead to it. -/
theorem Tree.makeDirectoriesFrom_cons (t : Tree working) (root name : String)
    (above : List String) :
    t.makeDirectoriesFrom root (name :: above) = t.allowExisting ⟨root, (name :: above).reverse⟩ ∨
      (∃ between, t.makeDirectoriesFrom root above = (between, none) ∧
        t.makeDirectoriesFrom root (name :: above) =
          between.allowExisting ⟨root, (name :: above).reverse⟩) ∨
      ∃ between e, t.makeDirectoriesFrom root above = (between, some e) ∧
        t.makeDirectoriesFrom root (name :: above) = (between, some e) := by
  rw [Tree.makeDirectoriesFrom]
  split
  · refine Or.inr ?_
    obtain ⟨between, _ | e⟩ := t.makeDirectoriesFrom root above
    · exact Or.inl ⟨between, rfl, rfl⟩
    · exact Or.inr ⟨between, e, rfl, rfl⟩
  · exact Or.inl rfl

/-- Where a directory that exists already will do, no file changes. -/
theorem Tree.files_allowExisting (t : Tree working) (p : Path) :
    (t.allowExisting p).1.files = t.files := by
  rcases t.allowExisting_cases p with ⟨after, hm, he⟩ | ⟨-, he⟩ | ⟨e, he⟩
  · obtain ⟨place, -, rfl⟩ := Tree.makeDirectory_eq_ok hm
    rw [he, Tree.files_addDirectory]
  · rw [he]
  · rw [he]

/-- Making directories changes no file, even if it fails halfway. -/
theorem Tree.files_makeDirectoriesFrom (t : Tree working) (root : String) (names : List String) :
    (t.makeDirectoriesFrom root names).1.files = t.files := by
  induction names with
  | nil => exact t.files_allowExisting _
  | cons name above ih =>
    rcases t.makeDirectoriesFrom_cons root name above with
      he | ⟨between, hb, he⟩ | ⟨between, e, hb, he⟩
    · rw [he, Tree.files_allowExisting]
    · rw [he, Tree.files_allowExisting, ← ih, hb]
    · rw [he, ← ih, hb]

/-- So it is with all directories of a path. -/
theorem Tree.files_of_makeDirectories {e : Option FileError}
    (h : t.makeDirectories p = (after, e)) : after.files = t.files := by
  rw [← t.files_makeDirectoriesFrom p.root p.parts.reverse, ← Tree.makeDirectories, h]

/-- A directory that is made unless it exists already is there. -/
theorem Tree.leadsToDirectory_of_allowExisting (h : t.allowExisting p = (after, none)) :
    after.leadsToDirectory p = true := by
  rcases t.allowExisting_cases p with ⟨made, hm, he⟩ | ⟨hd, he⟩ | ⟨e, he⟩
  · cases he.symm.trans h
    obtain ⟨place, hp, rfl⟩ := Tree.makeDirectory_eq_ok hm
    have hplace : (t.addDirectory place).place p = .ok place :=
      Tree.place_of_directories (fun q hq => Tree.hasDirectory_addDirectory.mpr (Or.inl hq)) hp
    have hdirectory : (t.addDirectory place).hasDirectory place = true :=
      Tree.hasDirectory_addDirectory.mpr (Or.inr rfl)
    exact Tree.leadsToDirectory_iff.mpr ⟨place, hplace, hdirectory⟩
  · cases he.symm.trans h
    exact hd
  · cases he.symm.trans h

/-- So is one that is made together with those that lead to it. -/
theorem Tree.leadsToDirectory_of_makeDirectories (h : t.makeDirectories p = (after, none)) :
    after.leadsToDirectory p = true := by
  obtain ⟨root, names⟩ := p
  rw [Tree.makeDirectories] at h
  obtain ⟨above, rfl⟩ : ∃ above, names = above.reverse := ⟨names.reverse, by simp⟩
  rw [List.reverse_reverse] at h
  cases above with
  | nil => exact Tree.leadsToDirectory_of_allowExisting h
  | cons name above =>
    rcases t.makeDirectoriesFrom_cons root name above with
      he | ⟨between, -, he⟩ | ⟨between, e, -, he⟩
    · exact Tree.leadsToDirectory_of_allowExisting (he.symm.trans h)
    · exact Tree.leadsToDirectory_of_allowExisting (he.symm.trans h)
    · cases he.symm.trans h

/-- Without two dots the names of a path are those of its place. -/
theorem Tree.follow_eq_append {start : Place} {names : List String} (hn : ".." ∉ names)
    (h : t.follow start names = .ok place) : place = start ++ names := by
  induction names generalizing start with
  | nil =>
    cases h
    exact (List.append_nil place).symm
  | cons name names ih =>
    obtain ⟨hname, hnames⟩ := List.ne_and_not_mem_of_not_mem_cons hn
    rw [Tree.follow] at h
    split at h
    · rw [Place.child, if_neg hname.symm] at h
      rw [ih hnames h, List.append_assoc, List.singleton_append]
    · split at h <;> cases h

/-- So a path without two dots has only one place that it can lead to. -/
theorem Tree.place_eq_append (hn : ".." ∉ p.parts) (h : t.place p = .ok place) :
    place = p.start working ++ p.parts := by
  rw [Tree.place] at h
  split at h
  · cases h
  · exact Tree.follow_eq_append hn h

/-- Where a directory that exists already will do, no other one is new. -/
theorem Tree.hasDirectory_of_allowExisting (hn : ".." ∉ p.parts) {q : Place}
    (hq : (t.allowExisting p).1.hasDirectory q = true) :
    t.hasDirectory q = true ∨ q = p.start working ++ p.parts := by
  rcases t.allowExisting_cases p with ⟨after, hm, he⟩ | ⟨-, he⟩ | ⟨e, he⟩
  · obtain ⟨place, hp, rfl⟩ := Tree.makeDirectory_eq_ok hm
    rw [← Tree.place_eq_append hn hp]
    rw [he] at hq
    exact Tree.hasDirectory_addDirectory.mp hq
  · rw [he] at hq
    exact Or.inl hq
  · rw [he] at hq
    exact Or.inl hq

/-- The directories that are made for a path lead to its place: none of them lies behind it. -/
theorem Tree.hasDirectory_of_makeDirectoriesFrom {root : String} {names : List String}
    (hn : ".." ∉ names) {q : Place}
    (hq : (t.makeDirectoriesFrom root names).1.hasDirectory q = true) :
    t.hasDirectory q = true ∨
      q.length ≤ ((Path.mk root names.reverse).start working ++ names.reverse).length := by
  induction names with
  | nil =>
    refine (Tree.hasDirectory_of_allowExisting List.not_mem_nil hq).imp_right ?_
    rintro rfl
    exact Nat.le_refl _
  | cons name above ih =>
    have hparts : ".." ∉ (name :: above).reverse := by rwa [List.mem_reverse]
    have habove : t.hasDirectory q = true ∨
        q.length ≤ ((Path.mk root above.reverse).start working ++ above.reverse).length →
        t.hasDirectory q = true ∨ q.length ≤
          ((Path.mk root (name :: above).reverse).start working ++
            (name :: above).reverse).length := by
      refine Or.imp_right fun hle => ?_
      simp only [Path.start, List.length_append, List.length_reverse, List.length_cons] at hle ⊢
      omega
    rcases t.makeDirectoriesFrom_cons root name above with
      he | ⟨between, hb, he⟩ | ⟨between, e, hb, he⟩
    · rw [he] at hq
      refine (Tree.hasDirectory_of_allowExisting hparts hq).imp_right ?_
      rintro rfl
      exact Nat.le_refl _
    · rw [he] at hq
      rcases Tree.hasDirectory_of_allowExisting hparts hq with hq | rfl
      · exact habove (ih (List.not_mem_of_not_mem_cons hn) (hb ▸ hq))
      · exact Or.inr (Nat.le_refl _)
    · rw [he] at hq
      exact habove (ih (List.not_mem_of_not_mem_cons hn) (hb ▸ hq))

/-- A file in a directory of a path without two dots has the path of a directory only if there was
one already before the directories of the path were made. -/
theorem leadsToDirectory_join_of_makeDirectories (hn : ".." ∉ p.parts)
    (h : t.makeDirectories p = (after, none)) {name : String} (hname : IsFileName name)
    (hfree : t.hasDirectory (p.start working ++ p.parts ++ [name]) = false) :
    after.leadsToDirectory (p.join (.ofString name)) = false := by
  obtain ⟨place, hp, hd⟩ :=
    Tree.leadsToDirectory_iff.mp (Tree.leadsToDirectory_of_makeDirectories h)
  obtain rfl := Tree.place_eq_append hn hp
  rw [Tree.leadsToDirectory, Tree.place_join hp hd hname]
  refine Bool.eq_false_iff.mpr fun hq => ?_
  have hmade : (t.makeDirectoriesFrom p.root p.parts.reverse).1.hasDirectory
      (p.start working ++ p.parts ++ [name]) = true := by
    rw [← Tree.makeDirectories, h]
    exact hq
  rcases Tree.hasDirectory_of_makeDirectoriesFrom (by rwa [List.mem_reverse]) hmade with hq | hle
  · rw [hfree] at hq
    cases hq
  · simp only [Path.start, List.reverse_reverse, List.length_append, List.length_singleton] at hle
    omega

/-! ## Writing files -/

/-- A file that is put is found at its place. -/
theorem lookup_putFile_self (place : Place) (contents : ByteArray)
    (files : List (Place × ByteArray)) : (putFile place contents files).lookup place =
      some contents := by
  induction files with
  | nil => simp [putFile]
  | cons file files ih =>
    obtain ⟨other, old⟩ := file
    rw [putFile]
    split
    · simp
    · next hne =>
      rw [List.lookup_cons, beq_eq_false_iff_ne.mpr (Ne.symm hne), ih]

/-- At other places nothing changes. -/
theorem lookup_putFile_of_ne {place q : Place} (h : q ≠ place) (contents : ByteArray)
    (files : List (Place × ByteArray)) :
    (putFile place contents files).lookup q = files.lookup q := by
  induction files with
  | nil => simp [putFile, List.lookup_cons, beq_eq_false_iff_ne.mpr h]
  | cons file files ih =>
    obtain ⟨other, old⟩ := file
    rw [putFile]
    split
    · next he =>
      subst he
      simp [List.lookup_cons, beq_eq_false_iff_ne.mpr h]
    · rw [List.lookup_cons, List.lookup_cons, ih]

/-- A file is written to the place behind that of its directory, if no directory is there. -/
theorem Tree.write_eq (hp : t.place p = .ok place) (hd : t.hasDirectory place = true)
    {name : String} (h : IsFileName name)
    (hfree : t.leadsToDirectory (p.join (.ofString name)) = false) (contents : ByteArray) :
    t.write (p.join (.ofString name)) contents =
      .ok (t.setFile (place ++ [name]) contents) := by
  have hplace := Tree.place_join hp hd h
  rw [Tree.leadsToDirectory, hplace] at hfree
  simp only [Tree.write, hplace, bind, Except.bind, hfree, Bool.false_eq_true, if_false]

/-- A tree that has the given files in one directory, and otherwise those of another tree. -/
structure Overlaid (place : Place) (files : List (String × ByteArray)) (t after : Tree working) :
    Prop where
  /-- Each of the files is there with its contents. -/
  own : ∀ file ∈ files, after.file? (place ++ [file.1]) = some file.2
  /-- At any other place there is what was there before. -/
  other : ∀ q, (∀ file ∈ files, q ≠ place ++ [file.1]) → after.file? q = t.file? q
  /-- The directories are the same. -/
  directories : after.directories = t.directories

/-- One more file of another name in front overlays the files too. -/
theorem Overlaid.cons {files : List (String × ByteArray)} {name : String} {contents : ByteArray}
    (hn : ∀ file ∈ files, file.1 ≠ name)
    (h : Overlaid place files (t.setFile (place ++ [name]) contents) after) :
    Overlaid place ((name, contents) :: files) t after where
  own := by
    refine List.forall_mem_cons.mpr ⟨?_, h.own⟩
    have hkept := h.other (place ++ [name]) fun file hf he =>
      hn file hf (List.singleton_inj.mp (List.append_cancel_left he)).symm
    exact hkept.trans (lookup_putFile_self _ contents t.files)
  other := by
    intro q hq
    obtain ⟨hne, hrest⟩ := List.forall_mem_cons.mp hq
    exact (h.other q hrest).trans (lookup_putFile_of_ne hne contents t.files)
  directories := h.directories

/-- Files of different names are all written into a directory, if no directory stands in their
way, and none of them is lost. -/
theorem Tree.writeAll_overlaid {files : List (String × ByteArray)} (hp : t.place p = .ok place)
    (hd : t.hasDirectory place = true) (hnames : ∀ file ∈ files, IsFileName file.1)
    (hnodup : (files.map (·.1)).Nodup)
    (hfree : ∀ file ∈ files, t.leadsToDirectory (p.join (.ofString file.1)) = false) :
    ∃ after, t.writeAll p files = (after, none) ∧ Overlaid place files t after := by
  induction files generalizing t with
  | nil => exact ⟨t, rfl, by simp, by simp, rfl⟩
  | cons file files ih =>
    obtain ⟨name, contents⟩ := file
    rw [List.map_cons, List.nodup_cons] at hnodup
    obtain ⟨hname, hnames⟩ := List.forall_mem_cons.mp hnames
    obtain ⟨hfirst, hfree⟩ := List.forall_mem_cons.mp hfree
    -- writing a file changes no directory, so the other paths lead where they led
    have hsame : ∀ q, t.hasDirectory q = true →
        (t.setFile (place ++ [name]) contents).hasDirectory q = true := fun _ hq => hq
    obtain ⟨after, hw, ho⟩ := ih (t := t.setFile (place ++ [name]) contents)
      (Tree.place_of_directories hsame hp) hd hnames hnodup.2 fun file hf => by
        have hplace := Tree.place_join hp hd (hnames file hf)
        have hfile := hfree file hf
        rw [Tree.leadsToDirectory, hplace] at hfile
        rw [Tree.leadsToDirectory, Tree.place_of_directories hsame hplace]
        exact hfile
    refine ⟨after, ?_, ho.cons fun file hf he => hnodup.1 ?_⟩
    · rw [Tree.writeAll, Tree.write_eq hp hd hname hfirst]
      exact hw
    · exact List.mem_map.mpr ⟨file, hf, he⟩

/-- Which paths lead to directories depends on the directories alone. -/
theorem Tree.leadsToDirectory_congr (h : after.directories = t.directories) (p : Path) :
    after.leadsToDirectory p = t.leadsToDirectory p := by
  have hsame (q : Place) : after.hasDirectory q = t.hasDirectory q := by
    rw [Tree.hasDirectory, Tree.hasDirectory, h]
  rw [Bool.eq_iff_iff, Tree.leadsToDirectory_iff, Tree.leadsToDirectory_iff]
  constructor
  · rintro ⟨place, hp, hd⟩
    rw [hsame] at hd
    exact ⟨place, Tree.place_of_directories (fun q hq => hsame q ▸ hq) hp, hd⟩
  · rintro ⟨place, hp, hd⟩
    rw [← hsame] at hd
    exact ⟨place, Tree.place_of_directories (fun q hq => (hsame q).symm ▸ hq) hp, hd⟩

/-- A file that can be written has not the path of a directory, and no directory changes. -/
theorem Tree.leadsToDirectory_of_write {contents : ByteArray}
    (h : t.write p contents = .ok after) :
    t.leadsToDirectory p = false ∧ after.directories = t.directories := by
  simp only [Tree.write, bind, Except.bind] at h
  split at h
  · cases h
  · next place hp =>
    split at h
    · cases h
    · next hd =>
      cases h
      refine ⟨?_, rfl⟩
      rw [Tree.leadsToDirectory, hp]
      exact Bool.eq_false_iff.mpr hd

/-- If all files are written into a directory, none of them has the path of a directory. -/
theorem Tree.leadsToDirectory_of_writeAll {files : List (String × ByteArray)}
    (h : t.writeAll p files = (after, none)) :
    ∀ file ∈ files, t.leadsToDirectory (p.join (.ofString file.1)) = false := by
  induction files generalizing t with
  | nil => exact List.forall_mem_nil _
  | cons file files ih =>
    obtain ⟨name, contents⟩ := file
    rw [Tree.writeAll] at h
    split at h
    · next between hwrite =>
      obtain ⟨hfirst, hsame⟩ := Tree.leadsToDirectory_of_write hwrite
      refine List.forall_mem_cons.mpr ⟨hfirst, fun file hf => ?_⟩
      rw [← Tree.leadsToDirectory_congr hsame]
      exact ih h file hf
    · cases h

end KeyedAccess.Files

import SourceOutline.Folder

/-!
# Putting files into folders

A file that is put into the folder some names lead to is then among the files of that folder, and
every other folder holds what it held before (`Folder.held_addFile`). Folders are only made on the
way to a file. So a tree of folders to which nothing but files was ever added is *tidy*: folders in
one folder have different names, and there is a file in each of them or further below.
-/

namespace SourceOutline.Folder

/-- The files of the folder that the names lead to; none when there is no such folder. -/
def held (names : List String) (folder : Folder) : List FileRecord :=
  match folder.find? names with
  | some found => found.files
  | none => []

/-- The folders in each folder have different names, and there is a file in or below each of
them. -/
inductive Tidy : Folder → Prop
  /-- A folder is tidy when the folders in it are. -/
  | mk {folder : Folder} (distinct : (folder.folders.map (·.name)).Nodup)
    (filled : ∀ sub ∈ folder.folders, sub.allFiles ≠ [])
    (inside : ∀ sub ∈ folder.folders, Tidy sub) : Tidy folder

theorem tidy_root : root.Tidy := .mk List.nodup_nil (by simp [root]) (by simp [root])

theorem held_cons (name : String) (rest : List String) (folder : Folder) :
    folder.held (name :: rest) =
      match folder.folders.find? (·.name == name) with
      | some sub => sub.held rest
      | none => [] := by
  rw [held, find?]
  cases h : folder.folders.find? (·.name == name) with
  | none => rfl
  | some sub => rfl

/-- A new folder leads to no file. -/
@[simp] theorem held_fresh (parent : Folder) (name : String) (names : List String) :
    (fresh parent name).held names = [] := by
  cases names <;> rfl

theorem allFiles_eq (folder : Folder) :
    folder.allFiles = folder.files ++ allFilesOf folder.folders := by
  cases folder
  rw [allFiles]

/-! ## Changing the folder of some name -/

section AlterNamed

variable {name : String} {change : Folder → Folder} {new : Folder}

/-- Folders of other names are found as before. -/
theorem find?_alterNamed_of_ne (hchange : ∀ f, (change f).name = f.name) (hnew : new.name = name)
    {other : String} (hne : other ≠ name) (folders : List Folder) :
    (alterNamed name change new folders).find? (·.name == other) =
      folders.find? (·.name == other) := by
  induction folders with
  | nil => simp [alterNamed, hchange, hnew, hne.symm]
  | cons folder rest ih =>
    rw [alterNamed]
    split
    · next hname =>
      have hfolder : folder.name = name := by simpa using hname
      simp [hchange, hfolder, hne.symm]
    · rw [List.find?_cons, List.find?_cons, ih]

/-- A folder after the change was there before, or is the changed one. -/
theorem mem_alterNamed {sub : Folder} {folders : List Folder}
    (h : sub ∈ alterNamed name change new folders) :
    sub ∈ folders ∨ (∃ f ∈ folders, sub = change f) ∨ sub = change new := by
  induction folders with
  | nil => exact .inr (.inr (List.mem_singleton.1 h))
  | cons folder rest ih =>
    rw [alterNamed] at h
    split at h
    · rcases List.mem_cons.1 h with rfl | hrest
      · exact .inr (.inl ⟨folder, List.mem_cons_self, rfl⟩)
      · exact .inl (List.mem_cons_of_mem _ hrest)
    · rcases List.mem_cons.1 h with rfl | hrest
      · exact .inl List.mem_cons_self
      · rcases ih hrest with hmem | ⟨f, hf, rfl⟩ | hnew
        · exact .inl (List.mem_cons_of_mem _ hmem)
        · exact .inr (.inl ⟨f, List.mem_cons_of_mem _ hf, rfl⟩)
        · exact .inr (.inr hnew)

theorem map_name_alterNamed (hchange : ∀ f, (change f).name = f.name) (hnew : new.name = name)
    (folders : List Folder) :
    (alterNamed name change new folders).map (·.name) =
      if name ∈ folders.map (·.name) then folders.map (·.name)
      else folders.map (·.name) ++ [name] := by
  induction folders with
  | nil => simp [alterNamed, hchange, hnew]
  | cons folder rest ih =>
    rw [alterNamed]
    split
    · next hname =>
      have hfolder : folder.name = name := by simpa using hname
      simp [hchange, hfolder]
    · next hname =>
      have hfolder : folder.name ≠ name := by simpa using hname
      simp only [List.map_cons, ih, List.mem_cons, hfolder.symm, false_or]
      split <;> rfl

theorem nodup_alterNamed (hchange : ∀ f, (change f).name = f.name) (hnew : new.name = name)
    {folders : List Folder} (h : (folders.map (·.name)).Nodup) :
    ((alterNamed name change new folders).map (·.name)).Nodup := by
  rw [map_name_alterNamed hchange hnew]
  split
  · exact h
  · next hname =>
    refine List.nodup_append.2 ⟨h, List.nodup_cons.2 ⟨List.not_mem_nil, List.nodup_nil⟩, ?_⟩
    rintro a ha b hb rfl
    rw [List.mem_singleton.1 hb] at ha
    exact hname ha

/-- A change that brings one more file to its folder brings it to all of them together. -/
theorem allFilesOf_alterNamed_perm {file : FileRecord}
    (hchange : ∀ f, (change f).allFiles.Perm (file :: f.allFiles)) (hnew : new.allFiles = [])
    (folders : List Folder) :
    (allFilesOf (alterNamed name change new folders)).Perm (file :: allFilesOf folders) := by
  induction folders with
  | nil =>
    have h := hchange new
    rw [hnew] at h
    simpa [alterNamed, allFilesOf] using h
  | cons folder rest ih =>
    rw [alterNamed]
    split
    · exact (hchange folder).append_right _
    · rw [allFilesOf, allFilesOf]
      exact (ih.append_left _).trans List.perm_middle

end AlterNamed

/-! ## Adding a file -/

theorem name_fresh (parent : Folder) (name : String) : (fresh parent name).name = name := rfl

theorem name_addFile (names : List String) (file : FileRecord) (folder : Folder) :
    (folder.addFile names file).name = folder.name := by
  have hpush (f : Folder) : (push file f).name = f.name := rfl
  exact name_alter hpush names folder

theorem folders_addFile_cons (dir : String) (dirs : List String) (file : FileRecord)
    (folder : Folder) :
    (folder.addFile (dir :: dirs) file).folders =
      alterNamed dir (addFile dirs file) (fresh folder dir) folder.folders := rfl

/-- The file is added to the folder that its names lead to, and to no other. -/
theorem held_addFile (dirs names : List String) (file : FileRecord) (folder : Folder) :
    (folder.addFile dirs file).held names =
      if names = dirs then folder.held names ++ [file] else folder.held names := by
  induction dirs generalizing folder names with
  | nil =>
    cases names with
    | nil => rfl
    | cons name rest => rfl
  | cons dir dirs ih =>
    cases names with
    | nil => rfl
    | cons name rest =>
      rw [held_cons, held_cons, folders_addFile_cons]
      -- Only the folder of the first name is changed, and in it the rest of the names counts.
      by_cases hname : name = dir
      · subst hname
        rw [find?_alterNamed (name_addFile dirs file) (name_fresh folder name)]
        dsimp only
        rw [ih]
        cases folder.folders.find? (·.name == name) with
        | none => simp
        | some sub => simp
      · rw [find?_alterNamed_of_ne (name_addFile dirs file) (name_fresh folder dir) hname]
        simp [hname]

/-- All files are the ones before and the new one. -/
theorem allFiles_addFile_perm (dirs : List String) (file : FileRecord) (folder : Folder) :
    (folder.addFile dirs file).allFiles.Perm (file :: folder.allFiles) := by
  induction dirs generalizing folder with
  | nil =>
    rw [allFiles_eq, allFiles_eq folder]
    change (folder.files ++ [file] ++ allFilesOf folder.folders).Perm _
    rw [List.append_assoc]
    exact List.perm_middle
  | cons dir dirs ih =>
    rw [allFiles_eq, allFiles_eq folder]
    have hnew : (fresh folder dir).allFiles = [] := rfl
    rw [folders_addFile_cons]
    exact ((allFilesOf_alterNamed_perm ih hnew folder.folders).append_left _).trans
      List.perm_middle

theorem tidy_addFile {dirs : List String} {file : FileRecord} {folder : Folder}
    (h : folder.Tidy) : (folder.addFile dirs file).Tidy := by
  induction dirs generalizing folder with
  | nil =>
    obtain ⟨distinct, filled, inside⟩ := h
    exact .mk distinct filled inside
  | cons dir dirs ih =>
    obtain ⟨distinct, filled, inside⟩ := h
    have hfilled (f : Folder) : (f.addFile dirs file).allFiles ≠ [] := by
      intro hnil
      have hperm := allFiles_addFile_perm dirs file f
      rw [hnil] at hperm
      exact absurd hperm.length_eq (by simp)
    -- What is in the changed list was there before, or is a folder to which the file was added.
    have hdistinct := nodup_alterNamed (name_addFile dirs file) (name_fresh folder dir) distinct
    refine .mk hdistinct ?_ ?_
    · intro sub hsub
      rcases mem_alterNamed hsub with hmem | ⟨f, -, rfl⟩ | rfl
      · exact filled sub hmem
      · exact hfilled f
      · exact hfilled _
    · intro sub hsub
      rcases mem_alterNamed hsub with hmem | ⟨f, hf, rfl⟩ | rfl
      · exact inside sub hmem
      · exact ih (inside f hf)
      · exact ih (.mk List.nodup_nil (by simp [fresh]) (by simp [fresh]))

/-! ## Adding many files -/

/-- Puts files, each with the names that lead to its folder, into folders. -/
def addFiles (files : List (List String × FileRecord)) (folder : Folder) : Folder :=
  files.foldl (fun folder file => folder.addFile file.1 file.2) folder

theorem held_addFiles (files : List (List String × FileRecord)) (names : List String)
    (folder : Folder) :
    (folder.addFiles files).held names =
      folder.held names ++ (files.filter (·.1 == names)).map (·.2) := by
  induction files generalizing folder with
  | nil => simp [addFiles]
  | cons file rest ih =>
    rw [addFiles, List.foldl_cons, ← addFiles, ih, held_addFile, List.filter_cons]
    by_cases h : names = file.1
    · subst h
      simp
    · have hne : (file.1 == names) = false := by simpa using Ne.symm h
      simp [h, hne]

theorem allFiles_addFiles_perm (files : List (List String × FileRecord)) (folder : Folder) :
    (folder.addFiles files).allFiles.Perm (folder.allFiles ++ files.map (·.2)) := by
  induction files generalizing folder with
  | nil => simp [addFiles]
  | cons file rest ih =>
    rw [addFiles, List.foldl_cons, ← addFiles, List.map_cons]
    refine (ih _).trans ?_
    have hfirst := (allFiles_addFile_perm file.1 file.2 folder).append_right (rest.map (·.2))
    exact hfirst.trans List.perm_middle.symm

/-- A root that was filled with files holds these files. -/
theorem allFiles_root_addFiles_perm (files : List (List String × FileRecord)) :
    (root.addFiles files).allFiles.Perm (files.map (·.2)) := allFiles_addFiles_perm files root

end SourceOutline.Folder

import Mathlib.Data.List.Perm.Basic
import SourceOutline.Proofs.Folders

/-!
# Folders in another order

Two trees of folders are *rearrangements* of each other when they differ in nothing but the order in
which the files and the folders stand in each folder, at any depth (`Folder.Rearranged`). The order
in which files are put into folders is seen in this way only: the same files in another order give a
rearrangement of the same tree (`Folder.rearranged_addFiles`).
-/

namespace SourceOutline.Folder

/-- One tree of folders is the other with the files and the folders in each folder in another order.
The folders in a folder are first rearranged one by one and then put into their order. -/
inductive Rearranged : Folder → Folder → Prop
  /-- A folder with its files and its folders in another order. -/
  | mk {path name : String} {counts : List (String × Int)} {files files' : List FileRecord}
    {folders changed folders' : List Folder} (hfiles : files.Perm files')
    (hinside : List.Forall₂ Rearranged folders changed) (horder : changed.Perm folders') :
    Rearranged ⟨path, name, files, folders, counts⟩ ⟨path, name, files', folders', counts⟩

theorem Rearranged.name_eq {a b : Folder} (h : Rearranged a b) : a.name = b.name := by
  cases h
  rfl

/-- Folders that are rearranged one by one keep their names. -/
theorem map_name_of_rearranged {folders changed : List Folder}
    (h : List.Forall₂ Rearranged folders changed) :
    folders.map (·.name) = changed.map (·.name) := by
  induction h with
  | nil => rfl
  | cons hfirst _ ih => rw [List.map_cons, List.map_cons, hfirst.name_eq, ih]

mutual

theorem rearranged_refl : (folder : Folder) → Rearranged folder folder
  | ⟨_, _, files, folders, _⟩ =>
    .mk (List.Perm.refl files) (forall₂_rearranged_refl folders) (List.Perm.refl folders)

theorem forall₂_rearranged_refl : (folders : List Folder) → List.Forall₂ Rearranged folders folders
  | [] => .nil
  | folder :: rest => .cons (rearranged_refl folder) (forall₂_rearranged_refl rest)

end

mutual

theorem Rearranged.trans {b c : Folder} :
    (a : Folder) → Rearranged a b → Rearranged b c → Rearranged a c
  | ⟨_, _, files, folders, _⟩, hab, hbc => by
    obtain ⟨hfiles, hinside, horder⟩ := hab
    obtain ⟨hfiles', hinside', horder'⟩ := hbc
    -- The second change of the folders can be made before they are put into order the first time.
    obtain ⟨changed, hchanged, hperm⟩ := List.perm_comp_forall₂ horder hinside'
    exact .mk (hfiles.trans hfiles') (forall₂_rearranged_trans folders hinside hchanged)
      (hperm.trans horder')

theorem forall₂_rearranged_trans {second third : List Folder} :
    (first : List Folder) → List.Forall₂ Rearranged first second →
      List.Forall₂ Rearranged second third → List.Forall₂ Rearranged first third
  | [], hfirst, hsecond => by
    cases hfirst
    cases hsecond
    exact .nil
  | folder :: rest, hfirst, hsecond => by
    obtain - | ⟨hab, hrest⟩ := hfirst
    obtain - | ⟨hbc, hrest'⟩ := hsecond
    exact .cons (hab.trans folder hbc) (forall₂_rearranged_trans rest hrest hrest')

end

/-! ## Changing the folder of some name in another order -/

section AlterNamed

variable {name : String} {change : Folder → Folder} {new : Folder}

/-- Among folders of different names, the one of the name is changed in its place, or else the
change of the new one comes last. -/
theorem alterNamed_eq {folders : List Folder} (hdistinct : (folders.map (·.name)).Nodup) :
    alterNamed name change new folders =
      if name ∈ folders.map (·.name) then
        folders.map fun folder => if folder.name = name then change folder else folder
      else folders ++ [change new] := by
  induction folders with
  | nil => rfl
  | cons folder rest ih =>
    rw [List.map_cons, List.nodup_cons] at hdistinct
    obtain ⟨hfolder, hrest⟩ := hdistinct
    rw [alterNamed]
    by_cases hname : folder.name = name
    · subst hname
      -- No later folder has this name, so the rest stays as it is.
      have hstays : rest.map (fun f => if f.name = folder.name then change f else f) = rest := by
        conv_rhs => rw [← List.map_id rest]
        refine List.map_congr_left fun f hf => ?_
        have hne : f.name ≠ folder.name := fun heq => hfolder (heq ▸ List.mem_map_of_mem hf)
        simp [hne]
      simp [hstays]
    · have hbeq : (folder.name == name) = false := by simpa using hname
      have hmem : name ∈ (folder :: rest).map (·.name) ↔ name ∈ rest.map (·.name) := by
        simp [Ne.symm hname]
      simp only [hbeq, ih hrest, hmem, Bool.false_eq_true, if_false]
      split
      · simp [hname]
      · rfl

theorem alterNamed_perm {folders folders' : List Folder}
    (hdistinct : (folders.map (·.name)).Nodup) (hperm : folders.Perm folders') :
    (alterNamed name change new folders).Perm (alterNamed name change new folders') := by
  have hnames := hperm.map (·.name)
  rw [alterNamed_eq hdistinct, alterNamed_eq (hnames.nodup_iff.1 hdistinct)]
  simp only [hnames.mem_iff]
  split
  · exact hperm.map _
  · exact hperm.append_right _

/-- Changes of folders of different names can be made in any order. -/
theorem alterNamed_comm {name' : String} {change' : Folder → Folder} {new' : Folder}
    (hne : name ≠ name') (hchange : ∀ f, (change f).name = f.name)
    (hchange' : ∀ f, (change' f).name = f.name) (hnew : new.name = name) (hnew' : new'.name = name')
    (folders : List Folder) :
    (alterNamed name' change' new' (alterNamed name change new folders)).Perm
      (alterNamed name change new (alterNamed name' change' new' folders)) := by
  induction folders with
  | nil =>
    simp only [alterNamed, hchange, hchange', hnew, hnew', beq_iff_eq, hne, hne.symm, if_false]
    exact List.Perm.swap _ _ _
  | cons folder rest ih =>
    by_cases hname : folder.name = name
    · have hother : folder.name ≠ name' := fun heq => hne (hname.symm.trans heq)
      simp [alterNamed, hchange, hname, hname ▸ hother]
    · by_cases hother : folder.name = name'
      · simp [alterNamed, hchange', hother, hother ▸ hname]
      · simpa [alterNamed, hname, hother] using ih

/-- Of two changes of the same folder one after the other the second finds the changed folder. -/
theorem alterNamed_alterNamed {change' : Folder → Folder} {new' : Folder}
    (hchange : ∀ f, (change f).name = f.name) (hnew : new.name = name) (folders : List Folder) :
    alterNamed name change' new' (alterNamed name change new folders) =
      alterNamed name (change' ∘ change) new folders := by
  induction folders with
  | nil => simp [alterNamed, hchange, hnew]
  | cons folder rest ih =>
    by_cases hname : folder.name = name
    · simp [alterNamed, hchange, hname]
    · simpa [alterNamed, hname] using ih

/-- Changes that agree up to rearrangement on related folders give folders that agree up to
rearrangement. -/
theorem forall₂_alterNamed {R : Folder → Folder → Prop} {change' : Folder → Folder} {new' : Folder}
    {folders folders' : List Folder} (hR : ∀ f f', R f f' → Rearranged f f')
    (hinside : List.Forall₂ R folders folders')
    (hchange : ∀ f ∈ folders, ∀ f', R f f' → Rearranged (change f) (change' f'))
    (hnew : Rearranged (change new) (change' new')) :
    List.Forall₂ Rearranged (alterNamed name change new folders)
      (alterNamed name change' new' folders') := by
  induction hinside with
  | nil => exact .cons hnew .nil
  | cons hfirst hrest ih =>
    rw [alterNamed, alterNamed, (hR _ _ hfirst).name_eq]
    split
    · exact .cons (hchange _ List.mem_cons_self _ hfirst) (hrest.imp hR)
    · exact .cons (hR _ _ hfirst) (ih fun f hf => hchange f (List.mem_cons_of_mem _ hf))

end AlterNamed

/-! ## Adding files in another order -/

theorem addFile_cons (dir : String) (dirs : List String) (file : FileRecord) (folder : Folder) :
    folder.addFile (dir :: dirs) file =
      { folder with
        folders := alterNamed dir (addFile dirs file) (fresh folder dir) folder.folders } := rfl

/-- A file that is added to a rearranged tree gives a rearrangement of the tree with the file. The
names side by side have to be different: of two folders of one name the first is taken, and this may
be another one in the other tree. -/
theorem Rearranged.addFile (dirs : List String) (file : FileRecord) {a b : Folder} (ha : a.Tidy)
    (h : Rearranged a b) : Rearranged (a.addFile dirs file) (b.addFile dirs file) := by
  induction dirs generalizing a b with
  | nil =>
    obtain ⟨hfiles, hinside, horder⟩ := h
    exact .mk (hfiles.append_right [file]) hinside horder
  | cons dir dirs ih =>
    obtain ⟨hdistinct, -, htidy⟩ := ha
    obtain ⟨hfiles, hinside, horder⟩ := h
    rw [addFile_cons, addFile_cons]
    have hnames := map_name_of_rearranged hinside
    have hnew (parent : Folder) : (fresh parent dir).Tidy :=
      .mk List.nodup_nil (by simp [fresh]) (by simp [fresh])
    refine .mk hfiles (forall₂_alterNamed (fun _ _ => id) hinside ?_ ?_)
      (alterNamed_perm (hnames ▸ hdistinct) horder)
    · intro f hf f' hff'
      exact ih (htidy f hf) hff'
    · exact ih (hnew _) (rearranged_refl _)

/-- Two files can be added in any order. -/
theorem rearranged_addFile_comm (dirs dirs' : List String) (file file' : FileRecord)
    (folder : Folder) :
    Rearranged ((folder.addFile dirs file).addFile dirs' file')
      ((folder.addFile dirs' file').addFile dirs file) := by
  induction dirs generalizing dirs' folder with
  | nil =>
    cases dirs' with
    | nil =>
      have hfiles : (folder.files ++ [file] ++ [file']).Perm
          (folder.files ++ [file'] ++ [file]) := by
        rw [List.append_assoc, List.append_assoc]
        exact List.perm_append_comm.append_left _
      exact .mk hfiles (forall₂_rearranged_refl _) (List.Perm.refl _)
    | cons dir' dirs' => exact rearranged_refl _
  | cons dir dirs ih =>
    cases dirs' with
    | nil => exact rearranged_refl _
    | cons dir' dirs' =>
      rw [addFile_cons, addFile_cons, addFile_cons, addFile_cons]
      by_cases hdir : dir = dir'
      · -- Both files go into the same folder, or into the one that is made for the first of them.
        subst hdir
        refine .mk (List.Perm.refl _) ?_ (List.Perm.refl _)
        rw [alterNamed_alterNamed (name_addFile dirs file) (name_fresh _ _),
          alterNamed_alterNamed (name_addFile dirs' file') (name_fresh _ _)]
        have hsame : List.Forall₂ Eq folder.folders folder.folders :=
          List.forall₂_same.2 fun _ _ => rfl
        refine forall₂_alterNamed ?_ hsame ?_ (ih dirs' _)
        · rintro f _ rfl
          exact rearranged_refl f
        · rintro f - _ rfl
          exact ih dirs' f
      · refine .mk (List.Perm.refl _) (forall₂_rearranged_refl _) ?_
        exact alterNamed_comm hdir (name_addFile dirs file) (name_addFile dirs' file')
          (name_fresh _ _) (name_fresh _ _) folder.folders

theorem Rearranged.addFiles (files : List (List String × FileRecord)) {a b : Folder} (ha : a.Tidy)
    (h : Rearranged a b) : Rearranged (a.addFiles files) (b.addFiles files) := by
  induction files generalizing a b with
  | nil => exact h
  | cons file rest ih => exact ih (tidy_addFile ha) (h.addFile file.1 file.2 ha)

/-- The same files in another order give a rearrangement of the same tree. -/
theorem rearranged_addFiles {files files' : List (List String × FileRecord)}
    (hperm : files.Perm files') {folder : Folder} (htidy : folder.Tidy) :
    Rearranged (folder.addFiles files) (folder.addFiles files') := by
  induction hperm generalizing folder with
  | nil => exact rearranged_refl folder
  | cons file _ ih => exact ih (tidy_addFile htidy)
  | swap file file' rest =>
    have hfirst := rearranged_addFile_comm file'.1 file.1 file'.2 file.2 folder
    exact hfirst.addFiles rest (tidy_addFile (tidy_addFile htidy))
  | trans _ _ ih₁ ih₂ => exact (ih₁ htidy).trans _ (ih₂ htidy)

end SourceOutline.Folder

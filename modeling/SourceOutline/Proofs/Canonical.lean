import SourceOutline.Proofs.Rearrangement
import SourceOutline.Proofs.Views

/-!
# The view by folders does not depend on the order of files

The view by folders shows the folders in a folder first and then its files, both in the order of
their names in lower case, and names that are the same in lower case in the order in which they
stand (`Outline.folderLines_inOrder`). So when no two names side by side are the same in lower case,
a tree of folders and any rearrangement of it look the same.
-/

namespace SourceOutline

/-- The name by which a folder is sorted. -/
def Folder.sortName (folder : Folder) : String := Text.lowercase folder.name

/-- The name by which a file is sorted. -/
def FileRecord.sortName (file : FileRecord) : String := Text.lowercase file.fileName

/-- No two folders side by side, and no two files side by side, have the same name in lower case, at
any depth. -/
inductive Folder.Unambiguous : Folder → Prop
  /-- A folder is unambiguous when its names are different and the folders in it are unambiguous. -/
  | mk {folder : Folder} (folders : (folder.folders.map (·.sortName)).Nodup)
    (files : (folder.files.map (·.sortName)).Nodup)
    (inside : ∀ sub ∈ folder.folders, Unambiguous sub) : Unambiguous folder

namespace Outline

/-- The lines of a folder whose folders and files come in this order: each folder under its name,
and then each file. -/
def inOrder (depth : Nat) (folders : List Folder) (files : List FileRecord) : List String :=
  folders.flatMap (fun sub => folderHead depth sub :: folderLines (depth + 1) sub) ++
    files.flatMap (fileLines depth)

/-- The name of a folder and its lines with the line over it. -/
def entry (depth : Nat) (folder : Folder) : String × List String :=
  (folder.name, folderHead depth folder :: folderLines (depth + 1) folder)

theorem entryLines_eq (depth : Nat) (folders : List Folder) :
    entryLines depth folders = folders.map (entry depth) := by
  induction folders with
  | nil => rfl
  | cons folder rest ih =>
    rw [entryLines, ih]
    rfl

theorem folderLines_eq (depth : Nat) (folder : Folder) :
    folderLines depth folder =
      (sortByKey (fun entry => Text.lowercase entry.1)
        (folder.folders.map (entry depth))).flatMap (·.2) ++
        (sortByKey FileRecord.sortName folder.files).flatMap (fileLines depth) := by
  cases folder
  rw [folderLines, entryLines_eq]
  rfl

/-- The folders come first and then the files, both sorted by their names. -/
theorem folderLines_inOrder (depth : Nat) (folder : Folder) :
    folderLines depth folder =
      inOrder depth (sortByKey Folder.sortName folder.folders)
        (sortByKey FileRecord.sortName folder.files) := by
  have hentries : (sortByKey Folder.sortName folder.folders).map (entry depth) =
      sortByKey (fun entry => Text.lowercase entry.1) (folder.folders.map (entry depth)) := by
    apply map_sortByKey
    intro sub
    rfl
  rw [folderLines_eq, ← hentries, List.flatMap_map]
  rfl

mutual

theorem folderLines_of_rearranged {other : Folder} (depth : Nat) : (folder : Folder) →
    folder.Rearranged other → folder.Unambiguous →
      folderLines depth folder = folderLines depth other
  | ⟨_, _, files, folders, _⟩, hrearranged, hunambiguous => by
    obtain ⟨hfiles, hinside, horder⟩ := hrearranged
    obtain ⟨hfolderNames, hfileNames, hunambiguous⟩ := hunambiguous
    rw [folderLines_eq, folderLines_eq]
    have hentries := map_entry_of_rearranged depth folders hinside hunambiguous
    have hkeys : ((folders.map (entry depth)).map fun entry => Text.lowercase entry.1).Nodup := by
      rw [List.map_map]
      exact hfolderNames
    -- One by one the folders have the same lines. They are then sorted in the same way.
    rw [sortByKey_eq_of_perm hkeys (hentries ▸ horder.map (entry depth)),
      sortByKey_eq_of_perm hfileNames hfiles]

theorem map_entry_of_rearranged {changed : List Folder} (depth : Nat) : (folders : List Folder) →
    List.Forall₂ Folder.Rearranged folders changed → (∀ sub ∈ folders, sub.Unambiguous) →
    folders.map (entry depth) = changed.map (entry depth)
  | [], hinside, _ => by
    cases hinside
    rfl
  | folder :: rest, hinside, hunambiguous => by
    obtain - | ⟨hfirst, hrest⟩ := hinside
    have hfolder := hunambiguous folder List.mem_cons_self
    have hlines := folderLines_of_rearranged (depth + 1) folder hfirst hfolder
    rw [List.map_cons, List.map_cons,
      map_entry_of_rearranged depth rest hrest fun sub hsub =>
        hunambiguous sub (List.mem_cons_of_mem _ hsub)]
    rw [entry, entry, folderHead, folderHead, hlines, hfirst.name_eq]

end

/-- The view by folders is the same for all rearrangements of a tree in which no two names side by
side are the same in lower case, and so for all orders in which files were put into folders.
Whatever the names are, it shows the folders of a folder before its files, both in the order of
their names in lower case, with those that are the same in lower case in the order in which they
stand. -/
theorem folderLines_canonical :
    (∀ folder other : Folder, folder.Rearranged other → folder.Unambiguous →
      ∀ depth, folderLines depth folder = folderLines depth other) ∧
    (∀ files files' : List (List String × FileRecord), files.Perm files' →
      (Folder.root.addFiles files).Unambiguous → ∀ depth,
        folderLines depth (Folder.root.addFiles files) =
          folderLines depth (Folder.root.addFiles files')) ∧
    ∀ (folder : Folder) (depth : Nat), ∃ folders files,
      SortedBy Folder.sortName folder.folders folders ∧
      SortedBy FileRecord.sortName folder.files files ∧
      folderLines depth folder = inOrder depth folders files := by
  refine ⟨?_, ?_, ?_⟩
  · intro folder other hrearranged hunambiguous depth
    exact folderLines_of_rearranged depth folder hrearranged hunambiguous
  · intro files files' hperm hunambiguous depth
    have hrearranged := Folder.rearranged_addFiles hperm Folder.tidy_root
    exact folderLines_of_rearranged depth _ hrearranged hunambiguous
  · intro folder depth
    exact ⟨_, _, sortedBy_sortByKey _ _, sortedBy_sortByKey _ _, folderLines_inOrder depth folder⟩

/-! ### A tree and a rearrangement of it -/

namespace Shuffled

/-- A file without symbols. -/
def file (path : String) : FileRecord := ⟨path, "other", 0, [], false⟩

/-- Files in folders, with small and capital letters. -/
def files : List (List String × FileRecord) :=
  [(["lib", "B"], file "lib/B/y"), ([], file "b"), (["lib"], file "lib/Z"), (["Doc"], file "Doc/a"),
    ([], file "A"), (["lib", "a"], file "lib/a/x"), (["lib"], file "lib/w")]

/-- The tree with these files. -/
def tree : Folder := Folder.root.addFiles files

/-- The tree with these files, put into it in the opposite order. -/
def reversed : Folder := Folder.root.addFiles files.reverse

theorem rearranged : tree.Rearranged reversed :=
  Folder.rearranged_addFiles (List.reverse_perm files).symm Folder.tidy_root

theorem unambiguous : tree.Unambiguous := by
  have hleaf (folder : Folder) (hfolders : folder.folders = [])
      (hfiles : (folder.files.map (·.sortName)).Nodup) : folder.Unambiguous :=
    .mk (by simp [hfolders]) hfiles (by simp [hfolders])
  refine .mk (by decide) (by decide) (List.forall_mem_cons.2 ⟨?_, List.forall_mem_singleton.2 ?_⟩)
  · refine .mk (by decide) (by decide)
      (List.forall_mem_cons.2 ⟨?_, List.forall_mem_singleton.2 ?_⟩)
    · exact hleaf _ rfl (by decide)
    · exact hleaf _ rfl (by decide)
  · exact hleaf _ rfl (by decide)

end Shuffled

theorem folderLines_canonical_shuffled :
    Shuffled.tree.Rearranged Shuffled.reversed ∧ Shuffled.tree.Unambiguous ∧
    Shuffled.tree.files.map (·.path) = ["b", "A"] ∧
    Shuffled.reversed.files.map (·.path) = ["A", "b"] ∧
    folderLines 0 Shuffled.tree = folderLines 0 Shuffled.reversed := by
  refine ⟨Shuffled.rearranged, Shuffled.unambiguous, rfl, rfl, ?_⟩
  exact folderLines_canonical.1 _ _ Shuffled.rearranged Shuffled.unambiguous 0

end Outline

end SourceOutline

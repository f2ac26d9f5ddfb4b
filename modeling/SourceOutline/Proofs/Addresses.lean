import Mathlib.Data.List.Nodup
import SourceOutline.Folder

/-!
# Addresses of folders

A folder in a repository is known by its address: the numbers of the folders that lead to it. Names
would not do, since two folders side by side may have the same name. All addresses are listed, each
once (`Folder.mem_addresses`, `Folder.nodup_addresses`), and what a report takes from all folders is
gathered along this list (`Folder.gather`).
-/

namespace SourceOutline.Folder

/-- The folder at an address. -/
def at? (folder : Folder) : List Nat → Option Folder
  | [] => some folder
  | index :: rest => folder.folders[index]?.bind fun sub => sub.at? rest

mutual

/-- The addresses of a folder and of all folders in it. -/
def addresses (folder : Folder) : List (List Nat) :=
  match folder with
  | ⟨_, _, _, folders, _⟩ => [] :: addressesFrom 0 folders

/-- The addresses of some folders side by side, and of all folders in them; `index` is the number of
the first. -/
def addressesFrom (index : Nat) : List Folder → List (List Nat)
  | [] => []
  | folder :: rest => (addresses folder).map (index :: ·) ++ addressesFrom (index + 1) rest

end

theorem addresses_eq (folder : Folder) :
    folder.addresses = [] :: addressesFrom 0 folder.folders := by
  cases folder
  rw [addresses]

theorem addressesFrom_eq (index : Nat) (folders : List Folder) :
    addressesFrom index folders =
      (folders.zipIdx index).flatMap fun (sub, i) => sub.addresses.map (i :: ·) := by
  induction folders generalizing index with
  | nil => rfl
  | cons folder rest ih => rw [addressesFrom, ih, List.zipIdx_cons, List.flatMap_cons]

theorem mem_addressesFrom {index : Nat} {folders : List Folder} {address : List Nat} :
    address ∈ addressesFrom index folders ↔
      ∃ sub i rest,
        (sub, i) ∈ folders.zipIdx index ∧ rest ∈ sub.addresses ∧ i :: rest = address := by
  simp only [addressesFrom_eq, List.mem_flatMap, List.mem_map, Prod.exists]
  constructor
  · rintro ⟨sub, i, hsub, rest, hrest, heq⟩
    exact ⟨sub, i, rest, hsub, hrest, heq⟩
  · rintro ⟨sub, i, rest, hsub, hrest, heq⟩
    exact ⟨sub, i, hsub, rest, hrest, heq⟩

/-- The addresses are those that lead to a folder. -/
theorem mem_addresses {folder : Folder} {address : List Nat} :
    address ∈ folder.addresses ↔ (folder.at? address).isSome := by
  induction address generalizing folder with
  | nil => simp [addresses_eq, at?]
  | cons index rest ih =>
    have hmem : index :: rest ∈ folder.addresses ↔
        ∃ sub, folder.folders[index]? = some sub ∧ rest ∈ sub.addresses := by
      rw [addresses_eq, List.mem_cons, mem_addressesFrom]
      constructor
      · rintro (hnil | ⟨sub, _, _, hsub, hrest, ⟨⟩⟩)
        · cases hnil
        · exact ⟨sub, List.mem_zipIdx_iff_getElem?.1 hsub, hrest⟩
      · rintro ⟨sub, hsub, hrest⟩
        exact .inr ⟨sub, index, rest, List.mem_zipIdx_iff_getElem?.2 hsub, hrest, rfl⟩
    rw [hmem, at?]
    cases folder.folders[index]? with
    | none => simp
    | some sub => simp [ih]

mutual

theorem nodup_addresses : (folder : Folder) → folder.addresses.Nodup
  | ⟨_, _, _, folders, _⟩ => by
    rw [addresses, List.nodup_cons]
    refine ⟨?_, nodup_addressesFrom 0 folders⟩
    rw [mem_addressesFrom]
    rintro ⟨_, _, _, _, _, ⟨⟩⟩

theorem nodup_addressesFrom (index : Nat) :
    (folders : List Folder) → (addressesFrom index folders).Nodup
  | [] => by
    rw [addressesFrom]
    exact List.nodup_nil
  | folder :: rest => by
    rw [addressesFrom, List.nodup_append]
    refine ⟨?_, nodup_addressesFrom (index + 1) rest, ?_⟩
    · exact (nodup_addresses folder).map fun _ _ h => (List.cons.inj h).2
    · -- An address in a later folder starts with a higher number.
      rintro first hfirst second hsecond rfl
      obtain ⟨_, _, rfl⟩ := List.mem_map.1 hfirst
      obtain ⟨_, _, _, hlater, _, ⟨⟩⟩ := mem_addressesFrom.1 hsecond
      have hlater := List.le_snd_of_mem_zipIdx hlater
      omega

end

/-! ## Gathering -/

section Gather

variable {α : Type}

/-- What is taken from a folder and from all folders in it. What is taken from one of them may
depend on how deep it lies. -/
def gather (part : Nat → Folder → List α) (folder : Folder) : List α :=
  folder.addresses.flatMap fun address =>
    ((folder.at? address).map (part address.length)).getD []

/-- What is gathered is what the folder itself gives, and then what the folders in it give, which
lie deeper. -/
theorem gather_eq (part : Nat → Folder → List α) (folder : Folder) :
    folder.gather part =
      part 0 folder ++ folder.folders.flatMap (gather fun depth => part (depth + 1)) := by
  rw [gather, addresses_eq, addressesFrom_eq, List.flatMap_cons, List.flatMap_assoc]
  refine congrArg (part 0 folder ++ ·) ?_
  have hfolders : folder.folders = (folder.folders.zipIdx 0).map Prod.fst := by simp
  conv_rhs => rw [hfolders, List.flatMap_map]
  refine List.flatMap_congr fun entry hentry => ?_
  have hat : folder.folders[entry.2]? = some entry.1 := List.mem_zipIdx_iff_getElem?.1 hentry
  rw [List.flatMap_map, gather]
  simp only [at?, hat, Option.bind_some, List.length_cons]

end Gather

/-- The files in the folder at an address. -/
def filesAt (folder : Folder) (address : List Nat) : List FileRecord :=
  ((folder.at? address).map (·.files)).getD []

mutual

/-- The files of a folder are those at all its addresses. -/
theorem allFiles_eq_flatMap : (folder : Folder) →
    folder.allFiles = folder.addresses.flatMap folder.filesAt
  | ⟨path, name, files, folders, counts⟩ => by
    rw [allFiles, allFilesOf_eq_flatMap folders]
    exact (gather_eq (fun _ sub => sub.files) ⟨path, name, files, folders, counts⟩).symm

theorem allFilesOf_eq_flatMap : (folders : List Folder) →
    allFilesOf folders = folders.flatMap fun folder => folder.addresses.flatMap folder.filesAt
  | [] => rfl
  | folder :: rest => by
    rw [allFilesOf, allFiles_eq_flatMap folder, allFilesOf_eq_flatMap rest, List.flatMap_cons]

end

end SourceOutline.Folder

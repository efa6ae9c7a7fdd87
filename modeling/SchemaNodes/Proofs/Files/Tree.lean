import SchemaNodes.Files.Basic
import SchemaNodes.Proofs.FilePath
import SchemaNodes.Proofs.Text.ByteOrder

/-!
# Walks over trees of files

A walk over a tree lists its files, whatever the order in which the directories keep their entries.
No file is missed, and none comes twice: each stands strictly in front of the next, in the order
that the first different names of two ways decide by their bytes. That is not the order of the paths
as texts, where a slash counts like any other character.

* **`HasFile`**, **`mem_files_iff`**: the files of a tree, and that the walk lists just these.
* **`WellFormed`**: trees in which every way leads to one place.
* **`Precedes`**, **`pairwise_files`**: the order of the walk.
-/

namespace SchemaNodes.FileTree

/-- Names lead from the top of the tree to a file with the content. -/
inductive HasFile : FileTree → List String → ByteArray → Prop
  | here (content : ByteArray) : HasFile (.file content) [] content
  | inEntry {entries : List (String × FileTree)} {name : String} {tree : FileTree}
      {names : List String} {content : ByteArray} (hentry : (name, tree) ∈ entries)
      (htree : HasFile tree names content) : HasFile (.directory entries) (name :: names) content

/-- The entries of every directory have names of their own, each a single piece of a path. -/
inductive WellFormed : FileTree → Prop
  | file (content : ByteArray) : WellFormed (.file content)
  | directory {entries : List (String × FileTree)} (hdistinct : (entries.map (·.1)).Nodup)
      (hnames : ∀ entry ∈ entries, FilePath.IsEntryName entry.1)
      (htrees : ∀ entry ∈ entries, WellFormed entry.2) : WellFormed (.directory entries)

/-- One way comes before another: where they part, its name has the lesser bytes. -/
inductive Precedes : List String → List String → Prop
  | parting {name other : String} {names others : List String}
      (hbytes : Text.utf8 name < Text.utf8 other) : Precedes (name :: names) (other :: others)
  | along {name : String} {names others : List String} (h : Precedes names others) :
      Precedes (name :: names) (name :: others)

theorem Precedes.ne {names others : List String} (h : Precedes names others) : names ≠ others := by
  induction h with
  | parting hbytes =>
    rintro ⟨⟩
    exact List.lt_irrefl _ hbytes
  | along _ ih =>
    rintro ⟨⟩
    exact ih rfl

/-! ## Nothing is missed -/

variable {entries : List (String × FileTree)} {names : List String} {content : ByteArray}

theorem entryFiles_eq (entries : List (String × FileTree)) :
    entryFiles entries = entries.map fun entry => (entry.1, entry.2.files) := by
  induction entries with
  | nil => rfl
  | cons entry rest ih => rw [entryFiles, ih, List.map_cons]

/-- The files of a directory lie in its entries. -/
theorem mem_files_directory : (names, content) ∈ (directory entries).files ↔
    ∃ name tree rest, (name, tree) ∈ entries ∧ (rest, content) ∈ tree.files ∧
      names = name :: rest := by
  simp only [files, entryFiles_eq, inNameOrder, List.mem_flatMap, List.mem_mergeSort, List.mem_map,
    under]
  constructor
  · rintro ⟨-, ⟨⟨name, tree⟩, hentry, rfl⟩, ⟨rest, content⟩, hfile, ⟨⟩⟩
    exact ⟨name, tree, rest, hentry, hfile, rfl⟩
  · rintro ⟨name, tree, rest, hentry, hfile, rfl⟩
    exact ⟨_, ⟨_, hentry, rfl⟩, _, hfile, rfl⟩

/-- The walk lists the files of the tree. -/
theorem mem_files_iff {tree : FileTree} :
    (names, content) ∈ tree.files ↔ tree.HasFile names content := by
  constructor
  · intro h
    -- the walk puts a name in front for each directory that it enters
    induction names generalizing tree with
    | nil =>
      cases tree with
      | file content =>
        obtain ⟨⟩ := List.mem_singleton.1 h
        exact .here content
      | directory entries =>
        obtain ⟨_, _, _, -, -, hnames⟩ := mem_files_directory.1 h
        exact absurd hnames (List.cons_ne_nil _ _).symm
    | cons name names ih =>
      cases tree with
      | file content => cases List.mem_singleton.1 h
      | directory entries =>
        obtain ⟨_, tree, _, hentry, hfile, ⟨⟩⟩ := mem_files_directory.1 h
        exact .inEntry hentry (ih hfile)
  · intro h
    induction h with
    | here content => exact List.mem_singleton_self _
    | inEntry hentry _ ih => exact mem_files_directory.2 ⟨_, _, _, hentry, ih, rfl⟩

/-- Below a directory a way ends in the name of an entry. -/
theorem HasFile.exists_last (h : (directory entries).HasFile names content) :
    ∃ front last, names = front ++ [last] := by
  cases h with
  | inEntry => exact (List.eq_nil_or_concat' _).resolve_left (List.cons_ne_nil _ _)

theorem HasFile.isEntryName {tree : FileTree} (h : tree.HasFile names content)
    (hwf : tree.WellFormed) : ∀ name ∈ names, FilePath.IsEntryName name := by
  induction h with
  | here => exact fun _ hname => absurd hname List.not_mem_nil
  | inEntry hentry _ ih =>
    cases hwf with
    | directory _ hnames htrees =>
      exact List.forall_mem_cons.2 ⟨hnames _ hentry, ih (htrees _ hentry)⟩

/-! ## Nothing is repeated -/

/-- Under different names the order of the names is strict, and that of their bytes. -/
theorem pairwise_inNameOrder {α : Type} {named : List (String × α)}
    (h : (named.map (·.1)).Nodup) :
    (inNameOrder named).Pairwise fun a b => Text.utf8 a.1 < Text.utf8 b.1 := by
  have hperm : (inNameOrder named).Perm named := List.mergeSort_perm named _
  have hnodup : ((inNameOrder named).map (·.1)).Nodup := (hperm.map (·.1)).nodup_iff.2 h
  have hsorted : (inNameOrder named).Pairwise fun a b => decide (a.1 ≤ b.1) = true := by
    refine List.pairwise_mergeSort (fun a b c hab hbc => ?_) (fun a b => ?_) named
    · exact decide_eq_true (String.le_trans (of_decide_eq_true hab) (of_decide_eq_true hbc))
    · simpa using String.le_total a.1 b.1
  refine hsorted.imp₂ (fun a b hle hne => ?_) (List.pairwise_map.1 hnodup)
  have hnot : ¬ b.1 ≤ a.1 := fun hge => hne (String.le_antisymm (of_decide_eq_true hle) hge)
  exact Text.lt_iff_utf8_lt.1 (String.not_le.1 hnot)

/-- The walk goes from one file to the next in order. -/
theorem pairwise_files {tree : FileTree} (h : tree.WellFormed) :
    tree.files.Pairwise fun a b => Precedes a.1 b.1 := by
  induction h with
  | file content => exact List.pairwise_singleton _ _
  | @directory entries hdistinct _ _ ih =>
    rw [files, List.pairwise_flatMap]
    constructor
    · -- within an entry all ways begin with its name
      intro named hnamed
      rw [inNameOrder, List.mem_mergeSort, entryFiles_eq, List.mem_map] at hnamed
      obtain ⟨entry, hentry, rfl⟩ := hnamed
      rw [under, List.pairwise_map]
      exact (ih entry hentry).imp fun h => .along h
    · -- the ways of two entries part at once
      have hnames : ((entryFiles entries).map (·.1)).Nodup := by
        rw [entryFiles_eq, List.map_map]
        exact hdistinct
      refine (pairwise_inNameOrder hnames).imp fun hbytes a ha b hb => ?_
      obtain ⟨_, -, rfl⟩ := List.mem_map.1 ha
      obtain ⟨_, -, rfl⟩ := List.mem_map.1 hb
      exact .parting hbytes

end SchemaNodes.FileTree

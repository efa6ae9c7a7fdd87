import SchemaNodes.Json.Value

/-!
# Canonical values

`Json.canonical` sorts the members of every object by key and keeps the last of equal keys. It has
nothing to do where the members ascend already, which they do in everything that was put together
from dictionaries.

* **`Entries.mapValues_insertAll`**: values may be replaced before or after the entries are put
  together.
* **`Entries.insertAll_perm`**: where no key is repeated, the entries are put in order, and that is
  all.
* **`Json.canonical_of_sorted`**: a sorted value is its own canonical form.
-/

namespace SchemaNodes

universe u v

namespace Entries

variable {α : Type u} {β : Type v}

/-- The entries with other values under their keys. -/
def mapValues (f : α → β) (entries : Entries α) : Entries β :=
  entries.map fun entry => (entry.1, f entry.2)

theorem Sorted.mapValues {entries : Entries α} (hs : Sorted entries) (f : α → β) :
    Sorted (entries.mapValues f) := by
  unfold Entries.mapValues Sorted
  rw [List.pairwise_map]
  exact hs

theorem mapValues_insert (f : α → β) (name : String) (value : α) (entries : Entries α) :
    mapValues f (insert name value entries) = insert name (f value) (mapValues f entries) := by
  induction entries with
  | nil => rfl
  | cons entry rest ih =>
    obtain ⟨key, old⟩ := entry
    unfold mapValues at ih ⊢
    by_cases hlt : name < key
    · simp [insert, hlt]
    · by_cases heq : name = key
      · simp [insert, heq]
      · simp [insert, hlt, heq, ih]

/-- Values may be replaced before or after the entries are put together. -/
theorem mapValues_insertAll (f : α → β) (entries base : Entries α) :
    mapValues f (insertAll entries base) = insertAll (mapValues f entries) (mapValues f base) := by
  unfold insertAll
  induction entries generalizing base with
  | nil => rfl
  | cons entry rest ih =>
    rw [List.foldl_cons, ih, mapValues_insert]
    rfl

/-- A new key goes between the others, which stay as they are. -/
theorem insert_perm {name : String} {entries : Entries α} (h : name ∉ entries.keys) (value : α) :
    (insert name value entries).Perm ((name, value) :: entries) := by
  induction entries with
  | nil => exact .refl _
  | cons entry rest ih =>
    obtain ⟨key, old⟩ := entry
    obtain ⟨hne, hrest⟩ : name ≠ key ∧ name ∉ keys rest := by simpa [keys] using h
    unfold insert
    split
    · exact .refl _
    · exact ((ih hrest).cons _).trans (.swap _ _ _)

/-- Entries without a repeated key are put in order, and that is all. -/
theorem insertAll_perm {entries base : Entries α} (h : (keys (entries ++ base)).Nodup) :
    (insertAll entries base).Perm (entries ++ base) := by
  unfold insertAll
  induction entries generalizing base with
  | nil => exact .refl _
  | cons entry rest ih =>
    have hmid : (rest ++ (entry :: base)).Perm (entry :: rest ++ base) := List.perm_middle
    have hnew : entry.1 ∉ keys base := by
      have hothers : entry.1 ∉ keys (rest ++ base) := (List.nodup_cons.1 h).1
      rw [keys, List.map_append, List.mem_append] at hothers
      exact fun hmem => hothers (.inr hmem)
    have hinsert : (insert entry.1 entry.2 base).Perm (entry :: base) := insert_perm hnew entry.2
    have hperm : (rest ++ insert entry.1 entry.2 base).Perm (entry :: rest ++ base) :=
      (hinsert.append_left rest).trans hmid
    exact (ih ((hperm.map _).nodup_iff.2 h)).trans hperm

theorem insert_ne_nil (name : String) (value : α) (entries : Entries α) :
    insert name value entries ≠ [] := by
  cases entries with
  | nil => exact List.cons_ne_nil _ _
  | cons entry rest =>
    unfold insert
    split
    · exact List.cons_ne_nil _ _
    · split <;> exact List.cons_ne_nil _ _

theorem insertAll_ne_nil (entries : Entries α) {base : Entries α} (h : base ≠ []) :
    insertAll entries base ≠ [] := by
  unfold insertAll
  induction entries generalizing base with
  | nil => exact h
  | cons entry rest ih => exact ih (insert_ne_nil _ _ _)

/-- Only from no entries nothing is put together. -/
theorem insertAll_eq_nil_iff {entries : Entries α} : insertAll entries [] = [] ↔ entries = [] := by
  cases entries with
  | nil => exact ⟨fun _ => rfl, fun _ => rfl⟩
  | cons entry rest =>
    have hsome := insertAll_ne_nil rest (insert_ne_nil entry.1 entry.2 [])
    exact ⟨fun h => absurd h hsome, fun h => absurd h (List.cons_ne_nil _ _)⟩

end Entries

namespace Json

theorem canonicalItems_eq_map (items : List Json) : canonicalItems items = items.map canonical := by
  induction items with
  | nil => rfl
  | cons item rest ih => rw [canonicalItems, List.map_cons, ih]

theorem canonicalMembers_eq_mapValues (members : List (String × Json)) :
    canonicalMembers members = Entries.mapValues canonical members := by
  induction members with
  | nil => rfl
  | cons member rest ih =>
    rw [canonicalMembers, ih]
    rfl

theorem canonical_object (members : List (String × Json)) :
    (object members).canonical =
      .object (Entries.insertAll (Entries.mapValues canonical members) []) := by
  rw [canonical, canonicalMembers_eq_mapValues]

mutual

/-- A sorted value is its own canonical form. -/
theorem canonical_of_sorted : ∀ {v : Json}, v.Sorted → v.canonical = v
  | .null, _ | .bool _, _ | .number _, _ | .string _, _ => rfl
  | .array items, h => by
    rw [Sorted] at h
    rw [canonical, canonicalItems_of_sorted h]
  | .object members, h => by
    rw [Sorted] at h
    rw [canonical, canonicalMembers_of_sorted h.2]
    exact congrArg Json.object (Entries.insertAll_of_sorted (by simpa using h.1))

theorem canonicalItems_of_sorted : ∀ {items : List Json}, SortedItems items →
    canonicalItems items = items
  | [], _ => rfl
  | _ :: _, h => by
    rw [SortedItems] at h
    rw [canonicalItems, canonical_of_sorted h.1, canonicalItems_of_sorted h.2]

theorem canonicalMembers_of_sorted : ∀ {members : List (String × Json)}, SortedMembers members →
    canonicalMembers members = members
  | [], _ => rfl
  | (_, _) :: _, h => by
    rw [SortedMembers] at h
    rw [canonicalMembers, canonical_of_sorted h.1, canonicalMembers_of_sorted h.2]

end

end Json

end SchemaNodes

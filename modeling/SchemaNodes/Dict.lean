/-!
# Dictionaries in name order

Values under distinct strings, kept in ascending order of their keys (the order of the code points,
which is also the order of the UTF-8 bytes). `Entries` is the bare list, for the places where the
values are themselves trees; `Dict` carries the proof that the keys ascend.

Main statements: `Entries.Sorted.insert` (insertion keeps the order), `Entries.find?_insert` (what a
look-up sees after an insertion), `Dict.ext_find?` (a dictionary is its look-up function).
-/

namespace SchemaNodes

universe u v

/-- Values under string keys, as a list. -/
abbrev Entries (α : Type u) := List (String × α)

namespace Entries

variable {α : Type u} {β : Type v}

/-- The value of the first entry under `name`. -/
def find? (name : String) : Entries α → Option α
  | [] => none
  | (key, value) :: rest => if key = name then some value else find? name rest

/-- Puts `value` under `name`, in place of the value there or at the position its key has in the
order. -/
def insert (name : String) (value : α) : Entries α → Entries α
  | [] => [(name, value)]
  | (key, old) :: rest =>
    if name < key then (name, value) :: (key, old) :: rest
    else if name = key then (name, value) :: rest
    else (key, old) :: insert name value rest

/-- The keys, in the order of the list. -/
def keys (entries : Entries α) : List String := entries.map (·.1)

/-- The keys ascend, so they are distinct. -/
def Sorted (entries : Entries α) : Prop := entries.Pairwise fun a b => a.1 < b.1

/-- Every entry of `entries` put into `base`, in turn: the last of several under one key stays. -/
def insertAll (entries base : Entries α) : Entries α :=
  entries.foldl (fun acc entry => acc.insert entry.1 entry.2) base

instance : Decidable (Sorted (α := α) entries) :=
  inferInstanceAs (Decidable (List.Pairwise _ _))

/-! ## Look-ups -/

@[simp] theorem find?_nil (name : String) : find? name ([] : Entries α) = none := rfl

theorem find?_cons (name key : String) (value : α) (rest : Entries α) :
    find? name ((key, value) :: rest) = if key = name then some value else find? name rest := rfl

theorem mem_of_find? {name : String} {value : α} {entries : Entries α}
    (h : find? name entries = some value) : (name, value) ∈ entries := by
  induction entries with
  | nil => simp at h
  | cons entry rest ih =>
    obtain ⟨key, old⟩ := entry
    rw [find?_cons] at h
    split at h
    · next heq => simp_all
    · exact List.mem_cons_of_mem _ (ih h)

theorem find?_eq_none_iff {name : String} {entries : Entries α} :
    find? name entries = none ↔ name ∉ entries.keys := by
  induction entries with
  | nil => simp [keys]
  | cons entry rest ih =>
    obtain ⟨key, old⟩ := entry
    rw [find?_cons]
    by_cases h : key = name
    · simp [h, keys]
    · simp only [h, if_false, ih]
      simp [keys, Ne.symm h]

theorem Sorted.tail {entry : String × α} {rest : Entries α} (h : Sorted (entry :: rest)) :
    Sorted rest := (List.pairwise_cons.1 h).2

theorem Sorted.head_lt {entry : String × α} {rest : Entries α} (h : Sorted (entry :: rest)) :
    ∀ e ∈ rest, entry.1 < e.1 := (List.pairwise_cons.1 h).1

/-- In a sorted list an entry is what its key leads to. -/
theorem Sorted.find?_of_mem {name : String} {value : α} {entries : Entries α}
    (hs : Sorted entries) (h : (name, value) ∈ entries) : find? name entries = some value := by
  induction entries with
  | nil => simp at h
  | cons entry rest ih =>
    obtain ⟨key, old⟩ := entry
    rw [find?_cons]
    rcases List.mem_cons.1 h with heq | hmem
    · cases heq; simp
    · have hlt : key < name := hs.head_lt _ hmem
      have hne : key ≠ name := fun e => String.lt_irrefl name (e ▸ hlt)
      simp only [hne, if_false]
      exact ih hs.tail hmem

/-! ## Insertion -/

/-- After an insertion the key leads to the new value, and every other key leads where it led. -/
theorem find?_insert (name other : String) (value : α) (entries : Entries α) :
    find? other (insert name value entries) =
      if other = name then some value else find? other entries := by
  induction entries with
  | nil => by_cases h : name = other <;> simp [insert, find?_cons, h, eq_comm]
  | cons entry rest ih =>
    obtain ⟨key, old⟩ := entry
    unfold insert
    split
    · by_cases h : name = other <;> simp [find?_cons, h, eq_comm]
    · split
      · next heq =>
        subst heq
        by_cases h : name = other <;> simp [find?_cons, h, eq_comm]
      · next hne =>
        rw [find?_cons, ih, find?_cons]
        by_cases hk : key = other
        · subst hk; simp [Ne.symm hne]
        · simp [hk]

theorem mem_insert {name : String} {value : α} {entries : Entries α} {entry : String × α}
    (h : entry ∈ insert name value entries) : entry = (name, value) ∨ entry ∈ entries := by
  induction entries with
  | nil => exact .inl (by simpa [insert] using h)
  | cons first rest ih =>
    obtain ⟨key, old⟩ := first
    unfold insert at h
    split at h
    · rcases List.mem_cons.1 h with rfl | h
      · exact .inl rfl
      · exact .inr h
    · split at h
      · rcases List.mem_cons.1 h with rfl | h
        · exact .inl rfl
        · exact .inr (List.mem_cons_of_mem _ h)
      · rcases List.mem_cons.1 h with rfl | h
        · exact .inr List.mem_cons_self
        · rcases ih h with rfl | h
          · exact .inl rfl
          · exact .inr (List.mem_cons_of_mem _ h)

private theorem lt_of_not_lt_of_ne {a b : String} (h : ¬ a < b) (hne : a ≠ b) : b < a :=
  (String.le_total a b).elim
    (fun hab => absurd (String.le_antisymm hab (String.not_lt.1 h)) hne)
    fun hba => Decidable.byContradiction fun hn =>
      hne (String.le_antisymm (String.not_lt.1 hn) hba)

/-- Insertion keeps the order of the keys. -/
theorem Sorted.insert {entries : Entries α} (hs : Sorted entries) (name : String) (value : α) :
    Sorted (Entries.insert name value entries) := by
  induction entries with
  | nil => simp [Entries.insert, Sorted]
  | cons entry rest ih =>
    obtain ⟨key, old⟩ := entry
    have hrest := hs.tail
    have hlt := hs.head_lt
    unfold Entries.insert
    split
    · next h =>
      refine List.pairwise_cons.2 ⟨?_, hs⟩
      intro e he
      rcases List.mem_cons.1 he with rfl | he
      · exact h
      · exact String.lt_trans h (hlt e he)
    · next h =>
      split
      · next heq =>
        subst heq
        exact List.pairwise_cons.2 ⟨hlt, hrest⟩
      · next hne =>
        refine List.pairwise_cons.2 ⟨?_, ih hrest⟩
        intro e he
        rcases mem_insert he with rfl | he
        · exact lt_of_not_lt_of_ne h hne
        · exact hlt e he

theorem Sorted.insertAll {base : Entries α} (hs : Sorted base) (entries : Entries α) :
    Sorted (Entries.insertAll entries base) := by
  unfold Entries.insertAll
  induction entries generalizing base with
  | nil => exact hs
  | cons entry rest ih => exact ih (hs.insert entry.1 entry.2)

/-- A key that comes after all others goes to the end. -/
theorem insert_of_forall_lt {entries : Entries α} {name : String}
    (hlt : ∀ entry ∈ entries, entry.1 < name) (value : α) :
    insert name value entries = entries ++ [(name, value)] := by
  induction entries with
  | nil => rfl
  | cons entry rest ih =>
    obtain ⟨key, old⟩ := entry
    obtain ⟨hhead, hrest⟩ := List.forall_mem_cons.1 hlt
    have hafter : ¬ name < key := fun h => String.lt_irrefl name (String.lt_trans h hhead)
    have hne : name ≠ key := fun h => String.lt_irrefl key (h ▸ hhead)
    rw [insert, if_neg hafter, if_neg hne, ih hrest, List.cons_append]

/-- Entries that are in order are put in as they are. -/
theorem insertAll_of_sorted {base entries : Entries α} (hs : Sorted (base ++ entries)) :
    insertAll entries base = base ++ entries := by
  induction entries generalizing base with
  | nil => simp [insertAll]
  | cons entry rest ih =>
    have hlt : ∀ e ∈ base, e.1 < entry.1 := fun e he =>
      (List.pairwise_append.1 hs).2.2 e he entry List.mem_cons_self
    have hsnoc : base ++ entry :: rest = (base ++ [entry]) ++ rest := by simp
    rw [insertAll, List.foldl_cons, insert_of_forall_lt hlt, hsnoc]
    exact ih (hsnoc ▸ hs)

/-- Of two insertions under one key the later counts. -/
theorem insert_insert (name : String) (first second : α) (entries : Entries α) :
    insert name second (insert name first entries) = insert name second entries := by
  induction entries with
  | nil => simp [insert]
  | cons entry rest ih =>
    obtain ⟨key, old⟩ := entry
    by_cases hlt : name < key
    · simp [insert, hlt]
    · by_cases heq : name = key
      · simp [insert, heq]
      · simp only [insert, hlt, heq, if_false, ih]

/-- The keys of a sorted list are distinct. -/
theorem Sorted.nodup_keys {entries : Entries α} (hs : Sorted entries) : entries.keys.Nodup := by
  refine List.pairwise_map.2 (hs.imp ?_)
  intro a b hab heq
  exact String.lt_irrefl b.1 (heq ▸ hab)

/-- Sorted lists with the same look-ups are the same list. -/
theorem Sorted.ext {a b : Entries α} (ha : Sorted a) (hb : Sorted b)
    (h : ∀ name, find? name a = find? name b) : a = b := by
  induction a generalizing b with
  | nil =>
    cases b with
    | nil => rfl
    | cons entry rest =>
      have := h entry.1
      simp [find?] at this
  | cons x xs ih =>
    obtain ⟨k, v⟩ := x
    cases b with
    | nil => have := h k; simp [find?] at this
    | cons y ys =>
      obtain ⟨l, w⟩ := y
      have notLater : ∀ {m : String} {c : α} {zs : Entries α}, Sorted ((m, c) :: zs) →
          ∀ n, n < m → find? n ((m, c) :: zs) = none := by
        intro m c zs hz n hn
        rw [find?_eq_none_iff]
        intro hmem
        obtain ⟨e, he, rfl⟩ := List.mem_map.1 hmem
        rcases List.mem_cons.1 he with rfl | he
        · exact String.lt_irrefl _ hn
        · exact String.lt_irrefl _ (String.lt_trans hn (hz.head_lt e he))
      have hkl : k = l := by
        refine Decidable.byContradiction fun hne => ?_
        by_cases hlt : k < l
        · have := h k
          rw [notLater hb k hlt] at this
          simp [find?] at this
        · have hgt := lt_of_not_lt_of_ne hlt hne
          have := h l
          rw [notLater ha l hgt] at this
          simp [find?] at this
      subst hkl
      have hv : v = w := by simpa [find?] using h k
      subst hv
      congr 1
      refine ih ha.tail hb.tail fun n => ?_
      by_cases hn : k = n
      · subst hn
        rw [find?_eq_none_iff.2, find?_eq_none_iff.2]
        · intro hm
          obtain ⟨e, he, heq⟩ := List.mem_map.1 hm
          exact String.lt_irrefl k (by have := hb.head_lt e he; rwa [heq] at this)
        · intro hm
          obtain ⟨e, he, heq⟩ := List.mem_map.1 hm
          exact String.lt_irrefl k (by have := ha.head_lt e he; rwa [heq] at this)
      · simpa [find?, hn] using h n

end Entries

/-- Values under distinct strings, in ascending order of the keys. -/
structure Dict (α : Type u) where
  /-- The keys with their values. -/
  entries : Entries α
  /-- The keys ascend. -/
  sorted : entries.Sorted

namespace Dict

variable {α : Type u} {β : Type v}

instance [DecidableEq α] : DecidableEq (Dict α) := fun a b =>
  decidable_of_iff (a.entries = b.entries)
    ⟨fun h => by cases a; cases b; cases h; rfl, fun h => h ▸ rfl⟩

/-- The dictionary without entries. -/
def empty : Dict α := ⟨[], List.Pairwise.nil⟩

instance : Inhabited (Dict α) := ⟨empty⟩

/-- The value under `name`. -/
def find? (dict : Dict α) (name : String) : Option α := dict.entries.find? name

/-- Whether there is a value under `name`. -/
def contains (dict : Dict α) (name : String) : Bool := (dict.find? name).isSome

/-- Puts `value` under `name`. -/
def insert (dict : Dict α) (name : String) (value : α) : Dict α :=
  ⟨dict.entries.insert name value, dict.sorted.insert name value⟩

/-- Removes the value under `name`. -/
def erase (dict : Dict α) (name : String) : Dict α :=
  ⟨dict.entries.filter fun entry => entry.1 ≠ name, dict.sorted.filter _⟩

/-- The dictionary of a list of entries, of which the last under each key stays. -/
def ofList (entries : Entries α) : Dict α :=
  ⟨Entries.insertAll entries [], Entries.Sorted.insertAll List.Pairwise.nil entries⟩

/-- The keys, in ascending order. -/
def keys (dict : Dict α) : List String := dict.entries.keys

/-- The number of entries. -/
def size (dict : Dict α) : Nat := dict.entries.length

/-- Whether there are no entries. -/
def isEmpty (dict : Dict α) : Bool := dict.entries.isEmpty

@[simp] theorem find?_empty (name : String) : (empty : Dict α).find? name = none := rfl

/-- What a look-up sees after an insertion. -/
theorem find?_insert (dict : Dict α) (name other : String) (value : α) :
    (dict.insert name value).find? other =
      if other = name then some value else dict.find? other :=
  Entries.find?_insert name other value dict.entries

/-- The entries are what the keys lead to. -/
theorem mem_entries_iff {dict : Dict α} {name : String} {value : α} :
    (name, value) ∈ dict.entries ↔ dict.find? name = some value :=
  ⟨dict.sorted.find?_of_mem, Entries.mem_of_find?⟩

/-- The keys are the names under which there is a value. -/
theorem mem_keys_iff {dict : Dict α} {name : String} :
    name ∈ dict.keys ↔ ∃ value, dict.find? name = some value := by
  constructor
  · intro h
    obtain ⟨⟨key, value⟩, hmem, rfl⟩ := List.mem_map.1 h
    exact ⟨value, mem_entries_iff.1 hmem⟩
  · rintro ⟨value, h⟩
    exact List.mem_map.2 ⟨(name, value), mem_entries_iff.2 h, rfl⟩

theorem contains_iff_mem_keys {dict : Dict α} {name : String} :
    dict.contains name = true ↔ name ∈ dict.keys := by
  rw [contains, Option.isSome_iff_exists, mem_keys_iff]

/-- A dictionary is made from its entries. -/
theorem ofList_entries (dict : Dict α) : ofList dict.entries = dict := by
  have hsorted : Entries.Sorted ([] ++ dict.entries) := dict.sorted
  have hentries : Entries.insertAll dict.entries [] = dict.entries :=
    Entries.insertAll_of_sorted hsorted
  cases dict
  simp only [ofList, hentries]

theorem eq_of_entries_eq {a b : Dict α} (h : a.entries = b.entries) : a = b := by
  cases a
  cases b
  cases h
  rfl

/-- The dictionary of a list is the list put into the empty dictionary, entry by entry. -/
theorem foldl_insert_eq_ofList (entries : Entries α) :
    entries.foldl (fun acc e => acc.insert e.1 e.2) empty = ofList entries := by
  have hentries : ∀ acc : Dict α, (entries.foldl (fun acc e => acc.insert e.1 e.2) acc).entries =
      Entries.insertAll entries acc.entries := by
    induction entries with
    | nil => exact fun _ => rfl
    | cons entry rest ih => exact fun acc => ih (acc.insert entry.1 entry.2)
  exact eq_of_entries_eq (hentries empty)

/-- A dictionary is its look-up function. -/
theorem ext_find? {a b : Dict α} (h : ∀ name, a.find? name = b.find? name) : a = b := by
  obtain ⟨as, hs⟩ := a
  obtain ⟨bs, hb⟩ := b
  have := Entries.Sorted.ext hs hb h
  subst this
  rfl

end Dict

end SchemaNodes

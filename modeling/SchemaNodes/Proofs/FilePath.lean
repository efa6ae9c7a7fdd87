import Mathlib.Data.List.Basic
import SchemaNodes.FilePath

/-!
# The last name of a path

A directory calls its entries by names that are single pieces of a path. Behind any base such a name
is the file name of the whole path, so the extension of a file is that of its own name.

* **`pieces_append_slash`**, **`pieces_of_no_slash`**: where a path is cut.
* **`fileName?_join`**, **`extension?_join`**: a path that ends in the name of an entry.
-/

namespace SchemaNodes.FilePath

/-- What the entries of a directory can be called. -/
structure IsEntryName (name : String) : Prop where
  ne_empty : name ≠ ""
  ne_current : name ≠ "."
  ne_parent : name ≠ ".."
  no_slash : '/' ∉ name.toList

instance (name : String) : Decidable (IsEntryName name) :=
  decidable_of_iff (name ≠ "" ∧ name ≠ "." ∧ name ≠ ".." ∧ '/' ∉ name.toList)
    ⟨fun ⟨h₁, h₂, h₃, h₄⟩ => ⟨h₁, h₂, h₃, h₄⟩,
      fun h => ⟨h.ne_empty, h.ne_current, h.ne_parent, h.no_slash⟩⟩

/-! ## Pieces -/

theorem pieces_slash (path : List Char) : pieces ('/' :: path) = [] :: pieces path := rfl

theorem pieces_ne_nil (path : List Char) : pieces path ≠ [] := by
  cases path with
  | nil => exact List.cons_ne_nil _ _
  | cons c rest =>
    rw [pieces, List.foldr_cons]
    split
    · exact List.cons_ne_nil _ _
    · split
      · exact List.cons_ne_nil _ _
      · exact List.cons_ne_nil _ _

/-- Any other character goes in front of the first piece behind it. -/
theorem pieces_cons {c : Char} (hc : c ≠ '/') {path first : List Char} {others : List (List Char)}
    (h : pieces path = first :: others) : pieces (c :: path) = (c :: first) :: others := by
  rw [pieces] at h ⊢
  rw [List.foldr_cons, if_neg hc, h]

theorem pieces_append_slash (front behind : List Char) :
    pieces (front ++ '/' :: behind) = pieces front ++ pieces behind := by
  induction front with
  | nil => exact pieces_slash behind
  | cons c front ih =>
    by_cases hc : c = '/'
    · subst hc
      rw [List.cons_append, pieces_slash, pieces_slash, ih, List.cons_append]
    · obtain ⟨first, others, hfront⟩ := List.exists_cons_of_ne_nil (pieces_ne_nil front)
      rw [hfront, List.cons_append] at ih
      rw [List.cons_append, pieces_cons hc ih, pieces_cons hc hfront, List.cons_append]

theorem pieces_of_no_slash {piece : List Char} (h : '/' ∉ piece) : pieces piece = [piece] := by
  induction piece with
  | nil => rfl
  | cons c piece ih =>
    rw [List.mem_cons, not_or] at h
    exact pieces_cons (Ne.symm h.1) (ih h.2)

/-! ## Names of entries -/

namespace IsEntryName

variable {name : String}

theorem component?_eq (h : IsEntryName name) (first : Bool) :
    component? first name.toList = some (.entry name) := by
  have hempty : name.toList ≠ [] := fun heq => h.ne_empty (String.toList_inj.1 heq)
  have hcurrent : name.toList ≠ ['.'] := fun heq => h.ne_current (String.toList_inj.1 heq)
  have hparent : name.toList ≠ ['.', '.'] := fun heq => h.ne_parent (String.toList_inj.1 heq)
  rw [component?, if_neg hempty, if_neg hcurrent, if_neg hparent, String.ofList_toList]

theorem not_isAbsolute (h : IsEntryName name) : isAbsolute name = false := by
  rw [isAbsolute]
  cases hname : name.toList with
  | nil => rfl
  | cons c rest =>
    have hc : c ≠ '/' := fun heq => h.no_slash (by simp [hname, heq])
    simpa using hc

/-- Behind a base the name is the path, or follows a slash. -/
theorem toList_join (h : IsEntryName name) (base : String) :
    join base name = name ∨ ∃ front, (join base name).toList = front ++ '/' :: name.toList := by
  rw [join, h.not_isAbsolute]
  by_cases hbase : base = ""
  · subst hbase
    exact .inl (by simp)
  · refine .inr ?_
    by_cases hslash : base.toList.getLast? = some '/'
    · obtain ⟨front, hfront⟩ := List.getLast?_eq_some_iff.1 hslash
      exact ⟨front, by simp [hfront, String.toList_append]⟩
    · exact ⟨base.toList, by simp [hslash, hbase, String.toList_append]⟩

end IsEntryName

/-- A path that ends in the name of an entry leads to that entry. -/
theorem fileName?_join {name : String} (h : IsEntryName name) (base : String) :
    fileName? (join base name) = some name := by
  have hpieces : pieces name.toList = [name.toList] := pieces_of_no_slash h.no_slash
  have hlast : (components (join base name)).getLast? = some (.entry name) := by
    rcases h.toList_join base with hjoin | ⟨front, hjoin⟩
    · rw [hjoin]
      simp [components, hpieces, h.not_isAbsolute, h.component?_eq]
    · obtain ⟨first, others, hfront⟩ := List.exists_cons_of_ne_nil (pieces_ne_nil front)
      have hsplit : pieces (join base name).toList = first :: (others ++ [name.toList]) := by
        rw [hjoin, pieces_append_slash, hpieces, hfront, List.cons_append]
      -- the name is the last of the pieces behind the first
      have htail : (others ++ [name.toList]).filterMap (component? false) =
          others.filterMap (component? false) ++ [.entry name] := by
        rw [List.filterMap_append]
        simp [h.component?_eq]
      simp only [components, hsplit, htail]
      split
      · rw [← List.cons_append, List.getLast?_concat]
      · rw [← List.append_assoc, List.getLast?_concat]
  rw [fileName?, hlast]

/-- The extension of a path that ends in the name of an entry is that of the name. -/
theorem extension?_join {name : String} (h : IsEntryName name) (base : String) :
    extension? (join base name) = extension? name := by
  have hname : fileName? name = some name := by
    have hjoin : join "" name = name := by simp [join, h.not_isAbsolute]
    rw [← hjoin, fileName?_join h, hjoin]
  rw [extension?, extension?, fileName?_join h, hname]

end SchemaNodes.FilePath

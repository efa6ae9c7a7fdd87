import SchemaNodes.Proofs.Json.Canonical
import SchemaNodes.Settings.Decode
import SchemaNodes.Settings.KeyPath

/-!
# Settings about callable names in a source

What comes of settings about callable names that a source spells out. Merging puts every key in
lower case, the singulars of irregular words included.

* **`toTextDict_table`**: a table of texts stands for a dictionary of texts.
* **`assignAll_leaves`**, **`mergeSource_namingSource`**: what merging makes of a table of leaves,
  and of the source.
* **`decode_namingSource`**: what is loaded from a source.
-/

namespace SchemaNodes

variable {origin? : Option String}

namespace NamingSettings

/-- A pair with its singular in lower case. -/
def lowerKey (pair : String × String) : String × String := (Text.lowercase pair.1, pair.2)

/-- The settings with the singulars of all irregular pairs in lower case. -/
def lowerKeys (settings : NamingSettings) : NamingSettings :=
  { settings with irregular := .ofList (settings.irregular.entries.map lowerKey) }

end NamingSettings

namespace Setting

/-- A text from a source. -/
def textFrom (origin? : Option String) (text : String) : Setting := .leaf origin? (.text text)

/-- A source that spells the settings about callable names out. -/
def namingSource (origin? : Option String) (settings : NamingSettings) : Entries Setting :=
  [("naming", .table origin? [
    ("case_aliases", .leaf origin? (.boolean settings.caseAliases)),
    ("irregular", .table origin? (settings.irregular.entries.mapValues (textFrom origin?))),
    ("uncountable", .list origin? (settings.uncountable.map (textFrom origin?)))])]

/-! ## Decoding -/

theorem textsFrom_map (index : Nat) (texts : List String) :
    textsFrom index (texts.map (textFrom origin?)) = .ok texts := by
  induction texts generalizing index with
  | nil => rfl
  | cons text rest ih =>
    rw [List.map_cons, textsFrom, ih]
    rfl

theorem toTextDict_table (entries : Entries String) (tableOrigin? : Option String) :
    (Setting.table tableOrigin? (entries.mapValues (textFrom origin?))).toTextDict =
      .ok (.ofList entries) := by
  have hfold : ∀ texts : Dict String,
      (entries.mapValues (textFrom origin?)).foldlM insertText texts =
        .ok (entries.foldl (fun acc entry => acc.insert entry.1 entry.2) texts) := by
    induction entries with
    | nil => exact fun _ => rfl
    | cons entry rest ih => exact fun texts => ih (texts.insert entry.1 entry.2)
  rw [toTextDict, hfold, Dict.foldl_insert_eq_ofList]

/-! ## Merging -/

/-- Leaves are put into a table one by one, each under its key in lower case. -/
theorem assignAll_leaves (entries : Entries String) (base : Entries Setting) :
    assignAll (entries.mapValues (textFrom origin?)) (.table none base) =
      .table none (Entries.insertAll
        (Entries.mapValues (textFrom origin?) (entries.map NamingSettings.lowerKey)) base) := by
  induction entries generalizing base with
  | nil => rfl
  | cons entry rest ih => exact ih (base.insert (Text.lowercase entry.1) (textFrom origin? entry.2))

/-- The irregular words of a merged table have their singulars in lower case. -/
theorem toTextDict_assignAll (settings : NamingSettings) :
    (assignAll (settings.irregular.entries.mapValues (textFrom origin?)) emptyTable).toTextDict =
      .ok settings.lowerKeys.irregular := by
  have hmerged : Entries.insertAll (Entries.mapValues (textFrom origin?)
      (settings.irregular.entries.map NamingSettings.lowerKey)) [] =
        settings.lowerKeys.irregular.entries.mapValues (textFrom origin?) :=
    (Entries.mapValues_insertAll _ _ []).symm
  rw [emptyTable, assignAll_leaves, hmerged, toTextDict_table, Dict.ofList_entries]

/-- The settings about callable names after merging. -/
def mergedNaming (origin? : Option String) (settings : NamingSettings) : Setting :=
  .table none [
    ("case_aliases", .leaf origin? (.boolean settings.caseAliases)),
    ("irregular",
      assignAll (settings.irregular.entries.mapValues (textFrom origin?)) emptyTable),
    ("uncountable", .list origin? (settings.uncountable.map (textFrom origin?)))]

theorem mergeSource_namingSource (settings : NamingSettings) :
    mergeSource (namingSource origin? settings) emptyTable =
      .table none [("naming", mergedNaming origin? settings)] := by
  have hpath : KeyStep.path "naming" = [.member "naming"] := by decide +kernel
  have hkeys : ∀ key ∈ ["naming", "case_aliases", "irregular", "uncountable"],
      Text.lowercase key = key := by
    decide +kernel
  simp only [List.forall_mem_cons] at hkeys
  -- the source has its members in the order of their keys, so each is put behind the others
  have horder : ¬ "irregular" < "case_aliases" ∧ "irregular" ≠ "case_aliases" ∧
      ¬ "uncountable" < "case_aliases" ∧ "uncountable" ≠ "case_aliases" ∧
        ¬ "uncountable" < "irregular" ∧ "uncountable" ≠ "irregular" := by
    decide
  simp only [mergeSource, namingSource, mergedNaming, List.foldl_cons, List.foldl_nil, hpath,
    assignAt, assign, assignAll, hkeys, emptyTable, putMember, member?, asTable, Entries.insert,
    Entries.find?, horder, horder.2.1.symm, if_false, Option.getD_none]

theorem toNamingSettings_mergedNaming (settings : NamingSettings) :
    (mergedNaming origin? settings).toNamingSettings = .ok settings.lowerKeys := by
  simp only [mergedNaming, toNamingSettings, toGroup, List.foldlM_cons, List.foldlM_nil, takeNaming,
    toBool, toTexts, toTextDict_assignAll, textsFrom_map]
  rfl

/-- Settings about callable names that a source spells out are loaded with the singulars of
irregular words in lower case, and otherwise as they are. -/
theorem decode_namingSource (settings : NamingSettings) :
    Settings.decode (emptyTable.mergeSource (namingSource origin? settings)) =
      .ok { Settings.default with naming := settings.lowerKeys } := by
  simp only [mergeSource_namingSource, Settings.decode, toGroup, List.foldlM_cons, List.foldlM_nil,
    takeGroup, toNamingSettings_mergedNaming]
  rfl

end Setting

end SchemaNodes

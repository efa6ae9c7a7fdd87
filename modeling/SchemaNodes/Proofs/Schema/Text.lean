import SchemaNodes.Proofs.Json.Writing
import SchemaNodes.Proofs.Schema.Grammar
import SchemaNodes.Schema.JsonText

/-!
# Reading a document from its text

`Document.ofJsonText` never builds the value that the text spells: it descends into the parts it
wants and skips the others. It agrees all the same with `Document.ofJson?` on that value, as long as
no key of the document is given twice. Each reader of the descent is shown to decode: it succeeds
exactly where the spelled value can be decoded, and ends behind it.

* **`Cursor.Decodes`**, **`decodes_judged`**, **`decodes_dict`**: the readers of values and of
  objects, from the readers of their entries.
* **`membersOfText_eq_ok_iff`**, **`itemsOfText_eq_ok_iff`**: the two forms of a document.
* **`Document.ofJsonText_eq_ok_iff`**: the reader of texts against the reader of values.
-/

namespace SchemaNodes

open Json

/-! ## The nesting of what a document holds

A value that is judged must be read whole first, so its nesting has to be within the depth that is
left where it stands. What a document can hold there is never nested that deeply. -/

namespace Json

theorem nestingOfMembers_le_iff {members : List (String × Json)} {n : Nat} :
    nestingOfMembers members ≤ n ↔ ∀ member ∈ members, member.2.nesting ≤ n := by
  induction members with
  | nil => simp [nestingOfMembers]
  | cons member rest ih => rw [nestingOfMembers, Nat.max_le, ih, List.forall_mem_cons]

theorem nesting_objectOf_le {p : Json → Prop} {n : Nat} (hp : ∀ v, p v → v.nesting ≤ n) {v : Json}
    (h : ObjectOf p v) : v.nesting ≤ n + 1 := by
  obtain ⟨members, rfl, hmembers⟩ := h
  have hle := nestingOfMembers_le_iff.2 fun member hmem => hp _ (hmembers member hmem)
  rw [nesting]
  omega

theorem nesting_strings (texts : List String) : nestingOfItems (texts.map .string) = 0 := by
  induction texts with
  | nil => rfl
  | cons text rest ih => simp [nestingOfItems, nesting, ih]

theorem IsAttributeType.nesting_le {v : Json} (h : v.IsAttributeType) : v.nesting ≤ 1 := by
  rcases h with ⟨type, rfl⟩ | ⟨element, rfl⟩
  · simp [nesting]
  · simp [nesting, nestingOfItems]

theorem IsTypeDefinition.nesting_le {v : Json} (h : v.IsTypeDefinition) : v.nesting ≤ 2 := by
  rcases h with ⟨name, rfl⟩ | hrecord
  · simp [nesting]
  · exact nesting_objectOf_le (fun _ => IsAttributeType.nesting_le) hrecord

theorem IsResourceUse.nesting_le {v : Json} (h : v.IsResourceUse) : v.nesting ≤ 1 := by
  rcases h with ⟨type, rfl⟩ | ⟨types, rfl⟩
  · simp [nesting]
  · simp [nesting, nesting_strings]

end Json

namespace Json.Cursor

variable {α : Type} {cur behind : Cursor}

/-! ## Readers of values and of objects -/

/-- Where the text spells a value, the reader succeeds if and only if the value can be decoded, and
then it returns what the value is decoded as and ends behind the value. -/
def Decodes (read : Cursor → Except ReadError (α × Cursor)) (decode : Json → Option α) : Prop :=
  ∀ cur v behind, Spells cur v behind → ∀ a after,
    read cur = .ok (a, after) ↔ decode v = some a ∧ behind = after

/-- Reading a spelled value and going on is decoding it and going on behind it. -/
theorem Decodes.bind_eq_ok_iff {read : Cursor → Except ReadError (α × Cursor)}
    {decode : Json → Option α} (h : Decodes read decode) {v : Json} (hspelled : Spells cur v behind)
    {β : Type} {rest : α × Cursor → Except ReadError β} {b : β} :
    read cur >>= rest = .ok b ↔ ∃ a, decode v = some a ∧ rest (a, behind) = .ok b := by
  rw [SchemaNodes.bind_eq_ok_iff]
  constructor
  · rintro ⟨⟨a, after⟩, hread, hrest⟩
    obtain ⟨hdecode, rfl⟩ := (h _ _ _ hspelled a after).1 hread
    exact ⟨a, hdecode, hrest⟩
  · rintro ⟨a, hdecode, hrest⟩
    exact ⟨(a, behind), (h _ _ _ hspelled a behind).2 ⟨hdecode, rfl⟩, hrest⟩

theorem decodes_judged (name : String) (judge : Json → Option α) {depth : Nat}
    (hnesting : ∀ v a, judge v = some a → v.nesting < depth) :
    Decodes (judged name judge depth) judge := by
  intro cur v behind hspelled a after
  rw [judged, SchemaNodes.bind_eq_ok_iff]
  constructor
  · rintro ⟨⟨w, after'⟩, hvalue, h⟩
    obtain ⟨rfl, rfl⟩ := hspelled.unique (spells_of_valueWith hvalue)
    cases hjudge : judge v with
    | none => simp [hjudge, misfit, error] at h
    | some b => simpa [hjudge, pure, Except.pure] using h
  · rintro ⟨hjudge, rfl⟩
    refine ⟨(v, behind), hspelled.value depth (hnesting v a hjudge), ?_⟩
    simp [hjudge, pure, Except.pure]

theorem unexpected_ne_ok (cur : Cursor) (expected : String) (a : α) :
    cur.unexpected expected ≠ .ok a := by
  intro h
  unfold unexpected at h
  split at h
  · simp [error] at h
  · simp [error] at h
  · obtain ⟨_, -, herror⟩ := bind_eq_ok_iff.1 h
    simp [error] at herror

/-- What the members are decoded as is put into the dictionary one after the other. -/
theorem dictMembers_eq_ok_iff {entry : Nat → Cursor → Except ReadError (α × Cursor)} {depth : Nat}
    {decode : Json → Option α} (h : Decodes (entry depth) decode)
    {members : List (String × Json)} {cur : Cursor} {first : Bool} {behind : Cursor}
    (hspelled : SpellsMembers cur first members behind) (fuel : Nat) (acc dict : Dict α)
    (after : Cursor) (hfuel : members.length < fuel) :
    dictMembers entry depth fuel cur first acc = .ok (dict, after) ↔
      (∃ entries : Entries α, List.Forall₂ (ReadAs decode) members entries ∧
        entries.foldl (fun acc e => acc.insert e.1 e.2) acc = dict) ∧ behind = after := by
  induction members generalizing cur first fuel acc with
  | nil =>
    obtain ⟨fuel, rfl⟩ : ∃ n, fuel = n + 1 := ⟨fuel - 1, by omega⟩
    cases hspelled with
    | nil ends =>
      rw [dictMembers, ends]
      simp [bind, Except.bind, pure, Except.pure]
  | cons member members ih =>
    obtain ⟨fuel, rfl⟩ : ∃ n, fuel = n + 1 := ⟨fuel - 1, by omega⟩
    rw [List.length_cons] at hfuel
    cases hspelled with
    | @cons _ _ key colon value mid _ name v _ found keyed marked head tail =>
      rw [dictMembers]
      simp only [found, keyed, marked, ok_bind, if_true]
      rw [h.bind_eq_ok_iff head]
      constructor
      · rintro ⟨a, hdecode, hrest⟩
        obtain ⟨⟨entries, hentries, hdict⟩, hafter⟩ := (ih tail fuel _ (by omega)).1 hrest
        exact ⟨⟨(name, a) :: entries, .cons ⟨rfl, hdecode⟩ hentries, hdict⟩, hafter⟩
      · rintro ⟨⟨entries, hentries, hdict⟩, hafter⟩
        obtain ⟨⟨_, a⟩, rest, ⟨rfl, hdecode⟩, hrest, rfl⟩ := List.forall₂_cons_left_iff.1 hentries
        exact ⟨a, hdecode, (ih tail fuel _ (by omega)).2 ⟨⟨rest, hrest, hdict⟩, hafter⟩⟩

/-- What is not an object is refused, with a complaint that depends on what it is. -/
theorem dict_ne_ok {entry : Nat → Cursor → Except ReadError (α × Cursor)} {depth : Nat}
    (h : ∀ more, cur.skipBlanks.rest ≠ '\x7b' :: more) (read : Dict α × Cursor) :
    dict entry depth cur ≠ .ok read := by
  intro hread
  unfold dict at hread
  simp only at hread
  split at hread
  · simp [peekError] at hread
  · next more hrest => exact h more hrest
  · exact unexpected_ne_ok _ _ _ hread

theorem ofJson?_ne_some {decode : Json → Option α} {v : Json} (h : ∀ members, v ≠ .object members)
    (dict : Dict α) : Dict.ofJson? decode v ≠ some dict := by
  intro hread
  obtain ⟨members, -, rfl, -⟩ := Dict.ofJson?_eq_some_iff.1 hread
  exact h members rfl

/-- A reader of objects decodes if its reader of values does. -/
theorem decodes_dict {entry : Nat → Cursor → Except ReadError (α × Cursor)}
    {decode : Json → Option α} {depth : Nat} (hdepth : 1 < depth)
    (h : Decodes (entry (depth - 1)) decode) :
    Decodes (dict entry depth) (Dict.ofJson? decode) := by
  intro cur v behind hspelled a after
  cases hspelled with
  | scalar token =>
    have hbrace := fun more => (scalar_ne_bracket token more).2
    simp [dict_ne_ok hbrace, ofJson?_ne_some (scalar_ne_object token).2]
  | array bracket spelled =>
    have hbrace : ∀ more, cur.skipBlanks.rest ≠ '\x7b' :: more := by simp [bracket]
    simp [dict_ne_ok hbrace, Dict.ofJson?]
  | @object _ _ members _ brace spelled =>
    have hread : dict entry depth cur = dictMembers entry (depth - 1) cur.skipBlanks.fuel
        cur.skipBlanks.next true .empty := by
      simp only [dict, brace, if_neg (Nat.not_le.2 hdepth)]
    rw [hread, dictMembers_eq_ok_iff h spelled _ _ _ _ spelled.length_members_lt_fuel,
      Dict.ofJson?_eq_some_iff]
    simp only [Dict.foldl_insert_eq_ofList, Json.object.injEq]
    constructor
    · rintro ⟨⟨entries, hentries, hdict⟩, hafter⟩
      exact ⟨⟨members, entries, rfl, hentries, hdict⟩, hafter⟩
    · rintro ⟨⟨_, entries, rfl, hentries, hdict⟩, hafter⟩
      exact ⟨⟨entries, hentries, hdict⟩, hafter⟩

theorem decodes_typesPart {depth : Nat} (h : 3 < depth) :
    Decodes (typesPart depth) Schema.ofJson? := by
  refine decodes_dict (by omega) (decodes_judged _ _ ?_)
  intro v a hread
  have hle := ((reads_typeDefinition.exists_iff v).1 ⟨a, hread⟩).nesting_le
  omega

theorem decodes_resourcesPart {depth : Nat} (h : 4 < depth) :
    Decodes (resourcesPart depth) Resources.ofJson? := by
  refine decodes_dict (by omega) (decodes_dict (by omega) (decodes_dict (by omega)
    (decodes_judged _ _ ?_)))
  intro v a hread
  have hle := ((reads_resourceUse.exists_iff v).1 ⟨a, hread⟩).nesting_le
  omega

end Json.Cursor

namespace Document

open Json.Cursor

variable {cur behind : Cursor}

/-! ## Documents -/

/-- The parts when members are taken in one after the other. A part that is given twice is refused,
and what stands under other keys is of no concern. -/
def Parts.take (parts : Parts) : List (String × Json) → Option Parts
  | [] => some parts
  | (name, v) :: rest =>
    if name = "Types" then
      if parts.types?.isSome then none
      else (Schema.ofJson? v).bind fun types => take { parts with types? := some types } rest
    else if name = "Resources" then
      if parts.resources?.isSome then none
      else (Resources.ofJson? v).bind fun resources =>
        take { parts with resources? := some resources } rest
    else take parts rest

/-- The members are taken in as the text gives them. -/
theorem membersOfText_eq_ok_iff {depth : Nat} (hdepth : 4 < depth) {members : List (String × Json)}
    {cur : Cursor} {first : Bool} {behind : Cursor}
    (hspelled : SpellsMembers cur first members behind) (fuel : Nat) (parts : Parts) (d : Document)
    (after : Cursor) (hfuel : members.length < fuel) :
    membersOfText depth fuel cur first parts = .ok (d, after) ↔
      (parts.take members).map Parts.document = some d ∧ behind = after := by
  induction members generalizing cur first fuel parts with
  | nil =>
    obtain ⟨fuel, rfl⟩ : ∃ n, fuel = n + 1 := ⟨fuel - 1, by omega⟩
    cases hspelled with
    | nil ends =>
      rw [membersOfText, ends]
      simp [bind, Except.bind, pure, Except.pure, Parts.take]
  | cons member members ih =>
    obtain ⟨fuel, rfl⟩ : ∃ n, fuel = n + 1 := ⟨fuel - 1, by omega⟩
    rw [List.length_cons] at hfuel
    cases hspelled with
    | @cons _ _ key colon value mid _ name v _ found keyed marked head tail =>
      have hrest := fun parts => ih tail fuel parts (by omega)
      rw [membersOfText, Parts.take]
      simp only [found, keyed, marked, ok_bind, if_true]
      split
      · next hname =>
        rw [if_pos rfl]
        split
        · simp [misfit, error]
        · rw [(decodes_typesPart (by omega)).bind_eq_ok_iff head]
          simp only [hrest, Option.map_bind, Option.bind_eq_some_iff, Function.comp, ← and_assoc,
            exists_and_right]
      · have hne : "Resources" ≠ "Types" := by decide
        rw [if_neg hne, if_pos rfl]
        split
        · simp [misfit, error]
        · rw [(decodes_resourcesPart hdepth).bind_eq_ok_iff head]
          simp only [hrest, Option.map_bind, Option.bind_eq_some_iff, Function.comp, ← and_assoc,
            exists_and_right]
      · next htypes hresources =>
        -- what is skipped here is spelled, so it is passed to its end
        rw [if_neg htypes, if_neg hresources, head.skipValue, ok_bind, hrest]

/-- A part that is missing in the rest of a document is what it was before. -/
def Parts.rest {α : Type} (read : Json → Option (Dict α)) (given? : Option (Dict α)) :
    Option Json → Option (Dict α)
  | none => some (given?.getD .empty)
  | some v => read v

theorem Parts.rest_none {α : Type} (read : Json → Option (Dict α)) (found? : Option Json) :
    Parts.rest read none found? = part read found? := by
  cases found? <;> rfl

/-- Where no key is repeated, taking the members in one after the other is looking the parts up. -/
theorem Parts.take_eq (parts : Parts) {members : List (String × Json)}
    (hkeys : (Entries.keys members).Nodup)
    (htypes : parts.types?.isSome → Entries.find? "Types" members = none)
    (hresources : parts.resources?.isSome → Entries.find? "Resources" members = none)
    (d : Document) :
    (parts.take members).map Parts.document = some d ↔
      Parts.rest Schema.ofJson? parts.types? (Entries.find? "Types" members) = some d.types ∧
      Parts.rest Resources.ofJson? parts.resources? (Entries.find? "Resources" members) =
        some d.resources := by
  induction members generalizing parts with
  | nil =>
    obtain ⟨types, resources⟩ := d
    simp [Parts.take, Parts.document, Parts.rest]
  | cons member members ih =>
    obtain ⟨name, v⟩ := member
    obtain ⟨hnew, hothers⟩ := List.nodup_cons.1 hkeys
    have hfresh : Entries.find? name members = none := Entries.find?_eq_none_iff.2 hnew
    rw [Parts.take]
    split
    · next hname =>
      subst hname
      have hother : "Types" ≠ "Resources" := by decide
      simp only [Entries.find?_cons, if_true, if_neg hother] at htypes hresources ⊢
      -- the part cannot have been given before
      have hgiven : ¬ parts.types?.isSome = true := fun h => by simpa using htypes h
      have hrest := fun types =>
        ih ⟨some types, parts.resources?⟩ hothers (fun _ => hfresh) hresources
      rw [if_neg hgiven]
      simp only [Option.map_bind, Option.bind_eq_some_iff, Function.comp, hrest, hfresh, Parts.rest]
      constructor
      · rintro ⟨types, hread, htypes, hresources⟩
        exact ⟨hread.trans htypes, hresources⟩
      · rintro ⟨hread, hresources⟩
        exact ⟨d.types, hread, rfl, hresources⟩
    · next htypesName =>
      split
      · next hname =>
        subst hname
        simp only [Entries.find?_cons, if_true, if_neg htypesName] at htypes hresources ⊢
        have hgiven : ¬ parts.resources?.isSome = true := fun h => by simpa using hresources h
        have hrest := fun resources =>
          ih ⟨parts.types?, some resources⟩ hothers htypes (fun _ => hfresh)
        rw [if_neg hgiven]
        simp only [Option.map_bind, Option.bind_eq_some_iff, Function.comp, hrest, hfresh,
          Parts.rest]
        constructor
        · rintro ⟨resources, hread, htypes, hresources⟩
          exact ⟨htypes, hread.trans hresources⟩
        · rintro ⟨htypes, hread⟩
          exact ⟨d.resources, hread, htypes, rfl⟩
      · next hresourcesName =>
        simp only [Entries.find?_cons, if_neg htypesName, if_neg hresourcesName]
          at htypes hresources ⊢
        exact ih parts hothers htypes hresources

theorem endOfArray_of_end {bracket : Cursor} (h : cur.nextItem? false = .ok (false, bracket)) :
    endOfArray cur = .ok bracket.next := by
  obtain ⟨rfl, more, hrest⟩ := nextItem?_end h
  simp only [endOfArray, hrest]

theorem endOfArray_of_more {item : Cursor} (h : cur.nextItem? false = .ok (true, item))
    (after : Cursor) : endOfArray cur ≠ .ok after := by
  obtain ⟨-, more, hrest⟩ := nextItem?_later h
  simp [endOfArray, hrest, peekError]

/-- The items are the parts in their order, and there are at most two. -/
theorem itemsOfText_eq_ok_iff {depth : Nat} (hdepth : 4 < depth) {items : List Json}
    (hspelled : SpellsItems cur true items behind) (d : Document) (after : Cursor) :
    itemsOfText depth cur = .ok (d, after) ↔ ofJson? (.array items) = some d ∧ behind = after := by
  have htypes := decodes_typesPart (by omega : 3 < depth)
  have hresources := decodes_resourcesPart hdepth
  rw [itemsOfText]
  cases hspelled with
  | nil ends =>
    simp [ends, ok_bind, ofJson?, part, pure, Except.pure]
  | @cons _ _ _ v _ _ _ found head tail =>
    simp only [found, ok_bind, Bool.not_true, Bool.false_eq_true, if_false]
    rw [htypes.bind_eq_ok_iff head]
    cases tail with
    | nil ends =>
      simp [ends, ok_bind, ofJson?, part, pure, Except.pure, Option.bind_eq_some_iff, ← and_assoc]
    | cons found' head' tail' =>
      simp only [found', ok_bind, Bool.not_true, Bool.false_eq_true, if_false,
        hresources.bind_eq_ok_iff head']
      cases tail' with
      | nil ends' =>
        simp [endOfArray_of_end ends', ok_bind, ofJson?, part, pure, Except.pure,
          Option.bind_eq_some_iff, ← and_assoc]
      | cons found'' _ _ =>
        -- a third item is refused, whatever it is
        constructor
        · rintro ⟨types, -, resources, -, hread⟩
          obtain ⟨after', hend, -⟩ := SchemaNodes.bind_eq_ok_iff.1 hread
          exact absurd hend (endOfArray_of_more found'' after')
        · rintro ⟨h, -⟩
          simp [ofJson?] at h

/-- Only blanks may follow a document, and they do follow it. -/
theorem finished_eq_ok_iff {read : Except ReadError (Document × Cursor)}
    {decoded? : Option Document}
    (hread : ∀ d after, read = .ok (d, after) ↔ decoded? = some d ∧ behind = after)
    (hfinish : behind.finish = .ok ()) (d : Document) :
    (read >>= fun x => x.2.finish >>= fun _ => pure x.1) = .ok d ↔ decoded? = some d := by
  rw [SchemaNodes.bind_eq_ok_iff]
  constructor
  · rintro ⟨⟨document, after⟩, h, hrest⟩
    obtain ⟨⟨⟩, -, hpure⟩ := SchemaNodes.bind_eq_ok_iff.1 hrest
    obtain rfl : document = d := by simpa [pure, Except.pure] using hpure
    exact ((hread _ _).1 h).1
  · intro h
    refine ⟨(d, behind), (hread d behind).2 ⟨h, rfl⟩, ?_⟩
    simp only [hfinish, ok_bind]
    rfl

theorem ofJson?_of_scalar {v : Json} (token : cur.scalar = .ok (v, behind)) : ofJson? v = none := by
  obtain ⟨hitems, hmembers⟩ := scalar_ne_object token
  cases v with
  | array items => exact absurd rfl (hitems items)
  | object members => exact absurd rfl (hmembers members)
  | _ => rfl

/-- A text is read as a document if and only if the value that it spells is, and as the same. -/
theorem ofJsonText_eq_ok_iff {text : String} {v : Json} (hspelled : Json.Spells text v)
    (hkeys : v.DistinctKeys) (d : Document) :
    ofJsonText text = .ok d ↔ ofJson? v = some d := by
  obtain ⟨behind, hspelled, hfinish⟩ := hspelled
  have hdepth : 4 < depthLimit - 1 := by decide
  rw [ofJsonText]
  cases hspelled with
  | scalar token =>
    have hnone := ofJson?_of_scalar token
    simp only
    split
    · simp [peekError, hnone, bind, Except.bind]
    · next more hbracket => exact absurd hbracket (scalar_ne_bracket token more).1
    · next more hbrace => exact absurd hbrace (scalar_ne_bracket token more).2
    · refine finished_eq_ok_iff (fun d after => ?_) hfinish d
      simp [unexpected_ne_ok, hnone]
  | array bracket spelled =>
    simp only [bracket]
    exact finished_eq_ok_iff (itemsOfText_eq_ok_iff hdepth spelled) hfinish d
  | @object _ _ members _ brace spelled =>
    simp only [brace]
    refine finished_eq_ok_iff (fun d after => ?_) hfinish d
    have hparts := Parts.take_eq ⟨none, none⟩ hkeys (by simp) (by simp) d
    rw [membersOfText_eq_ok_iff hdepth spelled _ _ _ _ spelled.length_members_lt_fuel, hparts,
      ofJson?_eq_some_iff]
    simp [Parts.rest_none, types?, resources?, part?]

/-- The reader accepts exactly the documents, and what it returns is written as what was read: the
value, or any text that reads as the value at some depth. Only the keys of the document itself have
to be distinct; of keys repeated further down the last counts, as in the canonical form. -/
theorem reads_exactly_documents (v : Json) (hkeys : v.DistinctKeys) :
    ((∃ d, ofJson? v = some d) ↔ v.IsDocument) ∧
    (∀ d, ofJson? v = some d → d.toJson = v.documentForm) ∧
    ∀ depth text, Json.readWith depth text = .ok v →
      ((∃ d, ofJsonText text = .ok d) ↔ v.IsDocument) ∧
      ∀ d, ofJsonText text = .ok d → d.toJson = v.documentForm := by
  refine ⟨exists_ofJson?_iff v, fun _ => toJson_of_ofJson?, ?_⟩
  intro depth text hread
  have htext := ofJsonText_eq_ok_iff (Json.spells_of_readWith hread) hkeys
  constructor
  · simp only [htext]
    exact exists_ofJson?_iff v
  · intro d h
    exact toJson_of_ofJson? ((htext d).1 h)

/-- A document with a key that is of no concern. -/
def annotated : Json :=
  .object [
    ("Types", .object [
      ("Tag", .object [("Values", .array [.string "String"]), ("Key", .string "String")]),
      ("String", .string "String")]),
    ("Notes", .array [.object [], .array []])]

theorem reads_exactly_documents_annotated :
    ∃ d, ofJsonText annotated.compact = .ok d ∧
      d.toJson = .object [("Types", .object [
        ("String", .string "String"),
        ("Tag", .object [("Key", .string "String"), ("Values", .array [.string "String"])])])] := by
  have hkeys : annotated.DistinctKeys := by decide
  have htextual : annotated.Textual := by simp [annotated, Textual, TextualMembers, TextualItems]
  have hread : Json.readWith depthLimit annotated.compact = .ok annotated :=
    htextual.spells_compact.readWith depthLimit (by decide)
  obtain ⟨hvalue, -, htext⟩ := reads_exactly_documents annotated hkeys
  obtain ⟨hsome, hform⟩ := htext depthLimit _ hread
  have hdocument : annotated.IsDocument := hvalue.1 ⟨_, rfl⟩
  obtain ⟨d, hd⟩ := hsome.2 hdocument
  exact ⟨d, hd, hform d hd⟩

end Document

end SchemaNodes

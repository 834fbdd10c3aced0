import Sigil.Catalog.Basic
import Sigil.Proofs.Json.Records
import Sigil.Proofs.Json.RoundTrip

/-! # Catalogs as texts

    A list of definitions that is written as a text is read back as the catalog of the list.
    Fields that are empty or absent are left out of the text and restored by the reader, and
    no definition looks like an entry of a service.

    * `Example.slots`, `Definition.slots`: the fields of a record and how each is written.
    * `Definition.declared`: the JSON form with the members in order of declaration.
    * `Definition.read_toJson`: one definition.
    * `Catalog.ofJson_render_definitions`: a whole catalog. -/

namespace Sigil

open Json (Plain)

/-! ## Examples -/

/-- The fields of an example. -/
def Example.slots (e : Example) : List Slot :=
  [{ field := usageField, value := e.usage, json? := some (.string e.usage), encodes := rfl },
    { field := descriptionField, value := e.description
      json? := some (.string e.description), encodes := rfl }]

theorem Example.nodup_names (e : Example) : (e.slots.map Slot.name).Nodup := by
  show [usageField.name, descriptionField.name].Nodup
  decide

theorem Example.read_toJson (e : Example) : Example.read e.toJson = .ok e := by
  have hread := Slot.read_members e.nodup_names "Example"
  have husage : (Slot.record "Example" e.slots).get usageField = .ok e.usage :=
    Slot.get_record e.nodup_names "Example" (List.mem_of_getElem? (i := 0) rfl)
  have hdescription : (Slot.record "Example" e.slots).get descriptionField = .ok e.description :=
    Slot.get_record e.nodup_names "Example" (List.mem_of_getElem? (i := 1) rfl)
  have hchecked : Example.read e.toJson = (do
      let r ← Record.read "Example" (Slot.checkers e.slots) (Json.ofMembers (Slot.members e.slots))
      return { usage := ← r.get usageField, description := ← r.get descriptionField }) := rfl
  rw [hchecked, hread]
  simp only [bind, Except.bind, husage, hdescription]
  rfl

/-- The members of the JSON form of an example, in order of declaration. -/
def Example.members (e : Example) : List (Text × Json) :=
  [(usageField.name, .string e.usage), (descriptionField.name, .string e.description)]

/-- The JSON form of an example, with its members in order of declaration. -/
def Example.declared (e : Example) : Json :=
  .object e.members

theorem Example.canonical_declared (e : Example) : e.declared.canonical = e.toJson := rfl

theorem Example.canonical_toJson (e : Example) : e.toJson.canonical = e.toJson := by
  unfold Example.toJson
  rw [Json.canonical_ofMembers]
  rfl

/-- An example holds strings only. -/
theorem Example.plain_members (levels : Nat) (e : Example) {member : Text × Json}
    (h : member ∈ e.members) : Plain levels member.2 := by
  simp only [Example.members, List.mem_cons, List.not_mem_nil, or_false] at h
  rcases h with rfl | rfl
  · exact .string
  · exact .string

/-! ## Definitions -/

namespace Definition

/-- How a list is written. -/
def listJson? (elements : List Json) : Option Json :=
  if elements.isEmpty then none else some (.array elements)

theorem listMember_eq (name : Text) (elements : List Json) :
    listMember name elements = ((listJson? elements).map fun value => (name, value)).toList := by
  unfold listMember listJson?
  split
  · rfl
  · rfl

/-- An empty list is left out, and it is what the absence of the field means. -/
theorem encodes_list {α : Type} {read : Json → Except ShapeError α} {write : α → Json}
    (h : ∀ a, read (write a) = .ok a) (name : String) (as : List α) :
    (Field.withDefault name (Json.toList read) []).Encodes as (listJson? (as.map write)) := by
  cases as with
  | nil => rfl
  | cons a as => exact mapM_map_ok h (a :: as)

theorem encodes_text (name : String) (text? : Option Text) :
    (Field.optional name Json.toText).Encodes text? (text?.map Json.string) := by
  cases text? with
  | none => rfl
  | some text => rfl

theorem toText_string (text : Text) : Json.toText (.string text) = .ok text := rfl

/-- The fields of a definition. -/
def slots (d : Definition) : List Slot :=
  [{ field := nameField, value := d.name, json? := some (.string d.name), encodes := rfl },
    { field := descriptionField, value := d.description
      json? := some (.string d.description), encodes := rfl },
    { field := categoryField, value := d.category
      json? := some (.string d.category), encodes := rfl },
    { field := examplesField, value := d.examples
      json? := listJson? (d.examples.map Example.toJson)
      encodes := encodes_list Example.read_toJson _ _ },
    { field := aliasesField, value := d.aliases
      json? := listJson? (d.aliases.map Json.string)
      encodes := encodes_list toText_string _ _ },
    { field := acceptsNestingField, value := d.acceptsNesting
      json? := some (.bool d.acceptsNesting), encodes := rfl },
    { field := acceptsOptionalArgumentsField, value := d.acceptsOptionalArguments
      json? := some (.bool d.acceptsOptionalArguments), encodes := rfl },
    { field := requiresDefaultField, value := d.requiresDefault
      json? := some (.bool d.requiresDefault), encodes := rfl },
    { field := deprecatedField, value := d.deprecated
      json? := some (.bool d.deprecated), encodes := rfl },
    { field := deprecatedMessageField, value := d.deprecatedMessage
      json? := d.deprecatedMessage.map Json.string, encodes := encodes_text _ _ },
    { field := replacedByField, value := d.replacedBy
      json? := d.replacedBy.map Json.string, encodes := encodes_text _ _ }]

/-- The names of the fields. -/
def fieldNames : List Text :=
  [nameField.name, descriptionField.name, categoryField.name, examplesField.name,
    aliasesField.name, acceptsNestingField.name, acceptsOptionalArgumentsField.name,
    requiresDefaultField.name, deprecatedField.name, deprecatedMessageField.name,
    replacedByField.name]

theorem names_slots (d : Definition) : d.slots.map Slot.name = fieldNames := rfl

theorem nodup_names (d : Definition) : (d.slots.map Slot.name).Nodup := by
  rw [names_slots]
  decide

theorem toMembers_eq_members (d : Definition) : d.toMembers = Slot.members d.slots := by
  unfold toMembers membersWith slots textMember
  rw [listMember_eq, listMember_eq]
  simp only [Slot.members_cons, Slot.members_nil, Slot.member?, Slot.name, Option.map_some,
    Option.map_map, Option.toList_some, List.append_assoc, List.cons_append, List.nil_append,
    List.append_nil]
  rfl

theorem toJson_eq_ofMembers (d : Definition) :
    d.toJson = Json.ofMembers (Slot.members d.slots) := by
  rw [toJson, toMembers_eq_members]

/-- **One definition.**  What is left out of the JSON form is restored. -/
theorem read_toJson (d : Definition) : Definition.read d.toJson = .ok d := by
  have hread := Slot.read_members d.nodup_names "VariableDefinition"
  have hget : ∀ (i : Nat) (slot : Slot), d.slots[i]? = some slot →
      (Slot.record "VariableDefinition" d.slots).get slot.field = .ok slot.value := by
    intro i slot hslot
    exact Slot.get_record d.nodup_names "VariableDefinition" (List.mem_of_getElem? hslot)
  have hname := hget 0 _ rfl
  have hdescription := hget 1 _ rfl
  have hcategory := hget 2 _ rfl
  have hexamples := hget 3 _ rfl
  have haliases := hget 4 _ rfl
  have hnesting := hget 5 _ rfl
  have hoptional := hget 6 _ rfl
  have hdefault := hget 7 _ rfl
  have hdeprecated := hget 8 _ rfl
  have hmessage := hget 9 _ rfl
  have hreplaced := hget 10 _ rfl
  unfold Definition.read
  show (Record.read "VariableDefinition" (Slot.checkers d.slots) d.toJson >>= _) = _
  rw [toJson_eq_ofMembers, hread]
  simp only [bind, Except.bind, hname, hdescription, hcategory, hexamples, haliases, hnesting,
    hoptional, hdefault, hdeprecated, hmessage, hreplaced]
  rfl

/-- A definition does not look like an entry of a service. -/
theorem isEntry_toJson (d : Definition) : ServiceEntry.isEntry d.toJson = false := by
  have hname : ServiceEntry.definitionField.name ∉ d.slots.map Slot.name := by
    rw [names_slots]
    decide
  rw [toJson_eq_ofMembers]
  show (Table.get? ServiceEntry.definitionField.name
    (Table.ofEntries (Slot.members d.slots))).isSome = false
  rw [Slot.get?_ofEntries_members_of_not_mem hname]
  rfl

/-! ## Order of declaration -/

/-- The JSON form of a definition, with all members in order of declaration. -/
def declared (d : Definition) : Json :=
  .object (d.membersWith Example.declared)

theorem canonical_listMember (name : Text) (elements : List Json) :
    (listMember name elements).map (fun m => (m.1, m.2.canonical))
      = listMember name (elements.map Json.canonical) := by
  unfold listMember
  rw [List.isEmpty_map]
  split
  · rfl
  · rw [List.map_singleton, Json.canonical, Json.canonicalElements_eq_map]

theorem canonical_textMember (name : Text) (text? : Option Text) :
    (textMember name text?).map (fun m => (m.1, m.2.canonical)) = textMember name text? := by
  cases text? with
  | none => rfl
  | some text => rfl

/-- Only the examples have members to put in order. -/
theorem canonical_membersWith (write : Example → Json) (d : Definition) :
    (d.membersWith write).map (fun m => (m.1, m.2.canonical))
      = d.membersWith fun e => (write e).canonical := by
  have hstring : d.aliases.map (fun text => (Json.string text).canonical)
      = d.aliases.map Json.string := rfl
  unfold membersWith
  simp only [List.map_append, canonical_listMember, canonical_textMember, List.map_map,
    Function.comp_def, hstring]
  rfl

theorem canonical_declared (d : Definition) : d.declared.canonical = d.toJson := by
  rw [declared, Json.canonical, Json.canonicalMembers_eq_map, canonical_membersWith, toJson,
    toMembers]
  simp only [Example.canonical_declared]

theorem canonical_toJson (d : Definition) : d.toJson.canonical = d.toJson := by
  rw [toJson, Json.canonical_ofMembers, toMembers, canonical_membersWith]
  simp only [Example.canonical_toJson]

/-! ## No numbers -/

theorem plain_listMember {levels : Nat} {name : Text} {elements : List Json}
    (h : ∀ e ∈ elements, Plain levels e) {member : Text × Json}
    (hmember : member ∈ listMember name elements) : Plain (levels + 1) member.2 := by
  unfold listMember at hmember
  split at hmember
  · cases hmember
  · rw [List.mem_singleton.mp hmember]
    exact .array h

theorem plain_textMember {levels : Nat} {name : Text} {text? : Option Text}
    {member : Text × Json} (hmember : member ∈ textMember name text?) :
    Plain levels member.2 := by
  obtain ⟨text, -, rfl⟩ : ∃ text, text? = some text ∧ (name, Json.string text) = member := by
    simpa [textMember] using hmember
  exact .string

/-- The members of a definition hold no numbers if its examples hold none. -/
theorem plain_membersWith {write : Example → Json} {levels : Nat}
    (h : ∀ e, Plain levels (write e)) (d : Definition) {member : Text × Json}
    (hmember : member ∈ d.membersWith write) : Plain (levels + 1) member.2 := by
  have hexamples : ∀ e ∈ d.examples.map write, Plain levels e := by
    intro e he
    obtain ⟨e, -, rfl⟩ := List.mem_map.mp he
    exact h e
  have haliases : ∀ e ∈ d.aliases.map Json.string, Plain levels e := by
    intro e he
    obtain ⟨text, -, rfl⟩ := List.mem_map.mp he
    exact .string
  unfold membersWith at hmember
  simp only [List.mem_append, or_assoc] at hmember
  rcases hmember with htexts | hmember | hmember | hflags | hmember | hmember
  · simp only [List.mem_cons, List.not_mem_nil, or_false] at htexts
    rcases htexts with rfl | rfl | rfl <;> exact .string
  · exact plain_listMember hexamples hmember
  · exact plain_listMember haliases hmember
  · simp only [List.mem_cons, List.not_mem_nil, or_false] at hflags
    rcases hflags with rfl | rfl | rfl | rfl <;> exact .bool
  · exact plain_textMember hmember
  · exact plain_textMember hmember

theorem plain_declared (levels : Nat) (d : Definition) : Plain (levels + 3) d.declared := by
  apply Plain.object
  intro member hmember
  refine plain_membersWith (fun e => ?_) d hmember
  exact Plain.object fun m hm => e.plain_members levels hm

theorem plain_toJson (levels : Nat) (d : Definition) : Plain (levels + 3) d.toJson := by
  apply Plain.ofMembers
  intro member hmember
  refine plain_membersWith (fun e => ?_) d hmember
  exact Plain.ofMembers fun m hm => e.plain_members levels hm

end Definition

/-! ## Catalogs -/

namespace Catalog

theorem readDefinitions_toJson (ds : List Definition) :
    readDefinitions (.array (ds.map Definition.toJson)) = .ok ds := by
  have hentry : (ds.map Definition.toJson).any ServiceEntry.isEntry = false := by
    rw [List.any_eq_false]
    intro value hvalue
    obtain ⟨d, -, rfl⟩ := List.mem_map.mp hvalue
    rw [d.isEntry_toJson]
    exact Bool.false_ne_true
  unfold readDefinitions
  simp only [hentry, Bool.false_eq_true, if_false, mapM_map_ok Definition.read_toJson]
  rfl

/-- Definitions may be written in any way that is their JSON form once objects are put in
    order. -/
theorem ofJson_render {write : Definition → Json} (hplain : ∀ d, Plain 126 (write d))
    (hwrite : ∀ d, (write d).canonical = d.toJson) (ds : List Definition) :
    ofJson (Json.array (ds.map write)).render = .ok (ofDefinitions ds) := by
  have hlist : Plain 127 (Json.array (ds.map write)) := by
    apply Plain.array
    intro value hvalue
    obtain ⟨d, -, rfl⟩ := List.mem_map.mp hvalue
    exact hplain d
  have hcanonical : (Json.array (ds.map write)).canonical
      = .array (ds.map Definition.toJson) := by
    rw [Json.canonical, Json.canonicalElements_eq_map, List.map_map]
    congr 1
    exact List.map_congr_left fun d _ => hwrite d
  unfold ofJson
  rw [Json.read_render hlist, hcanonical]
  simp only [Except.mapError, bind, Except.bind, readDefinitions_toJson]
  rfl

/-- **Catalogs as texts.**  The text of a list of definitions is read as the catalog of the
    list, with the members of each object in order of declaration as well as in order of their
    names. -/
theorem ofJson_render_definitions (ds : List Definition) :
    ofJson (Json.array (ds.map Definition.declared)).render = .ok (ofDefinitions ds)
      ∧ ofJson (Json.array (ds.map Definition.toJson)).render = .ok (ofDefinitions ds) := by
  constructor
  · exact ofJson_render (Definition.plain_declared 123) Definition.canonical_declared ds
  · exact ofJson_render (Definition.plain_toJson 123) Definition.canonical_toJson ds

end Catalog

end Sigil

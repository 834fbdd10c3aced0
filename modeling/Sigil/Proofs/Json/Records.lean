import Sigil.Json.Record
import Sigil.Proofs.Tables

/-! # Reading records that were written

    A record is written as an object with one member for each field, and a field whose value
    is what its absence means may be left out.  Such an object is read back field by field,
    in whatever order its members come.

    * `Field.Encodes`: a way of writing a value that the field reads back.
    * `Slot`: a field with its value and a way of writing it.
    * `Slot.read_members`, `Slot.get_record`: an object that was written from slots has
      nothing wrong with it, and each field has the value that it was written for. -/

namespace Sigil

/-- **Written values.**  The field is written as a value that is read as `a`, or it is left out
    and is `a` without being there. -/
def Field.Encodes {α : Type} (field : Field α) (a : α) : Option Json → Prop
  | some value => field.read value = .ok a
  | none => field.absent? = some a

/-- Elements that are read back one by one are read back as a list. -/
theorem mapM_map_ok {α ε : Type} {write : α → Json} {read : Json → Except ε α}
    (h : ∀ a, read (write a) = .ok a) (as : List α) : (as.map write).mapM read = .ok as := by
  induction as with
  | nil => rfl
  | cons a as ih =>
    rw [List.map_cons, List.mapM_cons, h, ih]
    rfl

/-- A field of a record, with its value and the way in which this is written. -/
structure Slot where
  {α : Type}
  field : Field α
  value : α
  json? : Option Json
  encodes : field.Encodes value json?

namespace Slot

def name (slot : Slot) : Text := slot.field.name

/-- The member that is written for a field. -/
def member? (slot : Slot) : Option (Text × Json) :=
  slot.json?.map fun value => (slot.name, value)

/-- The members that are written for a record, in order of declaration. -/
def members (slots : List Slot) : List (Text × Json) :=
  slots.filterMap member?

theorem members_nil : members [] = [] := rfl

theorem members_cons (slot : Slot) (slots : List Slot) :
    members (slot :: slots) = slot.member?.toList ++ members slots := by
  rw [members, List.filterMap_cons]
  cases slot.member? with
  | none => rfl
  | some member => rfl

/-- What the reader of a record has to know about its fields. -/
def checkers (slots : List Slot) : List (Text × (Json → Except ShapeError Unit)) :=
  slots.map fun slot => slot.field.checker

theorem mem_members {slots : List Slot} {member : Text × Json} (h : member ∈ members slots) :
    ∃ slot ∈ slots, slot.name = member.1 ∧ slot.json? = some member.2 := by
  obtain ⟨slot, hslot, hmember⟩ := List.mem_filterMap.mp h
  obtain ⟨value, hvalue, rfl⟩ := Option.map_eq_some_iff.mp hmember
  exact ⟨slot, hslot, rfl, hvalue⟩

/-! ## Looking up -/

theorem get?_members_of_not_mem {slots : List Slot} {key : Text}
    (h : key ∉ slots.map name) : Table.get? key (members slots) = none := by
  have hfind : (members slots).find? (fun entry => entry.1 = key) = none := by
    rw [List.find?_eq_none]
    intro member hmember heq
    obtain ⟨slot, hslot, hname, -⟩ := mem_members hmember
    have hkey : member.1 = key := by simpa using heq
    exact h (List.mem_map.mpr ⟨slot, hslot, hname.trans hkey⟩)
  rw [Table.get?, hfind]
  rfl

/-- If no two fields share a name, each is found with the value that was written for it. -/
theorem get?_members {slots : List Slot} (hnames : (slots.map name).Nodup) {slot : Slot}
    (hslot : slot ∈ slots) : Table.get? slot.name (members slots) = slot.json? := by
  induction slots with
  | nil => cases hslot
  | cons first slots ih =>
    rw [List.map_cons, List.nodup_cons] at hnames
    rw [members_cons, member?]
    rcases List.mem_cons.mp hslot with rfl | hslot
    · cases hjson : slot.json? with
      | none => exact get?_members_of_not_mem hnames.1
      | some value =>
        show Table.get? slot.name ((slot.name, value) :: members slots) = some value
        rw [Table.get?_cons, if_pos rfl]
    · have hne : first.name ≠ slot.name := by
        intro heq
        exact hnames.1 (List.mem_map.mpr ⟨slot, hslot, heq.symm⟩)
      cases first.json? with
      | none => exact ih hnames.2 hslot
      | some value =>
        show Table.get? slot.name ((first.name, value) :: members slots) = slot.json?
        rw [Table.get?_cons, if_neg hne]
        exact ih hnames.2 hslot

/-- Putting the members in order makes no difference to what is found. -/
theorem get?_ofEntries_members {slots : List Slot} (hnames : (slots.map name).Nodup)
    {slot : Slot} (hslot : slot ∈ slots) :
    Table.get? slot.name (Table.ofEntries (members slots)) = slot.json? := by
  rw [Table.get?_ofEntries, members, ← List.filterMap_reverse]
  apply get?_members
  · rw [List.map_reverse]
    exact (List.reverse_perm _).nodup_iff.mpr hnames
  · exact List.mem_reverse.mpr hslot

theorem get?_ofEntries_members_of_not_mem {slots : List Slot} {key : Text}
    (h : key ∉ slots.map name) : Table.get? key (Table.ofEntries (members slots)) = none := by
  rw [Table.get?_ofEntries, members, ← List.filterMap_reverse]
  apply get?_members_of_not_mem
  rw [List.map_reverse, List.mem_reverse]
  exact h

/-! ## Records -/

theorem checkMembers_ok {fields : List (Text × (Json → Except ShapeError Unit))}
    {members : List (Text × Json)}
    (h : ∀ member ∈ members, ∀ field ∈ fields, field.1 = member.1 → field.2 member.2 = .ok ()) :
    Record.checkMembers fields members = .ok () := by
  induction members with
  | nil => rfl
  | cons member members ih =>
    obtain ⟨key, value⟩ := member
    have hrest := ih fun m hm => h m (List.mem_cons_of_mem _ hm)
    rw [Record.checkMembers, hrest]
    cases hfind : fields.find? (fun field => field.1 = key) with
    | none => rfl
    | some field =>
      have hname : field.1 = key := by simpa using List.find?_some hfind
      have hcheck := h (key, value) List.mem_cons_self field (List.mem_of_find?_eq_some hfind) hname
      show (field.2 value >>= fun _ => Except.ok ()) = Except.ok ()
      rw [hcheck]
      rfl

/-- The record that is read from what was written. -/
def record (title : String) (slots : List Slot) : Record where
  name := title.toList
  fields := (checkers slots).map Prod.fst
  members := Table.ofEntries (members slots)
  isArray := false

/-- **Reading a record.**  Nothing is wrong with an object that was written. -/
theorem read_members {slots : List Slot} (hnames : (slots.map name).Nodup) (title : String) :
    Record.read title (checkers slots) (Json.ofMembers (members slots))
      = .ok (record title slots) := by
  have hcheck :
      Record.checkMembers (checkers slots) (Table.ofEntries (members slots)) = .ok () := by
    apply checkMembers_ok
    intro member hmember field hfield hname
    obtain ⟨slot, hslot, rfl⟩ := List.mem_map.mp hfield
    obtain ⟨writer, hwriter, hwname, hjson⟩ := mem_members (Table.mem_ofEntries hmember)
    -- The field that checks the member is the one that it was written for, or as good.
    have hsame : slot.json? = some member.2 := by
      have hslotname : slot.name = writer.name := hname.trans hwname.symm
      rw [← hjson, ← get?_members hnames hslot, ← get?_members hnames hwriter, hslotname]
    have hread := slot.encodes
    rw [hsame] at hread
    have hvalue : slot.field.read member.2 = .ok slot.value := hread
    show (slot.field.read member.2 >>= fun _ => Except.ok ()) = Except.ok ()
    rw [hvalue]
    rfl
  unfold Record.read Json.ofMembers
  simp only [hcheck]
  rfl

/-- **Fields of a record.**  Each field has the value that it was written for. -/
theorem get_record {slots : List Slot} (hnames : (slots.map name).Nodup) (title : String)
    {slot : Slot} (hslot : slot ∈ slots) :
    (record title slots).get slot.field = .ok slot.value := by
  have hget : Table.get? slot.field.name (record title slots).members = slot.json? :=
    get?_ofEntries_members hnames hslot
  have hread := slot.encodes
  unfold Record.get
  rw [hget]
  cases hjson : slot.json? with
  | some value =>
    rw [hjson] at hread
    exact hread
  | none =>
    rw [hjson] at hread
    have habsent : slot.field.absent? = some slot.value := hread
    simp [record, habsent]

end Slot

end Sigil

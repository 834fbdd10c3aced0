import Mathlib.Data.List.Induction
import Sigil.Table

/-! # The order of tables

    A table that is filled entry by entry holds its keys in increasing order, and the last
    value that was put under each of them.

    * `Text.bytes_lt_bytes`: the order of keys is that of their bytes.
    * `Table.Sorted`: the keys increase.
    * `Table.Sorted.insert`, `Table.sorted_ofEntries`: what is put in and where.
    * `Table.get?_ofEntries`: the last entry under a key counts.
    * `Table.Sorted.ofEntries_eq`, `Table.ofEntries_map`: filling a table anew, and changing
      its values.
    * `Table.Sorted.ext`: a table is known by what is found in it. -/

namespace Sigil.Text

/-! ## The order of texts -/

/-- The bytes of the UTF-8 form. -/
def bytes (t : Text) : List UInt8 :=
  t.flatMap String.utf8EncodeChar

/-- The forms of two characters differ at a byte, and there the form of the lesser character
    is less. -/
theorem encode_append_lt {c d : Char} (h : c < d) (s t : List UInt8) :
    String.utf8EncodeChar c ++ s < String.utf8EncodeChar d ++ t := by
  have hlt : c.val.toNat < d.val.toNat := h
  have hmax : d.val.toNat < 1114112 := by
    have hvalid := d.valid
    unfold UInt32.isValidChar Nat.isValidChar at hvalid
    omega
  -- With quotients by 64 only, the bytes are digits of the two code points.
  have hdigits : ∀ k : Nat, k / 4096 = k / 64 / 64 ∧ k / 262144 = k / 64 / 64 / 64 := by
    intro k
    omega
  unfold String.utf8EncodeChar
  generalize c.val.toNat = m at hlt
  generalize d.val.toNat = n at hlt hmax
  simp only [(hdigits m).1, (hdigits m).2, (hdigits n).1, (hdigits n).2]
  -- One goal for each two numbers of bytes; the first bytes differ if these numbers do.
  split_ifs <;>
    simp only [List.cons_append, List.nil_append, List.cons_lt_cons_iff, UInt8.lt_iff_toNat_lt,
      ← UInt8.toNat_inj, UInt8.toNat_ofNat'] <;>
    omega

/-- **Order of the bytes.**  Texts in order have their UTF-8 forms in order. -/
theorem bytes_lt_bytes {s t : Text} (h : s < t) : bytes s < bytes t := by
  induction s generalizing t with
  | nil =>
    cases t with
    | nil => exact absurd h (List.lt_irrefl _)
    | cons d t =>
      have hne : bytes (d :: t) ≠ [] := by simp [bytes]
      obtain ⟨b, rest, hbytes⟩ := List.exists_cons_of_ne_nil hne
      rw [hbytes]
      exact List.nil_lt_cons b rest
  | cons c s ih =>
    cases t with
    | nil => exact absurd h (List.not_lt_nil _)
    | cons d t =>
      show String.utf8EncodeChar c ++ bytes s < String.utf8EncodeChar d ++ bytes t
      rcases List.cons_lt_cons_iff.mp h with hlt | ⟨rfl, hlt⟩
      · exact encode_append_lt hlt _ _
      · exact List.append_left_lt (ih hlt)

end Sigil.Text

namespace Sigil.Table

variable {α β : Type}

/-- **Order of a table.**  Each key is less than all that follow. -/
def Sorted (table : Table α) : Prop :=
  table.Pairwise fun a b => a.1 < b.1

/-- Of two keys, one is less unless they are the same. -/
theorem key_lt_of_not_lt {key other : Text} (hne : key ≠ other) (hlt : ¬ key < other) :
    other < key := by
  by_cases hgt : other < key
  · exact hgt
  · exact absurd (List.le_antisymm (List.not_lt.mp hgt) (List.not_lt.mp hlt)) hne

/-! ## Putting in -/

theorem mem_insert {key : Text} {value : α} {table : Table α} {entry : Text × α}
    (h : entry ∈ insert key value table) : entry = (key, value) ∨ entry ∈ table := by
  induction table with
  | nil => exact .inl (by simpa [insert] using h)
  | cons first rest ih =>
    obtain ⟨other, old⟩ := first
    unfold insert at h
    split at h
    · rcases List.mem_cons.mp h with heq | h
      · exact .inl heq
      · exact .inr (List.mem_cons_of_mem _ h)
    · split at h
      · rcases List.mem_cons.mp h with heq | h
        · exact .inl heq
        · exact .inr h
      · rcases List.mem_cons.mp h with heq | h
        · exact .inr (by rw [heq]; exact List.mem_cons_self)
        · rcases ih h with heq | h
          · exact .inl heq
          · exact .inr (List.mem_cons_of_mem _ h)

/-- Putting in keeps the order. -/
theorem Sorted.insert {table : Table α} (h : table.Sorted) (key : Text) (value : α) :
    (Table.insert key value table).Sorted := by
  induction table with
  | nil => exact List.pairwise_singleton _ _
  | cons first rest ih =>
    obtain ⟨other, old⟩ := first
    obtain ⟨hfirst, hrest⟩ := List.pairwise_cons.mp h
    unfold Table.insert
    by_cases heq : key = other
    · -- The new value takes the place of the old one.
      subst heq
      rw [if_pos rfl]
      exact List.pairwise_cons.mpr ⟨hfirst, hrest⟩
    · rw [if_neg heq]
      by_cases hlt : key < other
      · rw [if_pos hlt]
        refine List.pairwise_cons.mpr ⟨?_, h⟩
        intro entry hentry
        rcases List.mem_cons.mp hentry with rfl | hentry
        · exact hlt
        · exact List.lt_trans hlt (hfirst entry hentry)
      · rw [if_neg hlt]
        refine List.pairwise_cons.mpr ⟨?_, ih hrest⟩
        intro entry hentry
        rcases mem_insert hentry with rfl | hentry
        · exact key_lt_of_not_lt heq hlt
        · exact hfirst entry hentry

/-- A key that is greater than all others comes last. -/
theorem insert_of_forall_lt {key : Text} {table : Table α} (h : ∀ entry ∈ table, entry.1 < key)
    (value : α) : insert key value table = table ++ [(key, value)] := by
  induction table with
  | nil => rfl
  | cons first rest ih =>
    obtain ⟨other, old⟩ := first
    have hlt : other < key := h (other, old) List.mem_cons_self
    have hne : key ≠ other := by
      intro heq
      rw [heq] at hlt
      exact List.lt_irrefl _ hlt
    have hnot : ¬ key < other := fun hgt => List.lt_asymm hlt hgt
    rw [insert, if_neg hne, if_neg hnot, ih fun entry hentry => h entry (by simp [hentry])]
    rfl

/-- Changing the values changes nothing about where they are put. -/
theorem insert_map (f : α → β) (key : Text) (value : α) (table : Table α) :
    insert key (f value) (table.map fun entry => (entry.1, f entry.2))
      = (insert key value table).map fun entry => (entry.1, f entry.2) := by
  induction table with
  | nil => rfl
  | cons first rest ih =>
    obtain ⟨other, old⟩ := first
    rw [List.map_cons, insert, insert]
    split
    · rfl
    · split
      · rfl
      · rw [ih]
        rfl

/-! ## Filling a table -/

theorem ofEntries_concat (entries : List (Text × α)) (entry : Text × α) :
    ofEntries (entries ++ [entry]) = insert entry.1 entry.2 (ofEntries entries) := by
  rw [ofEntries, List.foldl_append]
  rfl

theorem mem_ofEntries {entries : List (Text × α)} {entry : Text × α}
    (h : entry ∈ ofEntries entries) : entry ∈ entries := by
  induction entries using List.reverseRecOn with
  | nil => cases h
  | append_singleton entries last ih =>
    rw [ofEntries_concat] at h
    rcases mem_insert h with heq | h
    · simp [heq]
    · simp [ih h]

theorem sorted_ofEntries (entries : List (Text × α)) : (ofEntries entries).Sorted := by
  induction entries using List.reverseRecOn with
  | nil => exact .nil
  | append_singleton entries last ih =>
    rw [ofEntries_concat]
    exact ih.insert _ _

/-- A table that is filled with its own entries is the same again. -/
theorem Sorted.ofEntries_eq {table : Table α} (h : table.Sorted) : ofEntries table = table := by
  induction table using List.reverseRecOn with
  | nil => rfl
  | append_singleton table last ih =>
    obtain ⟨htable, -, hlast⟩ := List.pairwise_append.mp h
    rw [ofEntries_concat, ih htable]
    exact insert_of_forall_lt (fun entry hentry => hlast entry hentry last (by simp)) last.2

theorem ofEntries_map (f : α → β) (entries : List (Text × α)) :
    ofEntries (entries.map fun entry => (entry.1, f entry.2))
      = (ofEntries entries).map fun entry => (entry.1, f entry.2) := by
  induction entries using List.reverseRecOn with
  | nil => rfl
  | append_singleton entries last ih =>
    rw [List.map_append, List.map_singleton, ofEntries_concat, ofEntries_concat, ih]
    exact insert_map f last.1 last.2 (ofEntries entries)

/-! ## Looking up -/

theorem get?_cons (key : Text) (entry : Text × α) (table : Table α) :
    get? key (entry :: table) = if entry.1 = key then some entry.2 else get? key table := by
  unfold get?
  rw [List.find?_cons]
  by_cases h : entry.1 = key
  · simp [h]
  · simp [h]

/-- **Last entry.**  Of several entries under one key the last counts. -/
theorem get?_ofEntries (key : Text) (entries : List (Text × α)) :
    get? key (ofEntries entries) = get? key entries.reverse := by
  induction entries using List.reverseRecOn with
  | nil => rfl
  | append_singleton entries last ih =>
    rw [ofEntries_concat, get?_insert, ih, List.reverse_concat, get?_cons]

/-! ## Tables with the same values -/

/-- In a table that is in order, what is found under a key is what stands there. -/
theorem Sorted.get?_eq_some_iff {table : Table α} (h : table.Sorted) {key : Text} {value : α} :
    get? key table = some value ↔ (key, value) ∈ table := by
  induction table with
  | nil => simp [get?]
  | cons first rest ih =>
    obtain ⟨hfirst, hrest⟩ := List.pairwise_cons.mp h
    rw [get?_cons, List.mem_cons]
    by_cases hkey : first.1 = key
    · rw [if_pos hkey, Option.some.injEq]
      constructor
      · intro hvalue
        exact .inl (by rw [← hkey, ← hvalue])
      · rintro (heq | hmem)
        · rw [← heq]
        · -- A later entry has a greater key.
          have hlt := hfirst _ hmem
          rw [hkey] at hlt
          exact absurd hlt (List.lt_irrefl key)
    · rw [if_neg hkey, ih hrest]
      constructor
      · exact .inr
      · rintro (heq | hmem)
        · rw [← heq] at hkey
          exact absurd rfl hkey
        · exact hmem

theorem Sorted.nodup {table : Table α} (h : table.Sorted) : table.Nodup := by
  refine h.imp ?_
  intro a b hlt heq
  rw [heq] at hlt
  exact List.lt_irrefl _ hlt

/-- **Extensionality.**  Tables in order are the same if the same is found in them. -/
theorem Sorted.ext {table other : Table α} (h : table.Sorted) (hother : other.Sorted)
    (hget : ∀ key, get? key table = get? key other) : table = other := by
  have hmem : ∀ entry, entry ∈ table ↔ entry ∈ other := by
    intro entry
    rw [← h.get?_eq_some_iff, ← hother.get?_eq_some_iff, hget]
  have hperm : table.Perm other := (List.perm_ext_iff_of_nodup h.nodup hother.nodup).mpr hmem
  refine hperm.eq_of_pairwise ?_ h hother
  intro a b _ _ hlt hgt
  exact absurd hgt (List.lt_asymm hlt)

end Sigil.Table

import Mathlib.Data.List.Nodup
import Mathlib.Data.List.Pairwise
import Sigil.Proofs.Tables
import Sigil.Scan

/-! # Looking up definitions

    A catalog keeps names and aliases in two tables, both filled from one list of definitions.
    What it finds can be told from the list alone: of several definitions with one name the
    last is kept, and an alias stands for the name of the last definition that has it.

    * `IsLast`: the last definition of a list with a property.
    * `FilledWith`: the catalog of a list; `FilledWith.insert` is what one more definition
      preserves, and `filledWith_ofDefinitions` what filling the catalog does.
    * `Finds`: what a name finds in a list of definitions.
    * `ofDefinitions_keeps_last`: what the catalog of a list holds and finds, and when the
      order of the list does not matter.
    * `LosesAlias`: an alias that outlives the definition it belonged to.
    * `lookup_foreign_iff_losesAlias`: when a definition is found by a name that it has not. -/

namespace Sigil.Catalog

/-! ## The last definition with a property -/

/-- **Last definition.**  Of the definitions with the property `p`, none comes after `d`. -/
def IsLast (p : Definition → Prop) (ds : List Definition) (d : Definition) : Prop :=
  ∃ before after, ds = before ++ d :: after ∧ p d ∧ ∀ e ∈ after, ¬ p e

section IsLast

variable {p : Definition → Prop} {ds : List Definition} {d : Definition}

theorem IsLast.mem (h : IsLast p ds d) : d ∈ ds := by
  obtain ⟨before, after, rfl, -⟩ := h
  simp

theorem IsLast.prop (h : IsLast p ds d) : p d := by
  obtain ⟨before, after, -, hd, -⟩ := h
  exact hd

theorem IsLast.prepend (h : IsLast p ds d) (es : List Definition) : IsLast p (es ++ ds) d := by
  obtain ⟨before, after, rfl, hd, hafter⟩ := h
  exact ⟨es ++ before, after, by rw [List.append_assoc], hd, hafter⟩

variable [DecidablePred p]

/-- Searching from the end finds the last definition. -/
theorem find?_reverse_eq_some_iff :
    (ds.reverse.find? fun e => decide (p e)) = some d ↔ IsLast p ds d := by
  rw [List.find?_eq_some_iff_append]
  simp only [decide_eq_true_eq, Bool.not_eq_true', decide_eq_false_iff_not]
  constructor
  · rintro ⟨hd, after, before, hds, hafter⟩
    refine ⟨before.reverse, after.reverse, ?_, hd, ?_⟩
    · rw [← List.reverse_reverse ds, hds]
      simp
    · intro e he
      exact hafter e (List.mem_reverse.mp he)
  · rintro ⟨before, after, rfl, hd, hafter⟩
    refine ⟨hd, after.reverse, before.reverse, by simp, ?_⟩
    intro e he
    exact hafter e (List.mem_reverse.mp he)

theorem find?_reverse_eq_none_iff :
    (ds.reverse.find? fun e => decide (p e)) = none ↔ ∀ e ∈ ds, ¬ p e := by
  rw [List.find?_eq_none]
  simp only [List.mem_reverse, decide_eq_true_eq]

instance : Decidable (IsLast p ds d) :=
  decidable_of_iff _ find?_reverse_eq_some_iff

theorem IsLast.unique {e : Definition} (hd : IsLast p ds d) (he : IsLast p ds e) : d = e := by
  rw [← find?_reverse_eq_some_iff] at hd he
  rw [hd, Option.some.injEq] at he
  exact he

/-- If some definition has the property, there is a last one. -/
theorem exists_isLast {e : Definition} (hmem : e ∈ ds) (he : p e) : ∃ d, IsLast p ds d := by
  cases hfind : ds.reverse.find? fun e => decide (p e) with
  | none => exact absurd he (find?_reverse_eq_none_iff.mp hfind e hmem)
  | some d => exact ⟨d, find?_reverse_eq_some_iff.mp hfind⟩

/-- If only one definition has the property, it need not be searched for from the end. -/
theorem isLast_iff_of_unique (hunique : ∀ d ∈ ds, ∀ e ∈ ds, p d → p e → d = e) :
    IsLast p ds d ↔ d ∈ ds ∧ p d := by
  constructor
  · intro h
    exact ⟨h.mem, h.prop⟩
  · rintro ⟨hmem, hd⟩
    obtain ⟨e, he⟩ := exists_isLast hmem hd
    rw [hunique d hmem e he.mem hd he.prop]
    exact he

/-- Nor does the order of the list matter then. -/
theorem find?_reverse_eq_of_perm {es : List Definition} (hperm : ds.Perm es)
    (hunique : ∀ d ∈ ds, ∀ e ∈ ds, p d → p e → d = e) :
    (es.reverse.find? fun e => decide (p e)) = ds.reverse.find? fun e => decide (p e) := by
  have hunique' : ∀ d ∈ es, ∀ e ∈ es, p d → p e → d = e := by
    intro d hd e he
    exact hunique d (hperm.mem_iff.mpr hd) e (hperm.mem_iff.mpr he)
  apply Option.ext
  intro d
  rw [find?_reverse_eq_some_iff, find?_reverse_eq_some_iff, isLast_iff_of_unique hunique,
    isLast_iff_of_unique hunique', hperm.mem_iff]

end IsLast

/-! ## Filling a catalog -/

/-- **Invariant of filling.**  The catalog `c` holds the definitions `ds`: both tables are in
    order, and in each of them the last definition counts. -/
structure FilledWith (ds : List Definition) (c : Catalog) : Prop where
  table_sorted : c.table.Sorted
  aliases_sorted : c.aliases.Sorted
  get?_table : ∀ n, Table.get? n c.table = ds.reverse.find? fun d => d.name = n
  get?_aliases : ∀ n, Table.get? n c.aliases
    = (ds.reverse.find? fun d => n ∈ d.aliases).map Definition.name

theorem filledWith_empty : FilledWith [] empty where
  table_sorted := .nil
  aliases_sorted := .nil
  get?_table := fun _ => rfl
  get?_aliases := fun _ => rfl

section Aliases

variable (names : List Text) (target : Text) {table : Table Text}

/-- Making names stand for one target keeps the order of the table. -/
theorem sorted_foldl_insert (h : table.Sorted) :
    (names.foldl (fun table other => Table.insert other target table) table).Sorted := by
  induction names generalizing table with
  | nil => exact h
  | cons first names ih => exact ih (h.insert first target)

theorem get?_foldl_insert (n : Text) :
    Table.get? n (names.foldl (fun table other => Table.insert other target table) table)
      = if n ∈ names then some target else Table.get? n table := by
  induction names generalizing table with
  | nil => rfl
  | cons first names ih =>
    rw [List.foldl_cons, ih, Table.get?_insert]
    by_cases hmem : n ∈ names
    · rw [if_pos hmem, if_pos (List.mem_cons_of_mem first hmem)]
    · rw [if_neg hmem]
      by_cases hfirst : first = n
      · rw [if_pos hfirst, if_pos (hfirst ▸ List.mem_cons_self)]
      · have hnot : n ∉ first :: names := List.not_mem_cons_of_ne_of_not_mem (Ne.symm hfirst) hmem
        rw [if_neg hfirst, if_neg hnot]

end Aliases

/-- What one more definition preserves. -/
theorem FilledWith.insert {ds : List Definition} {c : Catalog} (h : FilledWith ds c)
    (d : Definition) : FilledWith (ds ++ [d]) (c.insert d) where
  table_sorted := h.table_sorted.insert d.name d
  aliases_sorted := sorted_foldl_insert d.aliases d.name h.aliases_sorted
  get?_table := by
    intro n
    show Table.get? n (Table.insert d.name d c.table) = _
    rw [Table.get?_insert, h.get?_table, List.reverse_concat, List.find?_cons]
    by_cases hname : d.name = n
    · simp [hname]
    · simp [hname]
  get?_aliases := by
    intro n
    show Table.get? n (d.aliases.foldl _ c.aliases) = _
    rw [get?_foldl_insert, h.get?_aliases, List.reverse_concat, List.find?_cons]
    by_cases hmem : n ∈ d.aliases
    · simp [hmem]
    · simp [hmem]

/-- **Run.**  The catalog of a list holds the list. -/
theorem filledWith_ofDefinitions (ds : List Definition) : FilledWith ds (ofDefinitions ds) := by
  induction ds using List.reverseRecOn with
  | nil => exact filledWith_empty
  | append_singleton ds d ih =>
    rw [ofDefinitions, List.foldl_append]
    exact ih.insert d

/-- A list has one catalog. -/
theorem FilledWith.unique {ds es : List Definition} {c c' : Catalog} (h : FilledWith ds c)
    (h' : FilledWith es c')
    (hname : ∀ n, (ds.reverse.find? fun d => d.name = n) = es.reverse.find? fun d => d.name = n)
    (halias : ∀ n, (ds.reverse.find? fun d => n ∈ d.aliases)
      = es.reverse.find? fun d => n ∈ d.aliases) : c = c' := by
  have htable : c.table = c'.table := by
    refine h.table_sorted.ext h'.table_sorted ?_
    intro n
    rw [h.get?_table, h'.get?_table, hname]
  have haliases : c.aliases = c'.aliases := by
    refine h.aliases_sorted.ext h'.aliases_sorted ?_
    intro n
    rw [h.get?_aliases, h'.get?_aliases, halias]
  cases c
  cases c'
  cases htable
  cases haliases
  rfl

/-- **Reordering.**  If the names are distinct and no two definitions share an alias, the
    definitions may be given in any order. -/
theorem ofDefinitions_eq_of_perm {ds es : List Definition} (hperm : ds.Perm es)
    (hnames : (ds.map Definition.name).Nodup)
    (haliases : ds.Pairwise fun d e => d.aliases.Disjoint e.aliases) :
    ofDefinitions es = ofDefinitions ds := by
  refine (filledWith_ofDefinitions es).unique (filledWith_ofDefinitions ds) ?_ ?_
  · intro n
    refine find?_reverse_eq_of_perm hperm ?_
    intro d hd e he hdn hen
    exact List.inj_on_of_nodup_map hnames hd he (hdn.trans hen.symm)
  · intro n
    refine find?_reverse_eq_of_perm hperm ?_
    intro d hd e he hdn hen
    -- Two definitions with the alias `n` would share it.
    have hsymm : Std.Symm fun d e : Definition => d.aliases.Disjoint e.aliases :=
      ⟨fun d e hdisjoint n he hd => hdisjoint hd he⟩
    by_contra hne
    exact haliases.forall hd he hne hdn hen

/-! ## Looking up -/

/-- **Search.**  What a name finds in a list of definitions.  A definition with this name
    comes first; an alias finds the last definition with the name it stands for. -/
inductive Finds (ds : List Definition) (n : Text) : Definition → Prop where
  | named {d : Definition} : IsLast (fun d => d.name = n) ds d → Finds ds n d
  | aliased {d e : Definition} : (∀ d ∈ ds, d.name ≠ n) → IsLast (fun d => n ∈ d.aliases) ds e →
      IsLast (fun d => d.name = e.name) ds d → Finds ds n d

theorem lookup_eq_some_iff {ds : List Definition} {n : Text} {d : Definition} :
    (ofDefinitions ds).lookup n = some d ↔ Finds ds n d := by
  have hfilled := filledWith_ofDefinitions ds
  unfold lookup
  rw [hfilled.get?_table]
  cases hname : ds.reverse.find? fun d => decide (d.name = n) with
  | some first =>
    rw [find?_reverse_eq_some_iff] at hname
    simp only [Option.some.injEq]
    constructor
    · intro heq
      subst heq
      exact .named hname
    · intro hfinds
      cases hfinds with
      | named hlast => exact hname.unique hlast
      | aliased hnone _ _ => exact absurd hname.prop (hnone first hname.mem)
  | none =>
    rw [find?_reverse_eq_none_iff] at hname
    simp only [hfilled.get?_aliases, hfilled.get?_table, Option.bind_eq_some_iff,
      Option.map_eq_some_iff, find?_reverse_eq_some_iff]
    constructor
    · rintro ⟨target, ⟨e, he, rfl⟩, hd⟩
      exact .aliased hname he hd
    · intro hfinds
      cases hfinds with
      | named hlast => exact absurd hlast.prop (hname d hlast.mem)
      | @aliased e _ he hd => exact ⟨e.name, ⟨e, he, rfl⟩, hd⟩

/-- Only what is neither a name nor an alias finds nothing. -/
theorem lookup_eq_none_iff {ds : List Definition} {n : Text} :
    (ofDefinitions ds).lookup n = none ↔ ∀ e ∈ ds, e.name ≠ n ∧ n ∉ e.aliases := by
  rw [Option.eq_none_iff_forall_ne_some]
  simp only [ne_eq, lookup_eq_some_iff]
  constructor
  · intro hnone e he
    have hname : ∀ d ∈ ds, d.name ≠ n := by
      intro d hd hdn
      obtain ⟨last, hlast⟩ := exists_isLast (p := fun d => d.name = n) hd hdn
      exact hnone last (.named hlast)
    refine ⟨hname e he, ?_⟩
    intro halias
    -- The alias stands for the name of a definition, and so something has that name.
    obtain ⟨last, hlast⟩ := exists_isLast (p := fun d => n ∈ d.aliases) he halias
    obtain ⟨d, hd⟩ := exists_isLast (p := fun d => d.name = last.name) hlast.mem rfl
    exact hnone d (.aliased hname hlast hd)
  · intro hnone d hfinds
    cases hfinds with
    | named hlast => exact (hnone d hlast.mem).1 hlast.prop
    | @aliased e _ he _ => exact (hnone e he.mem).2 he.prop

/-- Each entry stands under the name of its definition. -/
theorem mem_table_iff {ds : List Definition} {n : Text} {d : Definition} :
    (n, d) ∈ (ofDefinitions ds).table ↔ IsLast (fun e => e.name = n) ds d := by
  have hfilled := filledWith_ofDefinitions ds
  rw [← hfilled.table_sorted.get?_eq_some_iff, hfilled.get?_table, find?_reverse_eq_some_iff]

theorem mem_definitions_iff {ds : List Definition} {d : Definition} :
    d ∈ (ofDefinitions ds).definitions ↔ IsLast (fun e => e.name = d.name) ds d := by
  rw [← mem_table_iff, definitions, Table.values, List.mem_map]
  constructor
  · rintro ⟨⟨n, e⟩, hmem, rfl⟩
    have hname : e.name = n := (mem_table_iff.mp hmem).prop
    rw [← hname] at hmem
    exact hmem
  · intro hmem
    exact ⟨(d.name, d), hmem, rfl⟩

/-- The definitions come in the order of the bytes of their names. -/
theorem definitions_ordered (ds : List Definition) :
    (ofDefinitions ds).definitions.Pairwise fun d e => Text.bytes d.name < Text.bytes e.name := by
  rw [definitions, Table.values, List.pairwise_map]
  refine List.Pairwise.imp_of_mem ?_ (filledWith_ofDefinitions ds).table_sorted
  intro a b ha hb hlt
  have hafirst : a.2.name = a.1 := (mem_table_iff.mp ha).prop
  have hbfirst : b.2.name = b.1 := (mem_table_iff.mp hb).prop
  rw [hafirst, hbfirst]
  exact Text.bytes_lt_bytes hlt

/-! ## Shorthands -/

/-- The shorthands that any name may follow. -/
def shorthands : List Text :=
  ["$$".toList, "$&".toList]

/-- A token that goes on after a shorthand. -/
theorem shorthand?_eq_some_iff {t s : Text} :
    shorthand? t = some s ↔ s ∈ shorthands ∧ s <+: t ∧ 2 < t.size := by
  constructor
  · intro h
    unfold shorthand? at h
    split at h
    · next c rest =>
      cases h
      have hpos := c.utf8Size_pos
      refine ⟨by decide, ⟨c :: rest, rfl⟩, ?_⟩
      show 2 < 1 + (1 + (c.utf8Size + Text.size rest))
      omega
    · next c rest =>
      cases h
      have hpos := c.utf8Size_pos
      refine ⟨by decide, ⟨c :: rest, rfl⟩, ?_⟩
      show 2 < 1 + (1 + (c.utf8Size + Text.size rest))
      omega
    · cases h
  · rintro ⟨hs, ⟨rest, rfl⟩, hsize⟩
    simp only [shorthands, List.mem_cons, List.not_mem_nil, or_false] at hs
    rw [Text.size_append] at hsize
    -- A shorthand takes two bytes, so something follows it.
    cases rest with
    | nil => rcases hs with rfl | rfl <;> exact absurd hsize (by decide)
    | cons c rest => rcases hs with rfl | rfl <;> rfl

theorem resolve_eq_some_iff {c : Catalog} {t : Text} {d : Definition} :
    c.resolve t = some d ↔ c.lookup t = some d
      ∨ c.lookup t = none ∧ ∃ s ∈ shorthands, s <+: t ∧ 2 < t.size ∧ c.lookup s = some d := by
  unfold resolve
  cases hlookup : c.lookup t with
  | some first => simp
  | none =>
    simp only [Option.bind_eq_some_iff, shorthand?_eq_some_iff, reduceCtorEq, false_or, true_and,
      and_assoc]

/-! ## The catalog of a list -/

/-- **Catalog of a list.**  A catalog lists the last definition of each name, in the order of
    the bytes of the names.  A name finds the last definition with this name, and else the one
    that the last definition with this alias has been replaced by; a token may also be found by
    its shorthand.  If the names are distinct and no alias is shared, the order of the list
    makes no difference. -/
theorem ofDefinitions_keeps_last (ds : List Definition) :
    ((ofDefinitions ds).definitions.Pairwise fun d e => Text.bytes d.name < Text.bytes e.name)
      ∧ (∀ d, d ∈ (ofDefinitions ds).definitions ↔ IsLast (fun e => e.name = d.name) ds d)
      ∧ (∀ n d, (ofDefinitions ds).lookup n = some d ↔ Finds ds n d)
      ∧ (∀ e ∈ ds, ∃ d, IsLast (fun d => d.name = e.name) ds d)
      ∧ (∀ n, (ofDefinitions ds).lookup n = none ↔ ∀ e ∈ ds, e.name ≠ n ∧ n ∉ e.aliases)
      ∧ (∀ t d, (ofDefinitions ds).resolve t = some d ↔ (ofDefinitions ds).lookup t = some d
          ∨ (ofDefinitions ds).lookup t = none ∧ ∃ s ∈ shorthands, s <+: t ∧ 2 < t.size
            ∧ (ofDefinitions ds).lookup s = some d)
      ∧ ((ds.map Definition.name).Nodup →
          (ds.Pairwise fun d e => d.aliases.Disjoint e.aliases) → ∀ es, ds.Perm es →
          ofDefinitions es = ofDefinitions ds
            ∧ (∀ n, (ofDefinitions es).lookup n = (ofDefinitions ds).lookup n)
            ∧ ∀ t, scan (ofDefinitions es) t = scan (ofDefinitions ds) t) := by
  refine ⟨definitions_ordered ds, fun d => mem_definitions_iff, fun n d => lookup_eq_some_iff, ?_,
    fun n => lookup_eq_none_iff, fun t d => resolve_eq_some_iff, ?_⟩
  · intro e he
    exact exists_isLast (p := fun d => d.name = e.name) he rfl
  · intro hnames haliases es hperm
    have hsame := ofDefinitions_eq_of_perm hperm hnames haliases
    rw [hsame]
    exact ⟨rfl, fun n => rfl, fun t => rfl⟩

/-- The alias of one definition may be the name of another, whichever of the two comes first. -/
theorem ofDefinitions_keeps_last_reordered :
    ∃ a b : Definition, b.name ∈ a.aliases ∧ ([b, a].map Definition.name).Nodup
      ∧ ([b, a].Pairwise fun d e => d.aliases.Disjoint e.aliases)
      ∧ ofDefinitions [a, b] = ofDefinitions [b, a] := by
  let a : Definition := { name := "$a".toList, description := [], aliases := ["$b".toList] }
  let b : Definition := { name := "$b".toList, description := [], aliases := ["$é".toList] }
  have hnames : ([b, a].map Definition.name).Nodup := by decide
  have haliases : [b, a].Pairwise fun d e => d.aliases.Disjoint e.aliases := by simp [a, b]
  obtain ⟨-, -, -, -, -, -, hreorder⟩ := ofDefinitions_keeps_last [b, a]
  have hsame := (hreorder hnames haliases [a, b] (.swap a b [])).1
  exact ⟨a, b, by decide, hnames, haliases, hsame⟩

/-! ## Aliases that are lost -/

/-- **Lost alias.**  No definition has the name `n`, and the last definition with the alias `n`
    has been replaced by a later one with its name. -/
def LosesAlias (ds : List Definition) (n : Text) : Prop :=
  (∀ e ∈ ds, e.name ≠ n) ∧ ∃ before e after, ds = before ++ e :: after ∧ n ∈ e.aliases
    ∧ (∀ later ∈ after, n ∉ later.aliases) ∧ ∃ later ∈ after, later.name = e.name

/-- What is found by a name that it has not has replaced the definition that had it. -/
theorem Finds.losesAlias {ds : List Definition} {n : Text} {d : Definition} (h : Finds ds n d)
    (hname : d.name ≠ n) (halias : n ∉ d.aliases) : LosesAlias ds n := by
  cases h with
  | named hlast => exact absurd hlast.prop hname
  | @aliased e hnone he hd =>
    obtain ⟨before, after, hds, hmem, hafter⟩ := he
    refine ⟨hnone, before, e, after, hds, hmem, hafter, ?_⟩
    -- Otherwise `e` itself is the last with its name, and it has the alias.
    by_contra hlater
    have hlast : IsLast (fun d => d.name = e.name) ds e :=
      ⟨before, after, hds, rfl, fun later hmem hsame => hlater ⟨later, hmem, hsame⟩⟩
    rw [hd.unique hlast] at halias
    exact halias hmem

/-- A lost alias finds the definition that has replaced its own. -/
theorem LosesAlias.exists_finds {ds : List Definition} {n : Text} (h : LosesAlias ds n) :
    ∃ d, Finds ds n d ∧ d.name ≠ n ∧ n ∉ d.aliases := by
  obtain ⟨hnone, before, e, after, rfl, hmem, hafter, later, hlater, hsame⟩ := h
  obtain ⟨d, hd⟩ := exists_isLast (p := fun d => d.name = e.name) hlater hsame
  have hlast : IsLast (fun d => d.name = e.name) (before ++ e :: after) d := by
    rw [List.append_cons]
    exact hd.prepend (before ++ [e])
  exact ⟨d, .aliased hnone ⟨before, after, rfl, hmem, hafter⟩ hlast, hnone d hlast.mem,
    hafter d hd.mem⟩

/-- **Foreign definitions.**  A name finds a definition that has it neither as its name nor as
    an alias exactly if the alias is lost.  Whatever names and aliases the definitions of a
    catalog have, each of them finds something, and each name its own definition. -/
theorem lookup_foreign_iff_losesAlias (ds : List Definition) :
    (∀ n, (∃ d, (ofDefinitions ds).lookup n = some d ∧ ¬ (d.name = n ∨ n ∈ d.aliases))
        ↔ LosesAlias ds n)
      ∧ ∀ d ∈ (ofDefinitions ds).definitions, (ofDefinitions ds).lookup d.name = some d
        ∧ ∀ n ∈ d.aliases, ∃ e, (ofDefinitions ds).lookup n = some e := by
  constructor
  · intro n
    simp only [lookup_eq_some_iff, not_or]
    constructor
    · rintro ⟨d, hfinds, hname, halias⟩
      exact hfinds.losesAlias hname halias
    · intro hlost
      exact hlost.exists_finds
  · intro d hd
    have hlast := mem_definitions_iff.mp hd
    refine ⟨lookup_eq_some_iff.mpr (.named hlast), ?_⟩
    intro n hn
    rw [← Option.ne_none_iff_exists']
    intro hnone
    exact (lookup_eq_none_iff.mp hnone d hlast.mem).2 hn

/-- A definition is replaced by one without its alias, and the alias finds the new one. -/
theorem alias_outlives_replaced_definition :
    ∃ d, (ofDefinitions
        [{ name := "$a".toList, description := [], aliases := ["$old".toList] },
          { name := "$a".toList, description := [] }]).lookup "$old".toList = some d
      ∧ ¬ (d.name = "$old".toList ∨ "$old".toList ∈ d.aliases) := by
  refine ⟨{ name := "$a".toList, description := [] }, by decide, by decide⟩

end Sigil.Catalog

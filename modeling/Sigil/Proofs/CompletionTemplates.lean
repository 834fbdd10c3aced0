import Sigil.Completion
import Sigil.Proofs.DefaultArguments

/-! # Templates and what is made of them

    A suggestion inserts a snippet.  An editor shows the snippet with its placeholders filled
    in, and the user writes over them as they like.

    * `Template`, `Template.read?`: what a snippet says.
    * `Template.Expands`: the texts that can be made of it.
    * `Template.Expands.balanced`: when all of them are balanced.
    * `mem_suggest`: what the snippets of suggestions look like.
    * `suggestions_expand_soundly`: what is inserted is in order for a scan. -/

namespace Sigil

/-! ## Snippets -/

/-- **Template.**  A snippet, read from left to right. -/
inductive Template where
  /-- Its end. -/
  | done
  /-- A character as it stands. -/
  | char (c : Char) (rest : Template)
  /-- A place for the cursor: `$n`. -/
  | stop (n : Nat) (rest : Template)
  /-- A place for the cursor with a text in it: `${n:initial}`. -/
  | placeholder (n : Nat) (initial rest : Template)
deriving DecidableEq, Repr

namespace Template

/-- What the characters of a snippet mean. -/
inductive Mark where
  | char (c : Char)
  | stop (n : Nat)
  /-- A placeholder starts. -/
  | opening (n : Nat)
  /-- The innermost placeholder ends. -/
  | closing
deriving DecidableEq, Repr

/-- The number that digits write. -/
def number (digits : Text) : Nat :=
  digits.foldl (fun n c => 10 * n + (c.toNat - '0'.toNat)) 0

/-- What a `$` before this text means, and how much of the text belongs to it. -/
def stop? (t : Text) : Option (Mark × Nat) :=
  match t with
  | '\x7b' :: rest =>
    let digits := rest.takeWhile Char.isDigit
    match rest.dropWhile Char.isDigit with
    | ':' :: _ =>
      if digits.isEmpty then none else some (.opening (number digits), digits.length + 2)
    | _ => none
  | _ =>
    let digits := t.takeWhile Char.isDigit
    if digits.isEmpty then none else some (.stop (number digits), digits.length)

/-- The marks of a snippet inside `depth` placeholders, its first `skip` characters left
    out.  A backslash takes the meaning from the character after it. -/
def marks (depth skip : Nat) : Text → List Mark
  | [] => []
  | c :: rest =>
    match skip with
    | skip + 1 => marks depth skip rest
    | 0 =>
      if c = '\\' then (rest.head?.map Mark.char).toList ++ marks depth 1 rest
      else if c = '$' then
        match stop? rest with
        | some (.opening n, length) => .opening n :: marks (depth + 1) length rest
        | some (mark, length) => mark :: marks depth length rest
        | none => .char c :: marks depth 0 rest
      else if c = '\x7d' ∧ depth ≠ 0 then .closing :: marks (depth - 1) 0 rest
      else .char c :: marks depth 0 rest

/-- One more mark before what has been put together: on top is what stands directly after
    the mark, below it what stands after the placeholders around it. -/
def prependMark : Mark → List Template → Option (List Template)
  | .char c, rest :: outer => some (.char c rest :: outer)
  | .stop n, rest :: outer => some (.stop n rest :: outer)
  | .closing, outer => some (.done :: outer)
  | .opening n, initial :: rest :: outer => some (.placeholder n initial rest :: outer)
  | _, _ => none

/-- The snippets that marks make up, from the last mark on. -/
def assemble : List Mark → Option (List Template)
  | [] => some [.done]
  | mark :: rest => (assemble rest).bind (prependMark mark)

/-- **Reading.**  The snippet that a text is, if all its placeholders end. -/
def read? (t : Text) : Option Template :=
  match assemble (marks 0 0 t) with
  | some [template] => some template
  | _ => none

example : read? "\\$arg$\x7b1:[$2]\x7d$0".toList
    = some (.char '$' (.char 'a' (.char 'r' (.char 'g'
        (.placeholder 1 (.char '[' (.stop 2 (.char ']' .done))) (.stop 0 .done)))))) := by
  decide

/-! ## Expansions -/

/-- **Expansion.**  The texts that can be made of a snippet: a place for the cursor takes
    any balanced text, the last one nothing, and a placeholder keeps what is in it or is
    written over with any balanced text. -/
inductive Expands : Template → Text → Prop where
  | done : Expands .done []
  | char {c : Char} {rest : Template} {out : Text} : Expands rest out →
      Expands (.char c rest) (c :: out)
  | last {rest : Template} {out : Text} : Expands rest out → Expands (.stop 0 rest) out
  | stop {n : Nat} {rest : Template} {written out : Text} : n ≠ 0 → Balanced written →
      Expands rest out → Expands (.stop n rest) (written ++ out)
  | kept {n : Nat} {initial rest : Template} {shown out : Text} : Expands initial shown →
      Expands rest out → Expands (.placeholder n initial rest) (shown ++ out)
  | overwritten {n : Nat} {initial rest : Template} {written out : Text} : Balanced written →
      Expands rest out → Expands (.placeholder n initial rest) (written ++ out)

/-- Every snippet has an expansion. -/
theorem exists_expands (template : Template) : ∃ out, template.Expands out := by
  induction template with
  | done => exact ⟨[], .done⟩
  | char c rest ih =>
    obtain ⟨out, hout⟩ := ih
    exact ⟨c :: out, .char hout⟩
  | stop n rest ih =>
    obtain ⟨out, hout⟩ := ih
    by_cases hn : n = 0
    · subst hn
      exact ⟨out, .last hout⟩
    · exact ⟨[] ++ out, .stop hn .nil hout⟩
  | placeholder n initial rest ihinitial ih =>
    obtain ⟨shown, hshown⟩ := ihinitial
    obtain ⟨out, hout⟩ := ih
    exact ⟨shown ++ out, .kept hshown hout⟩

/-! ### Balance -/

/-- The characters outside all placeholders. -/
def literal : Template → Text
  | done => []
  | char c rest => c :: rest.literal
  | stop _ rest => rest.literal
  | placeholder _ _ rest => rest.literal

/-- Are the brackets in each placeholder balanced? -/
def initialsBalanced : Template → Bool
  | done => true
  | char _ rest => rest.initialsBalanced
  | stop _ rest => rest.initialsBalanced
  | placeholder _ initial rest =>
    decide (Balanced initial.literal) && initial.initialsBalanced && rest.initialsBalanced

/-- Are the brackets of a snippet balanced, in and outside each placeholder? -/
def isBalanced (template : Template) : Bool :=
  decide (Balanced template.literal) && template.initialsBalanced

theorem isBalanced_iff {template : Template} : template.isBalanced = true
    ↔ Balanced template.literal ∧ template.initialsBalanced = true := by
  rw [isBalanced, Bool.and_eq_true, decide_eq_true_eq]

theorem exists_of_any {t : Text} (h : (read? t).any isBalanced = true) :
    ∃ template, read? t = some template ∧ template.isBalanced = true := by
  cases hread : read? t with
  | none =>
    rw [hread] at h
    cases h
  | some template =>
    rw [hread] at h
    exact ⟨template, rfl, h⟩

/-- What is written into a snippet leaves the depth of its own characters as it is. -/
theorem Expands.depthFrom? {template : Template} {out : Text} (h : template.Expands out)
    (hinitials : template.initialsBalanced = true) (d : Nat) :
    Sigil.depthFrom? d out = Sigil.depthFrom? d template.literal := by
  induction h generalizing d with
  | done => rfl
  | @char c rest out _ ih =>
    have hout : Sigil.depthFrom? d ([c] ++ out) = Sigil.depthFrom? d ([c] ++ rest.literal) := by
      simp only [depthFrom?_append, ih hinitials]
    exact hout
  | last _ ih => exact ih hinitials d
  | stop _ hwritten _ ih =>
    rw [depthFrom?_append, hwritten.depthFrom?, Option.bind_some]
    exact ih hinitials d
  | @kept n initial rest shown out _ _ ihinitial ih =>
    simp only [initialsBalanced, Bool.and_eq_true, decide_eq_true_eq] at hinitials
    obtain ⟨⟨hliteral, hinner⟩, hrest⟩ := hinitials
    rw [depthFrom?_append, ihinitial hinner, hliteral.depthFrom?, Option.bind_some]
    exact ih hrest d
  | overwritten hwritten _ ih =>
    simp only [initialsBalanced, Bool.and_eq_true] at hinitials
    rw [depthFrom?_append, hwritten.depthFrom?, Option.bind_some]
    exact ih hinitials.2 d

/-- **A balanced snippet stays balanced**, whatever is written into it. -/
theorem Expands.balanced {template : Template} {out : Text} (h : template.Expands out)
    (hbalanced : template.isBalanced = true) : Balanced out := by
  obtain ⟨hliteral, hinitials⟩ := isBalanced_iff.mp hbalanced
  rw [balanced_iff, h.depthFrom? hinitials]
  exact hliteral.depthFrom? 0

/-! ### Characters and placeholders at the start -/

/-- A text before a snippet. -/
def prepend (t : Text) (template : Template) : Template :=
  t.foldr .char template

theorem expands_char_iff {c : Char} {rest : Template} {out : Text} :
    (char c rest).Expands out ↔ ∃ tail, out = c :: tail ∧ rest.Expands tail := by
  constructor
  · intro h
    cases h with
    | char hrest => exact ⟨_, rfl, hrest⟩
  · intro ⟨tail, hout, hrest⟩
    subst hout
    exact .char hrest

theorem expands_prepend_iff {t out : Text} {rest : Template} :
    (prepend t rest).Expands out ↔ ∃ tail, out = t ++ tail ∧ rest.Expands tail := by
  induction t generalizing out with
  | nil => simp [prepend]
  | cons c t ih =>
    rw [show prepend (c :: t) rest = .char c (prepend t rest) from rfl, expands_char_iff]
    constructor
    · intro ⟨tail, hout, htail⟩
      obtain ⟨tail', rfl, hrest⟩ := ih.mp htail
      exact ⟨tail', hout, hrest⟩
    · intro ⟨tail, hout, hrest⟩
      exact ⟨t ++ tail, hout, ih.mpr ⟨tail, rfl, hrest⟩⟩

/-- A placeholder holds a balanced text in the end. -/
theorem Expands.of_placeholder {n : Nat} {initial rest : Template} {out : Text}
    (h : (placeholder n initial rest).Expands out) (hinitial : initial.isBalanced = true) :
    ∃ held tail, out = held ++ tail ∧ Balanced held ∧ rest.Expands tail := by
  cases h with
  | kept hshown hrest => exact ⟨_, _, rfl, hshown.balanced hinitial, hrest⟩
  | overwritten hwritten hrest => exact ⟨_, _, rfl, hwritten, hrest⟩

theorem isBalanced_prepend {t : Text} (ht : ∀ c ∈ t, isBracket c = false) {rest : Template}
    (hrest : rest.isBalanced = true) : (prepend t rest).isBalanced = true := by
  induction t with
  | nil => exact hrest
  | cons c t ih =>
    have htail := isBalanced_iff.mp (ih fun d hd => ht d (List.mem_cons_of_mem c hd))
    exact isBalanced_iff.mpr ⟨.plain (ht c List.mem_cons_self) htail.1, htail.2⟩

/-! ### Reading a name -/

/-- The characters of a name, with each `$` kept from starting a place for the cursor. -/
def escape (name : Text) : Text :=
  name.flatMap fun c => if c = '$' then ['\\', '$'] else [c]

theorem marks_escaped (depth : Nat) (c : Char) (t : Text) :
    marks depth 0 ('\\' :: c :: t) = .char c :: marks depth 0 t := by
  simp [marks]

theorem marks_plain {c : Char} (hescape : c ≠ '\\') (hstop : c ≠ '$') (t : Text) :
    marks 0 0 (c :: t) = .char c :: marks 0 0 t := by
  simp [marks, hescape, hstop]

/-- A name can be read back from its escaped form. -/
theorem marks_escape_append {name : Text} (h : ∀ c ∈ name, c ≠ '\\') (rest : Text) :
    marks 0 0 (escape name ++ rest) = name.map .char ++ marks 0 0 rest := by
  induction name with
  | nil => rfl
  | cons c name ih =>
    have hrest := ih fun d hd => h d (List.mem_cons_of_mem c hd)
    have hescape : escape (c :: name) = (if c = '$' then ['\\', '$'] else [c]) ++ escape name := rfl
    rw [hescape, List.map_cons, List.cons_append, ← hrest]
    by_cases hc : c = '$'
    · subst hc
      exact marks_escaped 0 '$' _
    · rw [if_neg hc]
      exact marks_plain (h c List.mem_cons_self) hc _

theorem assemble_chars {t : Text} {ms : List Mark} {rest : Template} {outer : List Template}
    (h : assemble ms = some (rest :: outer)) :
    assemble (t.map .char ++ ms) = some (prepend t rest :: outer) := by
  induction t with
  | nil => exact h
  | cons c t ih =>
    rw [List.map_cons, List.cons_append, assemble, ih]
    rfl

theorem read?_escape_append {name t : Text} {rest : Template} (h : ∀ c ∈ name, c ≠ '\\')
    (ht : read? t = some rest) : read? (escape name ++ t) = some (prepend name rest) := by
  unfold read? at ht ⊢
  split at ht
  · next template hassemble =>
    cases ht
    rw [marks_escape_append h, assemble_chars hassemble]
  · cases ht

end Template

/-! ## Suggestions -/

/-- What the template of a variable holds after its name. -/
def Definition.argumentTemplate (d : Definition) : Text :=
  if d.requiresDefault then "[$\x7b1:value\x7d, $\x7b2:default\x7d]".toList
  else if d.acceptsOptionalArguments then "$\x7b1:[$2]\x7d$0".toList
  else if d.takesBrackets then "[$\x7b1:value\x7d]".toList
  else []

theorem Definition.insertTemplate_eq (d : Definition) :
    d.insertTemplate = Template.escape d.name ++ d.argumentTemplate := by
  unfold Definition.insertTemplate Definition.argumentTemplate Template.escape
  simp only
  split
  · rfl
  · split
    · rfl
    · split
      · rfl
      · rw [List.append_nil]

/-- The template of a variable's arguments is a balanced snippet. -/
theorem Definition.exists_read_argumentTemplate (d : Definition) :
    ∃ rest, Template.read? d.argumentTemplate = some rest ∧ rest.isBalanced = true := by
  have hread : (Template.read? d.argumentTemplate).any Template.isBalanced = true := by
    unfold Definition.argumentTemplate
    split
    · decide
    · split
      · decide
      · split <;> decide
  exact Template.exists_of_any hread

/-- The template of a variable is its name and then a balanced snippet. -/
theorem Definition.read_insertTemplate {d : Definition} (h : token? d.name = some d.name)
    {rest : Template} (hrest : Template.read? d.argumentTemplate = some rest) :
    Template.read? d.insertTemplate = some (.prepend d.name rest) := by
  have hchars := not_isSeparator_of_splitToken? (splitToken?_of_token? h)
  rw [d.insertTemplate_eq]
  refine Template.read?_escape_append ?_ hrest
  intro c hc hescape
  have hseparator := hchars c hc
  rw [hescape] at hseparator
  cases hseparator

/-- The snippets that depend on the situation are balanced. -/
theorem isBalanced_contextualSnippets (cursor : Cursor) :
    ∀ s ∈ Completion.contextualSnippets cursor,
      (Template.read? s.template.toList).any Template.isBalanced = true := by
  intro s hs
  have hall : ∀ s ∈ Completion.addition :: Completion.dateFilename :: Completion.styleSnippets,
      (Template.read? s.template.toList).any Template.isBalanced = true := by
    decide
  refine hall s ?_
  simp only [Completion.contextualSnippets, List.mem_cons, List.mem_append] at hs ⊢
  rcases hs with (rfl | hs) | hs
  · exact .inl rfl
  · split at hs
    · exact .inr (.inl (List.mem_singleton.mp hs))
    · cases hs
  · split at hs
    · exact .inr (.inr hs)
    · cases hs

/-- So are the templates for arguments. -/
theorem isBalanced_argumentSnippets {parent : Text} {snippets : List Snippet}
    (h : Completion.argumentSnippets? parent = some snippets) :
    ∀ s ∈ snippets, (Template.read? s.template.toList).any Template.isBalanced = true := by
  unfold Completion.argumentSnippets? at h
  split at h
  · cases h
    decide
  · split at h
    · cases h
      decide
    · split at h
      · cases h
        decide
      · cases h

/-- A suggestion is one of a variable in the catalog or a balanced snippet. -/
theorem mem_suggest {catalog : Catalog} {cursor : Cursor} {s : Suggestion}
    (h : s ∈ Completion.suggest catalog cursor) :
    (∃ d ∈ catalog.definitions, s = .ofDefinition d)
      ∨ (s.kind = .snippet ∧ (Template.read? s.template).any Template.isBalanced = true) := by
  rw [Completion.suggest, List.mem_append] at h
  rcases h with h | h
  · split at h
    · next snippets hnested =>
      obtain ⟨snippet, hsnippet, rfl⟩ := List.mem_map.mp h
      -- Templates for arguments come from the definition that the parent stands for.
      obtain ⟨-, -, hparent⟩ := Option.bind_eq_some_iff.mp hnested
      obtain ⟨parent, -, hdefinition⟩ := Option.bind_eq_some_iff.mp hparent
      obtain ⟨definition, -, hsnippets⟩ := Option.bind_eq_some_iff.mp hdefinition
      exact .inr ⟨rfl, isBalanced_argumentSnippets hsnippets snippet hsnippet⟩
    · obtain ⟨d, hd, rfl⟩ := List.mem_map.mp h
      exact .inl ⟨d, hd, rfl⟩
  · obtain ⟨snippet, hsnippet, rfl⟩ := List.mem_map.mp h
    exact .inr ⟨rfl, isBalanced_contextualSnippets cursor snippet hsnippet⟩

/-! ### Defaults -/

/-- What is made of the arguments of a variable that needs a default: two of them. -/
theorem exists_arguments {d : Definition} (hrequires : d.requiresDefault = true)
    {rest : Template} (hrest : Template.read? d.argumentTemplate = some rest) {tail : Text}
    (htail : rest.Expands tail) : ∃ inside, Balanced inside ∧ CommaOutside inside
      ∧ tail = '[' :: (inside ++ [']']) := by
  have hread : Template.read? d.argumentTemplate = some (.char '['
      (.placeholder 1 (.prepend "value".toList .done) (.char ',' (.char ' '
        (.placeholder 2 (.prepend "default".toList .done) (.char ']' .done)))))) := by
    rw [Definition.argumentTemplate, if_pos hrequires]
    decide
  rw [hread, Option.some.injEq] at hrest
  subst hrest
  obtain ⟨inner, rfl, hinner⟩ := Template.expands_char_iff.mp htail
  obtain ⟨value, afterValue, rfl, hvalue, hcomma⟩ := hinner.of_placeholder (by decide)
  obtain ⟨afterComma, rfl, hblank⟩ := Template.expands_char_iff.mp hcomma
  obtain ⟨afterBlank, rfl, hholder⟩ := Template.expands_char_iff.mp hblank
  obtain ⟨fallback, afterFallback, rfl, hfallback, hclosing⟩ := hholder.of_placeholder (by decide)
  obtain ⟨final, rfl, hdone⟩ := Template.expands_char_iff.mp hclosing
  cases hdone
  have hinside : Balanced (value ++ ',' :: ' ' :: fallback) :=
    hvalue.append (.plain (by decide) (.plain (by decide) hfallback))
  exact ⟨value ++ ',' :: ' ' :: fallback, hinside, ⟨value, ' ' :: fallback, rfl, hvalue⟩, by simp⟩

/-- **A default that is given is found.**  A name with two arguments after it opens a frame
    that is closed, and no default is missed in it. -/
theorem frame_of_arguments (catalog : Catalog) {name inside : Text}
    (hname : token? name = some name) (hinside : Balanced inside)
    (hcomma : CommaOutside inside) :
    ∃ f stop, .closed f stop ∈ (brackets (name ++ '[' :: (inside ++ [']']))).1
      ∧ f.owner = some name ∧ f.opened = name.size
      ∧ (scan catalog (name ++ '[' :: (inside ++ [']']))).filter
          (fun g => g.offset == name.size + 1 && g.isMissingDefault) = [] := by
  have hpair : Partners (name ++ '[' :: (inside ++ [']'])) name.size
      (name.size + 1 + inside.size) :=
    ⟨name, inside, [], rfl, hinside, rfl, rfl⟩
  -- The bracket ends the name, so the name is the token before it.
  have htoken : TokenBefore (name ++ '[' :: (inside ++ [']'])) name name.size :=
    ⟨0, .here (splitToken?_append_opening hname _), Nat.zero_add _⟩
  have hclosed := closed_of_partners hpair htoken
  refine ⟨_, _, hclosed, rfl, rfl, ?_⟩
  refine missingDefaults_of_comma catalog hclosed ?_
  show ',' ∈ outside 0 (Text.slice _ _ _)
  rw [slice_between, ← commaOutside_iff_outside hinside]
  exact hcomma

/-! ### What is inserted -/

/-- A balanced text can be written between brackets. -/
theorem Balanced.insert_between {inside before after : Text} (hinside : Balanced inside)
    (hempty : Balanced (before ++ '[' :: ']' :: after)) :
    Balanced (before ++ '[' :: (inside ++ ']' :: after)) := by
  rw [balanced_iff] at hempty ⊢
  simp only [depthFrom?_append, depthFrom?_opening, depthFrom?_closing_succ,
    hinside.depthFrom?, Option.bind_some] at hempty ⊢
  exact hempty

open Completion in
/-- **Templates are sound.**  In a catalog of variables whose names are tokens, each suggestion
    is a snippet.  Whatever is written into it, a scan finds its brackets in order, also if it
    is inserted between brackets, such as those of the variable whose arguments it gives.  For
    a variable, its name comes first; and if it needs a default, its brackets are closed and no
    default is missed in them. -/
theorem suggestions_expand_soundly (catalog : Catalog)
    (hnames : ∀ d ∈ catalog.definitions, token? d.name = some d.name) (cursor : Cursor)
    (s : Suggestion) (hs : s ∈ suggest catalog cursor) :
    ∃ template, Template.read? s.template = some template ∧ (∃ out, template.Expands out)
      ∧ ∀ out, template.Expands out →
        structural (scan catalog out) = []
        ∧ (∀ before after : Text, Balanced (before ++ '[' :: ']' :: after) →
            structural (scan catalog (before ++ '[' :: (out ++ ']' :: after))) = [])
        ∧ (s.kind = .variableName → ∃ d ∈ catalog.definitions, s = .ofDefinition d
            ∧ (∃ tail, out = d.name ++ tail)
            ∧ (d.requiresDefault = true → ∃ f stop, .closed f stop ∈ (brackets out).1
                ∧ f.owner = some d.name ∧ f.opened = d.name.size
                ∧ (scan catalog out).filter
                    (fun g => g.offset == d.name.size + 1 && g.isMissingDefault) = [])) := by
  have hplaces : ∀ out, Balanced out → structural (scan catalog out) = []
      ∧ ∀ before after : Text, Balanced (before ++ '[' :: ']' :: after) →
          structural (scan catalog (before ++ '[' :: (out ++ ']' :: after))) = [] :=
    fun out hout => ⟨structural_scan_of_balanced catalog hout, fun before after hempty =>
      structural_scan_of_balanced catalog (hout.insert_between hempty)⟩
  rcases mem_suggest hs with ⟨d, hd, rfl⟩ | ⟨hkind, hbalanced⟩
  · have hname := hnames d hd
    obtain ⟨rest, hrest, hbalanced⟩ := d.exists_read_argumentTemplate
    refine ⟨.prepend d.name rest, d.read_insertTemplate hname hrest, Template.exists_expands _, ?_⟩
    intro out hout
    have hprepend := Template.isBalanced_prepend (isBracket_of_token? hname) hbalanced
    obtain ⟨hscan, hbetween⟩ := hplaces out (hout.balanced hprepend)
    obtain ⟨tail, rfl, htail⟩ := Template.expands_prepend_iff.mp hout
    refine ⟨hscan, hbetween, ?_⟩
    intro _
    refine ⟨d, hd, rfl, ⟨tail, rfl⟩, ?_⟩
    intro hrequires
    obtain ⟨inside, hinside, hcomma, rfl⟩ := exists_arguments hrequires hrest htail
    exact frame_of_arguments catalog hname hinside hcomma
  · obtain ⟨template, hread, htemplate⟩ := Template.exists_of_any hbalanced
    refine ⟨template, hread, Template.exists_expands _, ?_⟩
    intro out hout
    obtain ⟨hscan, hbetween⟩ := hplaces out (hout.balanced htemplate)
    refine ⟨hscan, hbetween, ?_⟩
    intro hvariable
    rw [hkind] at hvariable
    cases hvariable

/-- Brackets are written into the first argument, and a number into the second. -/
theorem suggestions_expand_soundly_overwritten :
    ∃ (d : Definition) (template : Template), d.name = "$d".toList ∧ d.requiresDefault = true
      ∧ .ofDefinition d ∈ Completion.suggest (.ofDefinitions [d]) {}
      ∧ Template.read? d.insertTemplate = some template
      ∧ template.Expands "$d[x[1], 0]".toList
      ∧ structural (scan (.ofDefinitions [d]) "$d[x[1], 0]".toList) = []
      ∧ structural (scan (.ofDefinitions [d]) "$math[$d[x[1], 0]]".toList) = []
      ∧ (scan (.ofDefinitions [d]) "$d[x[1], 0]".toList).filter
          (fun g => g.offset == 3 && g.isMissingDefault) = [] := by
  let d : Definition := { name := "$d".toList, description := [], requiresDefault := true }
  have hnames : ∀ e ∈ (Catalog.ofDefinitions [d]).definitions, token? e.name = some e.name := by
    decide
  have hs : .ofDefinition d ∈ Completion.suggest (.ofDefinitions [d]) {} := by
    decide
  obtain ⟨template, hread, -, hsound⟩ := suggestions_expand_soundly _ hnames {} _ hs
  have htemplate : Template.read? d.insertTemplate = some (.prepend "$d[".toList
      (.placeholder 1 (.prepend "value".toList .done) (.prepend ", ".toList
        (.placeholder 2 (.prepend "default".toList .done) (.char ']' .done))))) := by
    decide
  have hexpands : template.Expands "$d[x[1], 0]".toList := by
    obtain rfl := Option.some.inj (hread.symm.trans htemplate)
    have hvalue : Balanced "x[1]".toList := by decide
    have hdefault : Balanced "0".toList := by decide
    exact Template.expands_prepend_iff.mpr ⟨"x[1], 0]".toList, by decide, .overwritten hvalue
      (Template.expands_prepend_iff.mpr ⟨"0]".toList, by decide, .overwritten hdefault
        (.char .done)⟩)⟩
  obtain ⟨hscan, hbetween, hvariable⟩ := hsound _ hexpands
  obtain ⟨e, he, -, -, hdefault⟩ := hvariable rfl
  have honly : (Catalog.ofDefinitions [d]).definitions = [d] := by
    decide
  rw [honly, List.mem_singleton] at he
  subst he
  obtain ⟨-, -, -, -, -, hmissing⟩ := hdefault rfl
  exact ⟨d, template, rfl, rfl, hs, hread, hexpands, hscan,
    hbetween "$math".toList [] (by decide), hmissing⟩

end Sigil

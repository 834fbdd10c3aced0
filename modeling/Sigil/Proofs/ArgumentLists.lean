import Sigil.Argument.Basic
import Sigil.Proofs.TextSpans

/-! # Lists of arguments

    The commas outside nested brackets divide a list into its arguments, which can be written
    down again with commas between them.

    * `splitCommas_append`: a text that holds no dividing comma becomes part of one piece.
    * `exists_first_comma`: where the first piece ends.
    * `Argument.Layout`: how arguments, blanks and commas make up a list.
    * `Argument.layout_split`: the arguments of a list are laid out in it.
    * `Argument.split_intercalate`: what is written as a list is read back.
    * `Argument.split_exact`: the two directions together. -/

namespace Sigil

/-! ## Pieces -/

/-- A character that divides nothing is part of the piece that the rest starts with. -/
theorem splitCommas_cons {c : Char} {d : Nat} (h : ¬ (c = ',' ∧ d = 0)) (t : Text) :
    splitCommas d (c :: t) = (splitCommas (depthAfter d c) t).modifyHead (c :: ·) := by
  rw [splitCommas, if_neg h]
  cases hpieces : splitCommas (depthAfter d c) t with
  | nil => exact absurd hpieces (splitCommas_ne_nil _ t)
  | cons piece pieces => rfl

theorem splitCommas_comma (t : Text) : splitCommas 0 (',' :: t) = [] :: splitCommas 0 t := by
  rw [splitCommas, if_pos ⟨rfl, rfl⟩]

theorem depthAfter_of_not_isBracket {c : Char} (h : isBracket c = false) (d : Nat) :
    depthAfter d c = d := by
  simp only [isBracket, Bool.or_eq_false_iff, beq_eq_false_iff_ne] at h
  rw [depthAfter, if_neg h.1, if_neg h.2]

/-- A character that divides nothing is no comma outside brackets. -/
theorem count_outside_cons {c : Char} {d : Nat} (h : ¬ (c = ',' ∧ d = 0)) (t : Text) :
    (outside d (c :: t)).count ',' = (outside (depthAfter d c) t).count ',' := by
  rcases bracket_cases c with rfl | rfl | hc
  · rw [outside_opening]
    rfl
  · rw [outside_closing]
    rfl
  · rw [outside_plain hc, depthAfter_of_not_isBracket hc]
    by_cases hd : d = 0
    · have hcomma : c ≠ ',' := fun heq => h ⟨heq, hd⟩
      rw [if_pos hd, List.count_cons_of_ne hcomma]
    · rw [if_neg hd]

/-- **Splitting** cuts at the commas outside brackets. -/
theorem length_splitCommas (d : Nat) (t : Text) :
    (splitCommas d t).length = (outside d t).count ',' + 1 := by
  induction t generalizing d with
  | nil => rfl
  | cons c t ih =>
    by_cases h : c = ',' ∧ d = 0
    · obtain ⟨rfl, rfl⟩ := h
      rw [splitCommas_comma, outside_plain (by decide), if_pos rfl, List.count_cons_self,
        List.length_cons, ih]
    · rw [splitCommas_cons h, count_outside_cons h, List.length_modifyHead, ih]

/-- There are as many arguments as commas outside brackets, and one more. -/
theorem length_split (content : Text) :
    (Argument.split content).length = (outside 0 content).count ',' + 1 := by
  rw [Argument.split, Argument.length_ofPieces, length_splitCommas]

/-- A character that divides nothing leaves the dividing commas to the rest. -/
theorem comma_mem_outside_cons {c : Char} {d : Nat} (h : ¬ (c = ',' ∧ d = 0)) {t : Text} :
    ',' ∈ outside d (c :: t) ↔ ',' ∈ outside (depthAfter d c) t := by
  rw [← List.count_pos_iff, ← List.count_pos_iff, count_outside_cons h]

/-- The depth after a text is the one that it leaves open. -/
theorem foldl_depthAfter {d e : Nat} {t : Text} (h : depthFrom? d t = some e) :
    t.foldl depthAfter d = e := by
  induction t generalizing d with
  | nil => exact Option.some.inj h
  | cons c t ih =>
    rw [List.foldl_cons]
    apply ih
    rcases bracket_cases c with rfl | rfl | hc
    · rwa [depthFrom?_opening] at h
    · cases d with
      | zero => simp at h
      | succ d => rwa [depthFrom?_closing_succ] at h
    · rwa [depthFrom?_plain hc, ← depthAfter_of_not_isBracket hc d] at h

/-- A text that holds no dividing comma is part of the piece that the rest starts with. -/
theorem splitCommas_append {d : Nat} {s : Text} (h : ',' ∉ outside d s) (t : Text) :
    splitCommas d (s ++ t) = (splitCommas (s.foldl depthAfter d) t).modifyHead (s ++ ·) := by
  induction s generalizing d with
  | nil =>
    show splitCommas d t = (splitCommas d t).modifyHead id
    rw [List.modifyHead_id, id]
  | cons c s ih =>
    have hplain : ¬ (c = ',' ∧ d = 0) := by
      intro hc
      obtain ⟨rfl, rfl⟩ := hc
      rw [outside_plain (by decide), if_pos rfl] at h
      exact h List.mem_cons_self
    have hnone : ',' ∉ outside (depthAfter d c) s := mt (comma_mem_outside_cons hplain).mpr h
    rw [List.cons_append, splitCommas_cons hplain, ih hnone, List.modifyHead_modifyHead]
    rfl

/-- A text that holds no dividing comma is one piece. -/
theorem splitCommas_of_not_mem {d : Nat} {t : Text} (h : ',' ∉ outside d t) :
    splitCommas d t = [t] := by
  have hsplit := splitCommas_append h []
  rwa [List.append_nil, splitCommas, List.modifyHead_cons, List.append_nil] at hsplit

/-- The first comma that divides a text, if there is one. -/
theorem exists_first_comma (d : Nat) (t : Text) : ',' ∉ outside d t
    ∨ ∃ s u, t = s ++ ',' :: u ∧ s.foldl depthAfter d = 0 ∧ ',' ∉ outside d s := by
  induction t generalizing d with
  | nil => exact .inl (by simp [outside])
  | cons c t ih =>
    by_cases h : c = ',' ∧ d = 0
    · obtain ⟨rfl, rfl⟩ := h
      exact .inr ⟨[], t, rfl, rfl, by simp [outside]⟩
    · rcases ih (depthAfter d c) with hnone | ⟨s, u, rfl, hdepth, hnone⟩
      · exact .inl (mt (comma_mem_outside_cons h).mp hnone)
      · exact .inr ⟨c :: s, u, rfl, hdepth, mt (comma_mem_outside_cons h).mp hnone⟩

namespace Argument

/-! ## Arguments in their list -/

/-- **Layout.**  From the offset `start` on, the text reads: blanks, an argument, blanks, and
    so on after one comma if there are more arguments.  Each argument is trimmed and has the
    offset of its place.  The comma stands outside brackets, and it is the first that does. -/
inductive Layout : Nat → Text → List Argument → Prop where
  | last {start : Nat} {before text after : Text} : (∀ c ∈ before, isBlank c = true) →
      text.IsTrimmed → (∀ c ∈ after, isBlank c = true) →
      ',' ∉ outside 0 (before ++ (text ++ after)) →
      Layout start (before ++ (text ++ after)) [{ offset := start + before.size, text }]
  | comma {start : Nat} {before text after rest : Text} {arguments : List Argument} :
      (∀ c ∈ before, isBlank c = true) → text.IsTrimmed → (∀ c ∈ after, isBlank c = true) →
      ',' ∉ outside 0 (before ++ (text ++ after)) →
      (before ++ (text ++ after)).foldl depthAfter 0 = 0 →
      Layout (start + (before.size + text.size + after.size) + 1) rest arguments →
      Layout start (before ++ (text ++ (after ++ ',' :: rest)))
        ({ offset := start + before.size, text } :: arguments)

/-- An argument stands among the blanks of its piece. -/
theorem exists_ofPiece (start : Nat) (piece : Text) : ∃ before text after : Text,
    piece = before ++ (text ++ after) ∧ ofPiece start piece = { offset := start + before.size, text }
      ∧ (∀ c ∈ before, isBlank c = true) ∧ text.IsTrimmed ∧ ∀ c ∈ after, isBlank c = true := by
  obtain ⟨before, after, hcut, hsize, hbefore, hafter⟩ := piece.exists_trim
  refine ⟨before, piece.trim, after, hcut, ?_, hbefore, piece.isTrimmed_trim, hafter⟩
  rw [ofPiece, hsize]

/-- The arguments in the pieces of a text are laid out in it. -/
theorem layout_ofPieces (start : Nat) (t : Text) :
    Layout start t (ofPieces start (splitCommas 0 t)) := by
  -- Each piece leaves a shorter text behind its comma.
  induction hlength : t.length using Nat.strongRecOn generalizing start t with
  | _ length ih =>
    subst hlength
    rcases exists_first_comma 0 t with hnone | ⟨piece, rest, rfl, hdepth, hnone⟩
    · obtain ⟨before, text, after, rfl, hargument, hbefore, htext, hafter⟩ := exists_ofPiece start t
      rw [splitCommas_of_not_mem hnone, ofPieces, hargument]
      exact .last hbefore htext hafter hnone
    · have hpieces : splitCommas 0 (piece ++ ',' :: rest) = piece :: splitCommas 0 rest := by
        rw [splitCommas_append hnone, hdepth, splitCommas_comma, List.modifyHead_cons,
          List.append_nil]
      have hshorter : rest.length < (piece ++ ',' :: rest).length := by
        simp only [List.length_append, List.length_cons]
        omega
      have hrest := ih rest.length hshorter (start + piece.size + 1) rest rfl
      obtain ⟨before, text, after, rfl, hargument, hbefore, htext, hafter⟩ :=
        exists_ofPiece start piece
      have hsize : Text.size (before ++ (text ++ after)) = before.size + text.size + after.size := by
        rw [Text.size_append, Text.size_append, Nat.add_assoc]
      rw [hsize] at hrest
      rw [hpieces, ofPieces, hargument, hsize, List.append_assoc, List.append_assoc]
      exact .comma hbefore htext hafter hnone hdepth hrest

/-- **Arguments are laid out in their list.** -/
theorem layout_split (content : Text) : Layout 0 content (split content) :=
  layout_ofPieces 0 content

theorem Layout.partAt {start : Nat} {t whole : Text} {arguments : List Argument}
    (h : Layout start t arguments) (ht : whole.PartAt start t) :
    ∀ a ∈ arguments, whole.PartAt a.offset a.text := by
  induction h with
  | @last start before text after _ _ _ _ =>
    intro a ha
    rw [List.mem_singleton] at ha
    subst ha
    exact ht.trans ⟨before, after, rfl, rfl⟩
  | @comma start before text after rest arguments _ _ _ _ _ _ ih =>
    intro a ha
    rcases List.mem_cons.mp ha with rfl | ha
    · exact ht.trans ⟨before, after ++ ',' :: rest, rfl, rfl⟩
    · -- The rest starts behind the comma.
      refine ih ?_ a ha
      have hrest : Text.PartAt (before ++ (text ++ (after ++ ',' :: rest)))
          (before.size + text.size + after.size + 1) rest := by
        refine ⟨before ++ (text ++ (after ++ [','])), [], ?_, ?_⟩
        · simp
        · simp only [Text.size_append, Text.size_cons, Text.size_nil]
          rw [show Char.utf8Size ',' = 1 from rfl]
          omega
      exact ht.trans hrest

/-- **Arguments are parts of their list.** -/
theorem partAt_of_mem_split {a : Argument} {content : Text} (h : a ∈ split content) :
    content.PartAt a.offset a.text :=
  (layout_split content).partAt content.partAt_self a h

/-! ## Writing a list and reading it back -/

/-- The arguments in a list that is written from the offset `start` on, with a comma and a
    space between any two. -/
def written (start : Nat) : List Text → List Argument
  | [] => []
  | text :: rest => { offset := start, text } :: written (start + text.size + 2) rest

/-- The pieces of a list are the texts in it, and the space after a comma. -/
theorem splitCommas_intercalate (text : Text) {rest : List Text}
    (h : ∀ t ∈ text :: rest, Balanced t ∧ ',' ∉ outside 0 t) :
    splitCommas 0 (List.intercalate [',', ' '] (text :: rest)) = text :: rest.map (' ' :: ·) := by
  induction rest generalizing text with
  | nil =>
    rw [List.intercalate_singleton]
    exact splitCommas_of_not_mem (h text List.mem_cons_self).2
  | cons next rest ih =>
    obtain ⟨hbalanced, hcomma⟩ := h text List.mem_cons_self
    have hrest := ih next fun t ht => h t (List.mem_cons_of_mem _ ht)
    have hall : List.intercalate [',', ' '] (text :: next :: rest)
        = text ++ ',' :: ' ' :: List.intercalate [',', ' '] (next :: rest) := by
      rw [List.intercalate_cons_cons, List.append_assoc]
      rfl
    rw [hall, splitCommas_append hcomma, foldl_depthAfter (hbalanced.depthFrom? 0),
      splitCommas_comma, splitCommas_cons (by decide), show depthAfter 0 ' ' = 0 from rfl, hrest]
    simp

theorem ofPiece_of_isTrimmed {t : Text} (h : t.IsTrimmed) (start : Nat) :
    ofPiece start t = { offset := start, text := t } := by
  rw [ofPiece, h.trimStart_eq, Nat.sub_self, show t.trim = t from h, Nat.add_zero]

theorem ofPiece_space {t : Text} (h : t.IsTrimmed) (start : Nat) :
    ofPiece start (' ' :: t) = { offset := start + 1, text := t } := by
  -- The space is cut off before anything else.
  have hstart : Text.trimStart (' ' :: t) = t := h.trimStart_eq
  have htrim : Text.trim (' ' :: t) = t := h
  rw [ofPiece, hstart, htrim, Text.size_cons, Nat.add_sub_cancel]
  rfl

theorem ofPieces_spaces {texts : List Text} (h : ∀ t ∈ texts, t.IsTrimmed) (start : Nat) :
    ofPieces start (texts.map (' ' :: ·)) = written (start + 1) texts := by
  induction texts generalizing start with
  | nil => rfl
  | cons t texts ih =>
    have hsize : start + Text.size (' ' :: t) + 1 + 1 = start + 1 + t.size + 2 := by
      rw [Text.size_cons, show Char.utf8Size ' ' = 1 from rfl]
      omega
    rw [List.map_cons, ofPieces, written, ofPiece_space (h t List.mem_cons_self),
      ih (fun u hu => h u (List.mem_cons_of_mem _ hu)), hsize]

/-- **A list is read as it is written.** -/
theorem split_intercalate {texts : List Text} (hne : texts ≠ [])
    (h : ∀ t ∈ texts, t.IsTrimmed ∧ Balanced t ∧ ',' ∉ outside 0 t) :
    split (List.intercalate [',', ' '] texts) = written 0 texts := by
  obtain ⟨text, rest, rfl⟩ := List.exists_cons_of_ne_nil hne
  have htrimmed : ∀ t ∈ rest, t.IsTrimmed := fun t ht => (h t (List.mem_cons_of_mem _ ht)).1
  rw [split, splitCommas_intercalate text fun t ht => (h t ht).2, ofPieces, written,
    ofPiece_of_isTrimmed (h text List.mem_cons_self).1, ofPieces_spaces htrimmed]

/-- **Splitting is exact.**  A list has one argument more than commas outside brackets; the
    arguments are trimmed parts of it, with blanks around them and one dividing comma between
    any two.
    Conversely, trimmed texts without dividing commas are read back from the list of them,
    each at the place where it was written. -/
theorem split_exact :
    (∀ content : Text, (split content).length = 1 + (outside 0 content).count ','
      ∧ Layout 0 content (split content)
      ∧ ∀ a ∈ split content, Text.slice content a.offset (a.offset + a.text.size) = a.text)
    ∧ ∀ texts : List Text, texts ≠ [] →
        (∀ t ∈ texts, t.IsTrimmed ∧ Balanced t ∧ ',' ∉ outside 0 t) →
        split (List.intercalate ", ".toList texts) = written 0 texts := by
  constructor
  · intro content
    refine ⟨?_, layout_split content, ?_⟩
    · rw [length_split, Nat.add_comm]
    · intro a ha
      exact (partAt_of_mem_split ha).slice_eq
  · intro texts hne h
    exact split_intercalate hne h

/-- An argument with a comma in brackets, an empty one and a plain one. -/
theorem split_exact_nested :
    ["é[a, b]".toList, [], "x".toList] ≠ []
      ∧ (∀ t ∈ ["é[a, b]".toList, [], "x".toList],
          Text.IsTrimmed t ∧ Balanced t ∧ ',' ∉ outside 0 t)
      ∧ split "é[a, b], , x".toList
        = [⟨0, "é[a, b]".toList⟩, ⟨10, []⟩, ⟨12, "x".toList⟩] := by
  have hne : ["é[a, b]".toList, [], "x".toList] ≠ [] := by decide
  have htexts : ∀ t ∈ ["é[a, b]".toList, [], "x".toList],
      Text.IsTrimmed t ∧ Balanced t ∧ ',' ∉ outside 0 t := by
    decide
  exact ⟨hne, htexts, split_exact.2 _ hne htexts⟩

end Argument

end Sigil

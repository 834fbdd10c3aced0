import Sigil.Json.Reader
import Sigil.Proofs.Tables

/-! # Reading what was printed

    The printer writes the members of an object in the order in which they are held, and the
    reader puts them in order.  So what is read is what was printed, with its objects put in
    order.  This is shown for values without numbers: the text of such a value ends where it
    ends, whatever follows it.

    * `Json.canonical`: the value with all its objects put in order.
    * `Json.Plain`: no numbers, and a bound on the nesting.
    * `Json.Reads`: a text that is read as a value, whatever follows it; one lemma for each
      kind of value says how it is composed.
    * `Json.read_render`: reading what was printed. -/

namespace Sigil.Json

/-! ## Values -/

mutual

/-- The value with the members of all its objects in order. -/
def canonical : Json → Json
  | null => null
  | bool b => bool b
  | integer n => integer n
  | double bits => double bits
  | string s => string s
  | array elements => array (canonicalElements elements)
  | object members => ofMembers (canonicalMembers members)

/-- The same for each element. -/
def canonicalElements : List Json → List Json
  | [] => []
  | element :: rest => element.canonical :: canonicalElements rest

/-- The same for the value of each member. -/
def canonicalMembers : List (Text × Json) → List (Text × Json)
  | [] => []
  | (name, value) :: rest => (name, value.canonical) :: canonicalMembers rest

end

theorem canonicalElements_eq_map (elements : List Json) :
    canonicalElements elements = elements.map canonical := by
  induction elements with
  | nil => rfl
  | cons element rest ih => rw [canonicalElements, ih, List.map_cons]

theorem canonicalMembers_eq_map (members : List (Text × Json)) :
    canonicalMembers members = members.map fun m => (m.1, m.2.canonical) := by
  induction members with
  | nil => rfl
  | cons member rest ih => rw [canonicalMembers, ih, List.map_cons]

/-- An object that is in order is put in order by its values alone. -/
theorem canonical_ofMembers (members : List (Text × Json)) :
    (ofMembers members).canonical
      = ofMembers (members.map fun m => (m.1, m.2.canonical)) := by
  unfold ofMembers
  rw [canonical, canonicalMembers_eq_map, ← Table.ofEntries_map, ofMembers]
  congr 1
  exact (Table.sorted_ofEntries _).ofEntries_eq

/-- **Plain values.**  There is no number in the value, and in it at most `levels` arrays and
    objects stand one in another. -/
inductive Plain : (levels : Nat) → Json → Prop where
  | null {levels : Nat} : Plain levels .null
  | bool {levels : Nat} {b : Bool} : Plain levels (.bool b)
  | string {levels : Nat} {s : Text} : Plain levels (.string s)
  | array {levels : Nat} {elements : List Json} : (∀ e ∈ elements, Plain levels e) →
      Plain (levels + 1) (.array elements)
  | object {levels : Nat} {members : List (Text × Json)} : (∀ m ∈ members, Plain levels m.2) →
      Plain (levels + 1) (.object members)

theorem Plain.ofMembers {levels : Nat} {members : List (Text × Json)}
    (h : ∀ m ∈ members, Plain levels m.2) : Plain (levels + 1) (Json.ofMembers members) :=
  .object fun m hm => h m (Table.mem_ofEntries hm)

/-! ## Cursors -/

/-- The characters that the reader passes over. -/
def isSpace (c : Char) : Bool :=
  c == ' ' || c == '\n' || c == '\t' || c == '\r'

theorem Cursor.skipBlanks_cons {c : Char} (h : isSpace c = false) (offset : Nat) (t : Text) :
    (⟨offset, c :: t⟩ : Cursor).skipBlanks = ⟨offset, c :: t⟩ := by
  have hblank : (c == ' ' || c == '\n' || c == '\t' || c == '\r') = false := h
  simp [skipBlanks, skipWhile, hblank]

/-! ## Strings -/

/-- A control character is written with four digits, which stand for it. -/
theorem fourHexDigits_control : ∀ n < 0x20, (fourHexDigits n).length = 4
    ∧ (fourHexDigits n).size = 4
    ∧ ((fourHexDigits n).mapM hexDigit?).map (fun ds => ds.foldl (fun n d => 16 * n + d) 0)
      = some n := by
  decide

theorem readFourHexDigits_append {n : Nat} (h : n < 0x20) (offset : Nat) (t : Text) :
    readFourHexDigits ⟨offset, fourHexDigits n ++ t⟩ = .ok (n, ⟨offset + 4, t⟩) := by
  obtain ⟨hlength, hsize, hvalue⟩ := fourHexDigits_control n h
  obtain ⟨digits, hdigits, hfold⟩ := Option.map_eq_some_iff.mp hvalue
  have hroom : ¬ Text.size (fourHexDigits n ++ t) < 4 := by
    rw [Text.size_append]
    omega
  have htake : (fourHexDigits n ++ t).take 4 = fourHexDigits n := by
    rw [← hlength, List.take_left]
  have hdrop : (fourHexDigits n ++ t).drop 4 = t := by
    rw [← hlength, List.drop_left]
  unfold readFourHexDigits
  simp only [if_neg hroom, htake, hdrop, hdigits, hfold]

theorem readUnicodeEscape_control {c : Char} (h : c.toNat < 0x20) (offset : Nat) (t : Text) :
    readUnicodeEscape ⟨offset, fourHexDigits c.toNat ++ t⟩ = .ok (c, ⟨offset + 4, t⟩) := by
  have hlow : ¬ 0xDC00 ≤ c.toNat := by omega
  have hunit : c.toNat < 0xD800 := by omega
  unfold readUnicodeEscape
  rw [readFourHexDigits_append h]
  simp [bind, Except.bind, hlow, hunit, pure, Except.pure, Char.ofNat_toNat]

/-- What has to be read after a character of a string. -/
def readMore (c : Char) (fuel : Nat) (cur : Cursor) : Except Fault (Text × Cursor) := do
  let (more, cur) ← readString fuel cur
  return (c :: more, cur)

/-- An escape is read as the character it stands for. -/
theorem readString_escape {c : Char} {escape : Text} {fuel offset : Nat} {t : Text}
    (h : readEscape ⟨offset + 1, escape ++ t⟩ = .ok (c, ⟨offset + 1 + escape.size, t⟩)) :
    readString (fuel + 1) ⟨offset, '\\' :: escape ++ t⟩
      = readMore c fuel ⟨offset + Text.size ('\\' :: escape), t⟩ := by
  have hsize : offset + Text.size ('\\' :: escape) = offset + 1 + escape.size := by
    rw [Text.size_cons, Nat.add_assoc]
    rfl
  have hread : readString (fuel + 1) ⟨offset, '\\' :: (escape ++ t)⟩
      = readEscape ⟨offset + 1, escape ++ t⟩ >>= fun decoded =>
        readMore decoded.1 fuel decoded.2 := rfl
  rw [List.cons_append, hread, h, hsize]
  rfl

/-- One character of a string. -/
theorem readString_escapeChar (c : Char) (fuel offset : Nat) (t : Text) :
    readString (fuel + 1) ⟨offset, escapeChar c ++ t⟩
      = readMore c fuel ⟨offset + (escapeChar c).size, t⟩ := by
  have hchar : ∀ n, c.toNat = n → c = Char.ofNat n := by
    intro n hn
    rw [← hn, Char.ofNat_toNat]
  unfold escapeChar
  split
  · exact readString_escape rfl
  · exact readString_escape rfl
  · exact readString_escape rfl
  · exact readString_escape rfl
  · exact readString_escape rfl
  · next hquote hslash _ _ _ =>
    by_cases hb : c.toNat = 0x08
    · rw [if_pos hb]
      exact readString_escape (by rw [hchar _ hb]; rfl)
    · rw [if_neg hb]
      by_cases hf : c.toNat = 0x0C
      · rw [if_pos hf]
        exact readString_escape (by rw [hchar _ hf]; rfl)
      · rw [if_neg hf]
        by_cases hcontrol : c.toNat < 0x20
        · -- All other controls are written with their number.
          rw [if_pos hcontrol]
          have hsize : Text.size ('u' :: fourHexDigits c.toNat) = 1 + 4 := by
            rw [Text.size_cons, (fourHexDigits_control c.toNat hcontrol).2.1]
            rfl
          have hescape : readEscape ⟨offset + 1, ('u' :: fourHexDigits c.toNat) ++ t⟩
              = .ok (c, ⟨offset + 1 + Text.size ('u' :: fourHexDigits c.toNat), t⟩) := by
            rw [hsize, ← Nat.add_assoc]
            exact readUnicodeEscape_control hcontrol (offset + 1 + 1) t
          exact readString_escape hescape
        · rw [if_neg hcontrol]
          rw [List.singleton_append, readString]
          simp only [if_neg hquote, if_neg hslash, if_neg hcontrol]
          rfl

/-- The characters of a string, each escaped where it has to be. -/
def escaped (s : Text) : Text :=
  s.flatMap escapeChar

theorem escaped_cons (c : Char) (s : Text) : escaped (c :: s) = escapeChar c ++ escaped s := by
  rw [escaped, List.flatMap_cons]
  rfl

/-- **Strings.**  A string is read up to its closing quote. -/
theorem readString_escaped (s : Text) {fuel : Nat} (hfuel : s.length < fuel) (offset : Nat)
    (rest : Text) : readString fuel ⟨offset, escaped s ++ '"' :: rest⟩
      = .ok (s, ⟨offset + (escaped s).size + 1, rest⟩) := by
  induction s generalizing fuel offset with
  | nil =>
    cases fuel with
    | zero => cases hfuel
    | succ fuel => rfl
  | cons c s ih =>
    cases fuel with
    | zero => cases hfuel
    | succ fuel =>
      have hmore := ih (Nat.lt_of_succ_lt_succ hfuel) (offset + (escapeChar c).size)
      have hsize : offset + (escapeChar c).size + (escaped s).size
          = offset + (escaped (c :: s)).size := by
        rw [escaped_cons, Text.size_append, Nat.add_assoc]
      rw [escaped_cons, List.append_assoc, readString_escapeChar, readMore, hmore, hsize,
        escaped_cons]
      rfl

theorem escapeChar_ne_nil (c : Char) : escapeChar c ≠ [] := by
  fun_cases escapeChar c <;> simp

/-- Escaping makes no string shorter. -/
theorem length_le_length_escaped (s : Text) : s.length ≤ (escaped s).length := by
  induction s with
  | nil => exact Nat.le_refl 0
  | cons c s ih =>
    have hpos : 0 < (escapeChar c).length := List.length_pos_iff.mpr (escapeChar_ne_nil c)
    rw [escaped_cons, List.length_append, List.length_cons]
    omega

/-! ## Values -/

/-- **Reading a value.**  The text is read as the value, whatever follows it, when no more
    than `levels` levels are to be entered. -/
structure Reads (levels : Nat) (text : Text) (value : Json) : Prop where
  /-- The text starts with something that starts a value. -/
  head : ∃ c more, text = c :: more ∧ isSpace c = false ∧ c ≠ ']'
  read : ∀ fuel offset rest, text.length ≤ fuel →
    readValue fuel levels ⟨offset, text ++ rest⟩ = .ok (value, ⟨offset + text.size, rest⟩)

theorem Reads.length_pos {levels : Nat} {text : Text} {value : Json}
    (h : Reads levels text value) : 0 < text.length := by
  obtain ⟨c, more, rfl, -, -⟩ := h.head
  exact Nat.succ_pos _

/-- A text is not read without fuel. -/
theorem exists_fuel {c : Char} {text : Text} {fuel : Nat} (h : (c :: text).length ≤ fuel) :
    ∃ more, fuel = more + 1 ∧ text.length ≤ more := by
  cases fuel with
  | zero => cases h
  | succ more => exact ⟨more, rfl, Nat.le_of_succ_le_succ h⟩

theorem readWord_append (word : Text) (offset : Nat) (rest : Text) :
    readWord ⟨offset, word ++ rest⟩ word = .ok ⟨offset + word.size, rest⟩ := by
  induction word generalizing offset with
  | nil => rfl
  | cons c word ih =>
    have hstep : readWord ⟨offset, c :: (word ++ rest)⟩ (c :: word)
        = readWord ⟨offset + c.utf8Size, word ++ rest⟩ word := by
      simp [readWord, Cursor.advance]
    rw [List.cons_append, hstep, ih, Text.size_cons, Nat.add_assoc]

/-- A value that is written as a word, known by its first letter. -/
theorem reads_of_word {levels : Nat} {c : Char} {word : Text} {value : Json}
    (hspace : isSpace c = false) (hclosing : c ≠ ']')
    (h : ∀ fuel offset t, readValue (fuel + 1) levels ⟨offset, c :: t⟩
      = (do return (value, ← readWord ⟨offset + c.utf8Size, t⟩ word))) :
    Reads levels (c :: word) value where
  head := ⟨c, word, rfl, hspace, hclosing⟩
  read := by
    intro fuel offset rest hfuel
    obtain ⟨more, rfl, -⟩ := exists_fuel hfuel
    rw [List.cons_append, h, readWord_append, Text.size_cons, Nat.add_assoc]
    rfl

theorem reads_null (levels : Nat) : Reads levels null.render null := by
  refine reads_of_word (c := 'n') (by decide) (by decide) fun fuel offset t => ?_
  rw [readValue, Cursor.skipBlanks_cons (by decide)]
  rfl

theorem reads_bool (levels : Nat) (b : Bool) : Reads levels (bool b).render (bool b) := by
  cases b with
  | true =>
    refine reads_of_word (c := 't') (by decide) (by decide) fun fuel offset t => ?_
    rw [readValue, Cursor.skipBlanks_cons (by decide)]
    rfl
  | false =>
    refine reads_of_word (c := 'f') (by decide) (by decide) fun fuel offset t => ?_
    rw [readValue, Cursor.skipBlanks_cons (by decide)]
    rfl

/-- The quotes and what stands between them. -/
theorem stringText_append (s rest : Text) :
    stringText s ++ rest = '"' :: (escaped s ++ '"' :: rest) := by
  simp [stringText, escaped]

theorem size_stringText (s : Text) : (stringText s).size = 1 + (escaped s).size + 1 := by
  simp only [stringText, escaped, Text.size_cons, Text.size_append, Text.size_nil,
    Nat.add_assoc]
  rfl

/-- A string is read with the fuel of its text. -/
theorem readString_stringText {s : Text} {fuel : Nat} (hfuel : (stringText s).length ≤ fuel + 1)
    (offset : Nat) (rest : Text) : readString fuel ⟨offset + 1, escaped s ++ '"' :: rest⟩
      = .ok (s, ⟨offset + (stringText s).size, rest⟩) := by
  have hlength := length_le_length_escaped s
  have htext : (stringText s).length = (escaped s).length + 2 := by
    simp [stringText, escaped]
  have hsize := size_stringText s
  rw [readString_escaped s (by omega), hsize]
  simp only [Nat.add_assoc]

theorem reads_string (levels : Nat) (s : Text) : Reads levels (string s).render (string s) where
  head := ⟨'"', escaped s ++ ['"'], rfl, by decide, by decide⟩
  read := by
    intro fuel offset rest hfuel
    show readValue fuel levels ⟨offset, stringText s ++ rest⟩
      = .ok (string s, ⟨offset + (stringText s).size, rest⟩)
    have hlength : (stringText s).length ≤ fuel := hfuel
    obtain ⟨more, rfl, -⟩ := exists_fuel hfuel
    rw [stringText_append, readValue, Cursor.skipBlanks_cons (by decide)]
    show (do
      let (s, cur) ← readString more ⟨offset + 1, escaped s ++ '"' :: rest⟩
      return (string s, cur)) = _
    rw [readString_stringText hlength]
    rfl

/-! ## Arrays -/

/-- What is read after an element. -/
def readRest (levels : Nat) (element : Json) (fuel : Nat) (cur : Cursor) :
    Except Fault (List Json × Cursor) := do
  let (more, cur) ← readElements fuel levels false cur
  return (element :: more, cur)

theorem readElements_closing (fuel levels : Nat) (first : Bool) (offset : Nat) (t : Text) :
    readElements (fuel + 1) levels first ⟨offset, ']' :: t⟩ = .ok ([], ⟨offset + 1, t⟩) := by
  rw [readElements, Cursor.skipBlanks_cons (by decide)]
  rfl

/-- The first element. -/
theorem Reads.first {levels : Nat} {text : Text} {value : Json} (h : Reads levels text value)
    {fuel : Nat} (hfuel : text.length ≤ fuel) (offset : Nat) (rest : Text) :
    readElements (fuel + 1) levels true ⟨offset, text ++ rest⟩
      = readRest levels value fuel ⟨offset + text.size, rest⟩ := by
  have hread := h.read fuel offset rest hfuel
  obtain ⟨c, more, rfl, hspace, hclosing⟩ := h.head
  rw [List.cons_append] at hread ⊢
  rw [readElements, Cursor.skipBlanks_cons hspace]
  simp only [if_neg hclosing, if_true, hread]
  rfl

/-- An element after a comma. -/
theorem Reads.next {levels : Nat} {text : Text} {value : Json} (h : Reads levels text value)
    {fuel : Nat} (hfuel : text.length ≤ fuel) (offset : Nat) (rest : Text) :
    readElements (fuel + 1) levels false ⟨offset, ',' :: (text ++ rest)⟩
      = readRest levels value fuel ⟨offset + 1 + text.size, rest⟩ := by
  have hread := h.read fuel (offset + 1) rest hfuel
  obtain ⟨c, more, rfl, hspace, hclosing⟩ := h.head
  rw [List.cons_append] at hread ⊢
  have hcomma : (⟨offset, ',' :: c :: (more ++ rest)⟩ : Cursor).advance
      = ⟨offset + 1, c :: (more ++ rest)⟩ := rfl
  rw [readElements, Cursor.skipBlanks_cons (by decide)]
  simp only [hcomma, Cursor.skipBlanks_cons hspace, if_neg hclosing, hread]
  rfl

/-- The elements after the first, each with the comma before it. -/
def elementsTail (elements : List Json) : Text :=
  elements.flatMap fun element => ',' :: element.render

theorem renderElements_cons (element : Json) (elements : List Json) :
    renderElements (element :: elements) = element.render ++ elementsTail elements := by
  induction elements generalizing element with
  | nil => simp [renderElements, elementsTail]
  | cons next elements ih =>
    rw [renderElements, ih]
    · rfl
    · simp

/-- The elements up to the closing bracket. -/
theorem readElements_tail {levels : Nat} {elements : List Json}
    (h : ∀ e ∈ elements, Reads levels e.render e.canonical) {fuel : Nat}
    (hfuel : (elementsTail elements).length < fuel) (offset : Nat) (rest : Text) :
    readElements fuel levels false ⟨offset, elementsTail elements ++ ']' :: rest⟩
      = .ok (elements.map canonical, ⟨offset + (elementsTail elements).size + 1, rest⟩) := by
  induction elements generalizing fuel offset with
  | nil =>
    obtain ⟨more, rfl⟩ := Nat.exists_eq_add_of_lt hfuel
    exact readElements_closing _ levels false offset rest
  | cons element elements ih =>
    have hcons : elementsTail (element :: elements)
        = ',' :: (element.render ++ elementsTail elements) := by
      simp [elementsTail]
    rw [hcons, List.length_cons, List.length_append] at hfuel
    cases fuel with
    | zero => cases hfuel
    | succ fuel =>
      have hread := h element (by simp)
      have htail : (elementsTail elements).length < fuel := by omega
      have hmore := ih (fun e he => h e (by simp [he])) htail
      rw [hcons, List.cons_append, List.append_assoc, hread.next (by omega), readRest, hmore,
        Text.size_cons, Text.size_append]
      simp only [Nat.add_assoc]
      rfl

/-- **Arrays.** -/
theorem Reads.array {levels : Nat} {elements : List Json}
    (h : ∀ e ∈ elements, Reads (levels + 1) e.render e.canonical) :
    Reads (levels + 2) (Json.array elements).render (Json.array elements).canonical where
  head := ⟨'[', _, by rw [render], by decide, by decide⟩
  read := by
    intro fuel offset rest hfuel
    rw [render] at hfuel ⊢
    rw [List.length_cons, List.length_append, List.length_singleton] at hfuel
    cases fuel with
    | zero => cases hfuel
    | succ fuel =>
      -- The elements are read with the fuel that their text and the closing bracket give.
      have helements : readElements fuel (levels + 1) true
            ⟨offset + 1, renderElements elements ++ ']' :: rest⟩
          = .ok (elements.map canonical,
            ⟨offset + 1 + (renderElements elements).size + 1, rest⟩) := by
        cases fuel with
        | zero => omega
        | succ fuel =>
          cases elements with
          | nil => exact readElements_closing _ _ true _ _
          | cons element elements =>
            rw [renderElements_cons, List.length_append] at hfuel
            have hread := h element (by simp)
            have hpos := hread.length_pos
            have htail : (elementsTail elements).length < fuel := by omega
            have hmore := readElements_tail (fun e he => h e (by simp [he])) htail
            rw [renderElements_cons, List.append_assoc, hread.first (by omega), readRest, hmore,
              Text.size_append]
            simp only [Nat.add_assoc]
            rfl
      have hvalue : readValue (fuel + 1) (levels + 2)
            ⟨offset, '[' :: (renderElements elements ++ ']' :: rest)⟩
          = (do
            let (elements, cur) ← readElements fuel (levels + 1) true
              ⟨offset + 1, renderElements elements ++ ']' :: rest⟩
            return (Json.array elements, cur)) := by
        rw [readValue, Cursor.skipBlanks_cons (by decide)]
        rfl
      rw [List.cons_append, List.append_assoc, List.singleton_append, hvalue, helements, canonical,
        canonicalElements_eq_map, Text.size_cons, Text.size_append]
      simp only [Nat.add_assoc]
      rfl

/-! ## Objects -/

/-- A member as it is written. -/
def memberText (member : Text × Json) : Text :=
  stringText member.1 ++ ':' :: member.2.render

/-- What is read after a member. -/
def readRestMembers (levels : Nat) (member : Text × Json) (fuel : Nat) (cur : Cursor) :
    Except Fault (List (Text × Json) × Cursor) := do
  let (more, cur) ← readMembers fuel levels false cur
  return (member :: more, cur)

theorem readMembers_closing (fuel levels : Nat) (first : Bool) (offset : Nat) (t : Text) :
    readMembers (fuel + 1) levels first ⟨offset, '\x7d' :: t⟩ = .ok ([], ⟨offset + 1, t⟩) := by
  rw [readMembers, Cursor.skipBlanks_cons (by decide)]
  rfl

theorem memberText_append (member : Text × Json) (rest : Text) :
    memberText member ++ rest
      = '"' :: (escaped member.1 ++ '"' :: (':' :: (member.2.render ++ rest))) := by
  rw [memberText, List.append_assoc, stringText_append]
  rfl

theorem two_le_length_memberText (member : Text × Json) : 2 ≤ (memberText member).length := by
  simp only [memberText, stringText, List.length_append, List.length_cons]
  omega

/-- A member is read with the fuel of its text. -/
theorem readMember_memberText {levels : Nat} {member : Text × Json} {value : Json}
    (h : Reads levels member.2.render value) {fuel : Nat}
    (hfuel : (memberText member).length ≤ fuel + 1) (offset : Nat) (rest : Text) :
    readMember (fuel + 1) levels ⟨offset, memberText member ++ rest⟩
      = readRestMembers levels (member.1, value) fuel
        ⟨offset + (memberText member).size, rest⟩ := by
  have hlength : (memberText member).length
      = (stringText member.1).length + (member.2.render.length + 1) := by
    rw [memberText, List.length_append, List.length_cons]
  have hsize : offset + (memberText member).size
      = offset + (stringText member.1).size + 1 + member.2.render.size := by
    rw [memberText, Text.size_append, Text.size_cons]
    simp only [Nat.add_assoc]
    rfl
  have hroom : (stringText member.1).length ≤ fuel + 1 := by omega
  have hname := readString_stringText hroom offset (':' :: (member.2.render ++ rest))
  have hvalue := h.read fuel (offset + (stringText member.1).size + 1) rest (by omega)
  have hquote : ∀ t, (⟨offset, '"' :: t⟩ : Cursor).advance = ⟨offset + 1, t⟩ := fun _ => rfl
  have hcolon : ∀ o t, (⟨o, ':' :: t⟩ : Cursor).advance = ⟨o + 1, t⟩ := fun _ _ => rfl
  rw [memberText_append, readMember, hquote, hname, hsize]
  simp only [bind, Except.bind, Cursor.skipBlanks_cons (c := ':') (by decide), hcolon, hvalue]
  rfl

/-- The first member. -/
theorem readMembers_first {levels : Nat} (member : Text × Json) (fuel offset : Nat)
    (rest : Text) : readMembers (fuel + 1) levels true ⟨offset, memberText member ++ rest⟩
      = readMember fuel levels ⟨offset, memberText member ++ rest⟩ := by
  rw [memberText_append, readMembers, Cursor.skipBlanks_cons (by decide)]
  rfl

/-- A member after a comma. -/
theorem readMembers_next {levels : Nat} (member : Text × Json) (fuel offset : Nat)
    (rest : Text) :
    readMembers (fuel + 1) levels false ⟨offset, ',' :: (memberText member ++ rest)⟩
      = readMember fuel levels ⟨offset + 1, memberText member ++ rest⟩ := by
  have hcomma : ∀ t, (⟨offset, ',' :: t⟩ : Cursor).advance = ⟨offset + 1, t⟩ := fun _ => rfl
  rw [memberText_append, readMembers, Cursor.skipBlanks_cons (by decide)]
  simp only [hcomma, Cursor.skipBlanks_cons (c := '"') (by decide)]
  rfl

/-- The members after the first, each with the comma before it. -/
def membersTail (members : List (Text × Json)) : Text :=
  members.flatMap fun member => ',' :: memberText member

theorem renderMembers_cons (member : Text × Json) (members : List (Text × Json)) :
    renderMembers (member :: members) = memberText member ++ membersTail members := by
  induction members generalizing member with
  | nil => simp [renderMembers, membersTail, memberText]
  | cons next members ih =>
    rw [renderMembers, ih]
    · simp [memberText, membersTail]
    · simp

/-- The members up to the closing brace. -/
theorem readMembers_tail {levels : Nat} {members : List (Text × Json)}
    (h : ∀ m ∈ members, Reads levels m.2.render m.2.canonical) {fuel : Nat}
    (hfuel : (membersTail members).length < fuel) (offset : Nat) (rest : Text) :
    readMembers fuel levels false ⟨offset, membersTail members ++ '\x7d' :: rest⟩
      = .ok (canonicalMembers members,
        ⟨offset + (membersTail members).size + 1, rest⟩) := by
  induction members generalizing fuel offset with
  | nil =>
    obtain ⟨more, rfl⟩ := Nat.exists_eq_add_of_lt hfuel
    exact readMembers_closing _ levels false offset rest
  | cons member members ih =>
    have hcons : membersTail (member :: members)
        = ',' :: (memberText member ++ membersTail members) := by
      simp [membersTail]
    have htwo := two_le_length_memberText member
    rw [hcons, List.length_cons, List.length_append] at hfuel
    obtain ⟨more, rfl⟩ : ∃ more, fuel = more + 2 := ⟨fuel - 2, by omega⟩
    have htail : (membersTail members).length < more := by omega
    have hmore := ih (fun m hm => h m (by simp [hm])) htail
    rw [hcons, List.cons_append, List.append_assoc, readMembers_next,
      readMember_memberText (h member (by simp)) (by omega), readRestMembers, hmore,
      Text.size_cons, Text.size_append]
    simp only [Nat.add_assoc]
    rfl

/-- **Objects.** -/
theorem Reads.object {levels : Nat} {members : List (Text × Json)}
    (h : ∀ m ∈ members, Reads (levels + 1) m.2.render m.2.canonical) :
    Reads (levels + 2) (Json.object members).render (Json.object members).canonical where
  head := ⟨'\x7b', _, by rw [render], by decide, by decide⟩
  read := by
    intro fuel offset rest hfuel
    rw [render] at hfuel ⊢
    rw [List.length_cons, List.length_append, List.length_singleton] at hfuel
    cases fuel with
    | zero => cases hfuel
    | succ fuel =>
      have hmembers : readMembers fuel (levels + 1) true
            ⟨offset + 1, renderMembers members ++ '\x7d' :: rest⟩
          = .ok (canonicalMembers members,
            ⟨offset + 1 + (renderMembers members).size + 1, rest⟩) := by
        cases members with
        | nil =>
          obtain ⟨more, rfl⟩ : ∃ more, fuel = more + 1 := ⟨fuel - 1, by omega⟩
          exact readMembers_closing _ _ true _ _
        | cons member members =>
          have htwo := two_le_length_memberText member
          rw [renderMembers_cons, List.length_append] at hfuel
          obtain ⟨more, rfl⟩ : ∃ more, fuel = more + 2 := ⟨fuel - 2, by omega⟩
          have htail : (membersTail members).length < more := by omega
          have hmore := readMembers_tail (fun m hm => h m (by simp [hm])) htail
          rw [renderMembers_cons, List.append_assoc, readMembers_first,
            readMember_memberText (h member (by simp)) (by omega), readRestMembers, hmore,
            Text.size_append]
          simp only [Nat.add_assoc]
          rfl
      have hvalue : readValue (fuel + 1) (levels + 2)
            ⟨offset, '\x7b' :: (renderMembers members ++ '\x7d' :: rest)⟩
          = (do
            let (members, cur) ← readMembers fuel (levels + 1) true
              ⟨offset + 1, renderMembers members ++ '\x7d' :: rest⟩
            return (ofMembers members, cur)) := by
        rw [readValue, Cursor.skipBlanks_cons (by decide)]
        rfl
      rw [List.cons_append, List.append_assoc, List.singleton_append, hvalue, hmembers, canonical,
        Text.size_cons, Text.size_append]
      simp only [Nat.add_assoc]
      rfl

/-! ## Texts -/

/-- The text of a plain value is read as the value put in order. -/
theorem Plain.reads {levels : Nat} {value : Json} (h : Plain levels value) :
    Reads (levels + 1) value.render value.canonical := by
  induction h with
  | null => exact reads_null _
  | bool => exact reads_bool _ _
  | string => exact reads_string _ _
  | array _ ih => exact Reads.array ih
  | object _ ih => exact Reads.object ih

/-- **Reading what was printed.**  The text of a plain value that is not nested too deeply is
    read as the value with its objects put in order. -/
theorem read_render {value : Json} (h : Plain 127 value) :
    read value.render = .ok value.canonical := by
  have hread := h.reads.read (3 * value.render.length + 3) 0 [] (by omega)
  rw [List.append_nil] at hread
  unfold read
  simp only [nestingLevels, hread, bind, Except.bind]
  rfl

end Sigil.Json

import Mathlib.Data.List.TakeWhile
import Sigil.Proofs.Server.Edits

/-! # The history of a document

    What a session keeps of a document, and what it has published of it last, is decided
    by what it was told of that document.

    * `history`: all that messages tell of a document.
    * `documentOf`: the document that a history leaves.
    * `Session.transcript`, `Session.after`: a session, message by message.
    * `Session.Follows`: the invariant of a session, for one document.
    * `documents_follow_history`: what a session keeps and what it has published. -/

namespace Sigil

/-! ## Histories -/

/-- All that messages tell of the document `u`. -/
def history (u : Text) (ms : List Message) : List Edit :=
  ms.filterMap (Message.editOf? u)

namespace Edit

/-- The language that a document is opened in. -/
def language? : Edit → Option Text
  | opened language _ => some language
  | _ => none

/-- The text that comes with an edit, the last one of several. -/
def text? : Edit → Option Text
  | opened _ text => some text
  | changed texts => texts.getLast?
  | saved text => text
  | closed => none

/-- Is a document kept after the edit, even if none was kept before? -/
def stores : Edit → Bool
  | opened _ _ => true
  | changed texts => !texts.isEmpty
  | _ => false

/-- The edits since the document was last closed. -/
def sinceClosed (es : List Edit) : List Edit :=
  (es.reverse.takeWhile (· != closed)).reverse

/-- The texts of a document: before it is stored, there is nothing to be saved. -/
def texts (es : List Edit) : List Text :=
  (es.dropWhile (!·.stores)).filterMap text?

end Edit

open Edit in
/-- **Document of a history.**  Since it was last closed, the document has the text of the
    last edit that came with one, and the kind of the last language it was opened in. -/
def documentOf (es : List Edit) : Option OpenDocument :=
  (texts (sinceClosed es)).getLast?.map fun text =>
    { text
      kind := ((sinceClosed es).filterMap language?).getLast?.bind DocumentKind.ofLanguage? }

namespace Edit

theorem sinceClosed_concat (es : List Edit) (e : Edit) :
    sinceClosed (es ++ [e]) = if e = closed then [] else sinceClosed es ++ [e] := by
  by_cases he : e = closed
  · simp [sinceClosed, he]
  · simp [sinceClosed, he]

/-- An edit that stores a document comes with its text. -/
theorem exists_text?_of_stores {e : Edit} (he : e.stores = true) : ∃ text, e.text? = some text := by
  cases e with
  | opened language text => exact ⟨text, rfl⟩
  | changed texts =>
    have hne : texts ≠ [] := by simpa [stores] using he
    exact ⟨texts.getLast hne, List.getLast?_eq_some_getLast hne⟩
  | saved text? => cases he
  | closed => cases he

/-- There is no text if no edit has stored the document. -/
theorem texts_eq_nil_iff {es : List Edit} : texts es = [] ↔ ∀ e ∈ es, e.stores = false := by
  have hall : es.dropWhile (!·.stores) = [] ↔ ∀ e ∈ es, e.stores = false := by
    simp [List.dropWhile_eq_nil_iff]
  rw [← hall, texts]
  constructor
  · intro htexts
    cases hrest : es.dropWhile (!·.stores) with
    | nil => rfl
    | cons e rest =>
      -- The first edit that is not dropped has stored the document.
      have hhead := List.head?_dropWhile_not (!·.stores) es
      rw [hrest] at hhead htexts
      obtain ⟨text, htext⟩ := exists_text?_of_stores (e := e) (by simpa using hhead)
      rw [List.filterMap_cons_some htext] at htexts
      cases htexts
  · intro hrest
    rw [hrest]
    rfl

/-- The text of an edit counts if the edit stores the document or finds it stored. -/
theorem texts_concat (es : List Edit) (e : Edit) :
    texts (es ++ [e]) = if e.stores = true ∨ texts es ≠ [] then texts es ++ e.text?.toList
      else [] := by
  by_cases hes : texts es = []
  · have hdrop : es.dropWhile (!·.stores) = [] := by
      simpa [List.dropWhile_eq_nil_iff] using texts_eq_nil_iff.mp hes
    rw [hes, texts, List.dropWhile_append, hdrop]
    cases he : e.stores with
    | true => cases htext : e.text? <;> simp [he, htext]
    | false => simp [he]
  · have hdrop : es.dropWhile (!·.stores) ≠ [] := by
      intro hnil
      exact hes (by rw [texts, hnil]; rfl)
    rw [if_pos (.inr hes), texts, List.dropWhile_append, if_neg (by simpa using hdrop),
      List.filterMap_append, texts]
    cases htext : e.text? <;> simp [htext]

/-- A document that is not stored was not opened. -/
theorem languages_eq_nil {es : List Edit} (h : texts es = []) : es.filterMap language? = [] := by
  rw [List.filterMap_eq_nil_iff]
  intro e he
  have hstores := texts_eq_nil_iff.mp h e he
  cases e with
  | opened language text => cases hstores
  | changed texts => rfl
  | saved text? => rfl
  | closed => rfl

end Edit

open Edit in
/-- A document has the kind of its language, and no kind if it is not there. -/
theorem kind_documentOf (es : List Edit) : (documentOf es).bind OpenDocument.kind
    = ((sinceClosed es).filterMap language?).getLast?.bind DocumentKind.ofLanguage? := by
  by_cases h : texts (sinceClosed es) = []
  · rw [documentOf, h, languages_eq_nil h]
    rfl
  · rw [documentOf, List.getLast?_eq_some_getLast h]
    rfl

open Edit in
/-- An edit that does not store the document can only bring a new text for it. -/
theorem documentOf_concat_of_not_stores (es : List Edit) {e : Edit} (hstores : e.stores = false)
    (hclosed : e ≠ closed) : documentOf (es ++ [e])
      = (documentOf es).map fun d => { d with text := e.text?.getD d.text } := by
  have hlanguage : e.language? = none := by
    cases e with
    | opened language text => cases hstores
    | changed texts => rfl
    | saved text? => rfl
    | closed => rfl
  rw [documentOf, documentOf, sinceClosed_concat, if_neg hclosed, texts_concat]
  by_cases h : texts (sinceClosed es) = []
  · simp [h, hstores]
  · cases htext : e.text? with
    | none => simp [h, hlanguage, Function.comp_def]
    | some text => simp [h, hlanguage, List.getLast?_eq_some_getLast h]

open Edit in
/-- **One more edit** is applied to the document of a history. -/
theorem documentOf_concat (es : List Edit) (e : Edit) :
    documentOf (es ++ [e]) = e.apply (documentOf es) := by
  cases e with
  | closed =>
    rw [documentOf, sinceClosed_concat, if_pos rfl]
    rfl
  | opened language text =>
    rw [documentOf, sinceClosed_concat, if_neg (by simp), texts_concat, if_pos (.inl rfl)]
    simp [text?, language?, apply]
  | changed changes =>
    cases htext : changes.getLast? with
    | some text =>
      have hstores : (changed changes).stores = true := by
        have hne : changes ≠ [] := List.ne_nil_of_mem (List.mem_of_getLast? htext)
        simpa [stores] using hne
      -- The kind stays as it was: a document that was not there has none.
      have hlanguages : (sinceClosed es ++ [changed changes]).filterMap language?
          = (sinceClosed es).filterMap language? := by
        simp [language?]
      rw [documentOf, sinceClosed_concat, if_neg (by simp), hlanguages, texts_concat,
        if_pos (.inl hstores), ← kind_documentOf]
      simp [text?, apply, htext]
    | none =>
      rw [List.getLast?_eq_none_iff] at htext
      subst htext
      rw [documentOf_concat_of_not_stores es rfl (by simp)]
      exact Option.map_id'
  | saved text? =>
    rw [documentOf_concat_of_not_stores es rfl (by simp)]
    cases text? with
    | some text => rfl
    | none => exact Option.map_id'

/-! ## Sessions -/

/-- What was made known last of the document `u`; nothing was if there is no publication. -/
def lastPublished (u : Text) (replies : List Reply) : List Json :=
  (replies.filterMap (Reply.published? u)).getLast?.getD []

theorem lastPublished_append (u : Text) (replies more : List Reply) :
    lastPublished u (replies ++ more)
      = (more.filterMap (Reply.published? u)).getLast?.getD (lastPublished u replies) := by
  rw [lastPublished, List.filterMap_append, List.getLast?_append, Option.getD_or]
  rfl

namespace Session

/-- What a session sends on each of some messages. -/
def transcript (s : Session) : List Message → List (Message × List Reply)
  | [] => []
  | m :: rest => (m, (s.step m).2) :: (s.step m).1.transcript rest

/-- A session after some messages. -/
def after (s : Session) (ms : List Message) : Session :=
  ms.foldl (fun s m => (s.step m).1) s

/-- All that a session sends. -/
def sent (s : Session) (ms : List Message) : List Reply :=
  (s.transcript ms).flatMap Prod.snd

theorem sent_cons (s : Session) (m : Message) (ms : List Message) :
    s.sent (m :: ms) = (s.step m).2 ++ (s.step m).1.sent ms := by
  rfl

/-- A session that runs gives every message but the last to its server. -/
theorem step_eq {s : Session} (hs : s.running = true) {m : Message} (hm : m.isExit = false) :
    s.step m = ({ s with server := (s.server.receive m).1 }, (s.server.receive m).2) := by
  simp [step, hs, hm]

/-- **Invariant.**  A session that was started with `catalog` and told `es` of the document
    `u` has sent `replies`. -/
structure Follows (catalog : Catalog) (u : Text) (es : List Edit) (replies : List Reply)
    (s : Session) : Prop where
  running : s.running = true
  catalog_eq : s.server.catalog = catalog
  document : Table.get? u s.server.documents = documentOf es
  published : lastPublished u replies = shown catalog (documentOf es)

theorem follows_start (catalog : Catalog) (u : Text) :
    (start catalog).Follows catalog u [] [] where
  running := rfl
  catalog_eq := rfl
  document := rfl
  published := rfl

/-- What one message preserves. -/
theorem Follows.step {catalog : Catalog} {u : Text} {es : List Edit} {replies : List Reply}
    {s : Session} (h : s.Follows catalog u es replies) {m : Message} (hm : m.isExit = false) :
    (s.step m).1.Follows catalog u (es ++ (m.editOf? u).toList) (replies ++ (s.step m).2) := by
  rw [step_eq h.running hm]
  have hpublished := h.published
  cases hedit : m.editOf? u with
  | none =>
    obtain ⟨hcatalog, hdocument, hnothing⟩ := s.server.receive_of_editOf?_eq_none hedit
    rw [Option.toList_none, List.append_nil]
    refine ⟨h.running, hcatalog.trans h.catalog_eq, hdocument.trans h.document, ?_⟩
    rw [lastPublished_append, hnothing]
    exact hpublished
  | some e =>
    obtain ⟨hcatalog, hdocument, hnews⟩ := s.server.receive_of_editOf?_eq_some hedit
    rw [h.document, ← documentOf_concat] at hdocument
    rw [h.catalog_eq, h.document, ← documentOf_concat] at hnews
    refine ⟨h.running, hcatalog.trans h.catalog_eq, hdocument, ?_⟩
    rw [lastPublished_append, hnews]
    -- What is not published again has not changed either.
    cases hsilent : e.isSilent with
    | true =>
      have hsame : documentOf (es ++ [e]) = documentOf es := by
        rw [documentOf_concat, e.apply_of_isSilent hsilent]
      show lastPublished u replies = shown catalog (documentOf (es ++ [e]))
      rw [hsame]
      exact hpublished
    | false => rfl

/-- What a run preserves. -/
theorem Follows.after {catalog : Catalog} {u : Text} {es : List Edit} {replies : List Reply}
    {s : Session} (h : s.Follows catalog u es replies) {ms : List Message}
    (hms : ∀ m ∈ ms, m.isExit = false) :
    (s.after ms).Follows catalog u (es ++ history u ms) (replies ++ s.sent ms) := by
  induction ms generalizing s es replies with
  | nil =>
    simp only [history, sent, transcript, List.filterMap_nil, List.flatMap_nil, List.append_nil]
    exact h
  | cons m ms ih =>
    have hrest := ih (h.step (hms m (by simp))) fun x hx => hms x (by simp [hx])
    have hhistory : history u (m :: ms) = (m.editOf? u).toList ++ history u ms := by
      rw [history, List.filterMap_cons]
      cases m.editOf? u <;> rfl
    rw [List.append_assoc, List.append_assoc] at hrest
    rw [hhistory, sent_cons]
    exact hrest

end Session

/-- **Documents.**  At any point of a session, what was last published of a document is
    what is to be shown of it as the server keeps it, and the server keeps it as its own
    history leaves it. -/
theorem documents_follow_history (catalog : Catalog) (ms : List Message)
    (h : ∀ m ∈ ms, m.isExit = false) (u : Text) :
    lastPublished u ((Session.start catalog).sent ms)
      = shown catalog (Table.get? u ((Session.start catalog).after ms).server.documents)
    ∧ Table.get? u ((Session.start catalog).after ms).server.documents
      = documentOf (history u ms) := by
  have hfollows := (Session.follows_start catalog u).after h
  rw [List.nil_append, List.nil_append] at hfollows
  refine ⟨?_, hfollows.document⟩
  rw [hfollows.published, hfollows.document]

/-- A document is saved before it is there, opened and saved again, with a message for
    another document and a malformed one in between. -/
def savingTwice : List Message :=
  [(Edit.saved (some "$a]".toList)).message "file:a".toList,
    (Edit.opened "css".toList "b".toList).message "file:a".toList,
    (Edit.opened "html".toList "$c[".toList).message "file:b".toList,
    (Edit.changed []).message "file:a".toList,
    .notification "textDocument/didClose".toList .null,
    (Edit.saved (some "$d[".toList)).message "file:a".toList]

/-- Then the document is closed, and changed nevertheless, twice by one message. -/
def changingClosed : List Message :=
  savingTwice
    ++ [Edit.closed, .changed ["$f".toList, "$e[".toList]].map (Edit.message "file:a".toList)

/-- A document that is changed after it was closed is kept, but its kind is forgotten. -/
theorem documents_follow_history_changingClosed :
    ((∀ m ∈ savingTwice, m.isExit = false)
      ∧ Table.get? "file:a".toList ((Session.start .empty).after savingTwice).server.documents
        = some { text := "$d[".toList, kind := some .stylesheet }
      ∧ lastPublished "file:a".toList ((Session.start .empty).sent savingTwice)
        = shown .empty (some { text := "$d[".toList, kind := some .stylesheet }))
    ∧ (∀ m ∈ changingClosed, m.isExit = false)
      ∧ Table.get? "file:a".toList ((Session.start .empty).after changingClosed).server.documents
        = some { text := "$e[".toList, kind := none }
      ∧ lastPublished "file:a".toList ((Session.start .empty).sent changingClosed) = [] := by
  have hsaving : ∀ m ∈ savingTwice, m.isExit = false := by decide
  have hchanging : ∀ m ∈ changingClosed, m.isExit = false := by decide
  have hsaved : documentOf (history "file:a".toList savingTwice)
      = some { text := "$d[".toList, kind := some .stylesheet } := by decide
  have hchanged : documentOf (history "file:a".toList changingClosed)
      = some { text := "$e[".toList, kind := none } := by decide
  obtain ⟨hshown, hdocument⟩ :=
    documents_follow_history .empty savingTwice hsaving "file:a".toList
  obtain ⟨hshown', hdocument'⟩ :=
    documents_follow_history .empty changingClosed hchanging "file:a".toList
  rw [hsaved] at hdocument
  rw [hdocument] at hshown
  rw [hchanged] at hdocument'
  rw [hdocument'] at hshown'
  exact ⟨⟨hsaving, hdocument, hshown⟩, hchanging, hdocument', hshown'⟩

end Sigil

import Sigil.Server.Basic

/-! # What a message tells of a document

    A server is told of many documents.  Every message tells of one of them or of none,
    and what it does to a server is decided by what it tells.

    * `Edit`, `Message.edit?`: what a message tells of which document.
    * `Server.Performs`: all that an edit does to a server; `Server.receive_edit` and
      `Server.receive_of_edit?_eq_none` say it of every message.
    * `Message.editOf?`: what a message tells of a given document, and what this does to
      the document and to what is published of it. -/

namespace Sigil

/-! ## Edits -/

/-- What an editor tells of a document. -/
inductive Edit where
  | opened (language text : Text)
  /-- There may be any number of changes, each with the whole text after it. -/
  | changed (texts : List Text)
  | saved (text : Option Text)
  | closed
deriving DecidableEq, Repr

/-- The document that a message tells of, and what it tells.  Malformed parameters tell
    nothing. -/
def Message.edit? : Message → Option (Text × Edit)
  | .notification method params =>
    if method = "textDocument/didOpen".toList then
      (Params.readOpen params).toOption.map fun p => (p.uri, .opened p.language p.text)
    else if method = "textDocument/didChange".toList then
      (Params.readChange params).toOption.map fun p => (p.uri, .changed p.texts)
    else if method = "textDocument/didSave".toList then
      (Params.readSave params).toOption.map fun p => (p.uri, .saved p.text)
    else if method = "textDocument/didClose".toList then
      (Params.readClose params).toOption.map fun uri => (uri, .closed)
    else none
  | _ => none

namespace Edit

/-- The message that tells an edit of the document `u`. -/
def message (u : Text) (e : Edit) : Message :=
  let uri := ("uri".toList, Json.string u)
  let version := ("version".toList, Json.integer 0)
  let textMember (text : Text) := ("text".toList, Json.string text)
  let about (document more : List (Text × Json)) :=
    Json.ofMembers (("textDocument".toList, Json.ofMembers document) :: more)
  match e with
  | opened language text => .notification "textDocument/didOpen".toList
    (about [uri, ("languageId".toList, .string language), version, textMember text] [])
  | changed texts => .notification "textDocument/didChange".toList
    (about [uri, version] [("contentChanges".toList,
      .array (texts.map fun text => Json.ofMembers [textMember text]))])
  | saved text => .notification "textDocument/didSave".toList
    (about [uri] (text.toList.map textMember))
  | closed => .notification "textDocument/didClose".toList (about [uri] [])

/-- A document after an edit.  Of several changes the last one counts. -/
def apply : Edit → Option OpenDocument → Option OpenDocument
  | opened language text, _ => some { text, kind := DocumentKind.ofLanguage? language }
  | changed texts, document =>
    match texts.getLast? with
    | some text => some { text, kind := document.bind OpenDocument.kind }
    | none => document
  | saved (some text), document => document.map fun d => { d with text }
  | saved none, document => document
  | closed, _ => none

/-- Is nothing published after the edit?  Only a change that is none is passed over. -/
def isSilent : Edit → Bool
  | changed texts => texts.isEmpty
  | _ => false

theorem apply_of_isSilent {e : Edit} (h : e.isSilent = true) (document : Option OpenDocument) :
    e.apply document = document := by
  cases e with
  | changed texts =>
    rw [isSilent, List.isEmpty_iff] at h
    rw [h]
    rfl
  | opened language text => cases h
  | saved text? => cases h
  | closed => cases h

end Edit

/-- What an editor is shown of a document: the findings on its text, if its kind is
    known. -/
def shown (catalog : Catalog) : Option OpenDocument → List Json
  | some { text, kind := some kind } => (check catalog kind text).map (Server.diagnostic text)
  | _ => []

/-! ## Messages -/

namespace Server

/-- **Effect of an edit.**  The edit `e` of the document `u` changes this document and no
    other, and what is to be shown of it is published. -/
structure Performs (s : Server) (u : Text) (e : Edit) (result : Server × List Reply) : Prop where
  catalog : result.1.catalog = s.catalog
  document : ∀ v, Table.get? v result.1.documents
    = if u = v then e.apply (Table.get? u s.documents) else Table.get? v s.documents
  replies : result.2 = if e.isSilent then []
    else [publish u (shown s.catalog (e.apply (Table.get? u s.documents)))]

theorem report_eq (s : Server) (u : Text) :
    s.report u = (s, [publish u (shown s.catalog (Table.get? u s.documents))]) := by
  rfl

/-- A document that is kept is shown at once. -/
theorem performs_put {s : Server} {u : Text} {e : Edit} {d : OpenDocument}
    (hd : e.apply (Table.get? u s.documents) = some d) (he : e.isSilent = false) :
    s.Performs u e ((s.put u d).report u) := by
  rw [report_eq]
  refine ⟨rfl, ?_, ?_⟩
  · intro v
    rw [hd]
    exact Table.get?_insert u v d s.documents
  · have hget : Table.get? u (s.put u d).documents = some d := by
      simp [put, Table.get?_insert]
    rw [hget, hd, he]
    rfl

/-- A document that stays as it is may be shown again, or not. -/
theorem performs_keep {s : Server} {u : Text} {e : Edit}
    (hd : e.apply (Table.get? u s.documents) = Table.get? u s.documents) :
    s.Performs u e (if e.isSilent then (s, []) else s.report u) := by
  have hsame : ∀ v, Table.get? v s.documents
      = if u = v then e.apply (Table.get? u s.documents) else Table.get? v s.documents := by
    intro v
    rw [hd]
    split
    · next heq => rw [heq]
    · rfl
  cases he : e.isSilent with
  | true => exact ⟨rfl, hsame, by rw [he]; rfl⟩
  | false =>
    rw [report_eq]
    exact ⟨rfl, hsame, by rw [he, hd]; rfl⟩

theorem performs_didOpen (s : Server) (p : Params.Open) :
    s.Performs p.uri (.opened p.language p.text) (s.didOpen p) :=
  performs_put rfl rfl

theorem performs_didChange (s : Server) (p : Params.Change) :
    s.Performs p.uri (.changed p.texts) (s.didChange p) := by
  unfold didChange
  rcases List.eq_nil_or_concat p.texts with hnone | ⟨before, text, hlast⟩
  · rw [hnone]
    exact performs_keep rfl
  · rw [hlast, List.concat_eq_append, List.getLast?_concat]
    exact performs_put (by simp [Edit.apply]) (by simp [Edit.isSilent])

theorem performs_didSave (s : Server) (p : Params.Save) :
    s.Performs p.uri (.saved p.text) (s.didSave p) := by
  unfold didSave
  cases p.text with
  | none => exact performs_keep rfl
  | some text =>
    cases hdocument : Table.get? p.uri s.documents with
    | none => exact performs_keep (e := .saved (some text)) (by rw [hdocument]; rfl)
    | some document => exact performs_put (by rw [hdocument]; rfl) rfl

theorem performs_didClose (s : Server) (u : Text) : s.Performs u .closed (s.didClose u) where
  catalog := rfl
  document := fun v => Table.get?_erase u v s.documents
  replies := rfl

/-- What a notification does that tells `told`: the edit it tells of, or nothing. -/
def Handles (s : Server) (told : Option (Text × Edit)) (result : Server × List Reply) : Prop :=
  match told with
  | some (u, e) => s.Performs u e result
  | none => result = (s, [])

/-- Parameters that can be read have the effect of what they tell, others have none. -/
theorem handles_read {α : Type} {s : Server} {read : Except ShapeError α}
    {act : α → Server × List Reply} {tells : α → Text × Edit}
    (hact : ∀ p, s.Performs (tells p).1 (tells p).2 (act p)) :
    s.Handles (read.toOption.map tells) (match read with
      | .ok p => act p
      | .error _ => (s, [])) := by
  cases read with
  | error error => rfl
  | ok p => exact hact p

theorem handles_notify (s : Server) (method : Text) (params : Json) :
    s.Handles (Message.notification method params).edit? (s.notify method params) := by
  simp only [Message.edit?, notify]
  -- The five cases are those of the method: opening, change, saving, closing and others.
  split
  · exact handles_read s.performs_didOpen
  · split
    · exact handles_read s.performs_didChange
    · split
      · exact handles_read s.performs_didSave
      · split
        · exact handles_read s.performs_didClose
        · rfl

/-- **Edits.**  A message that tells of a document has the effect of what it tells. -/
theorem receive_edit (s : Server) {m : Message} {u : Text} {e : Edit}
    (h : m.edit? = some (u, e)) : s.Performs u e (s.receive m) := by
  cases m with
  | request id method params => cases h
  | response id => cases h
  | notification method params =>
    have hhandles := s.handles_notify method params
    rw [h] at hhandles
    exact hhandles

end Server

/-! ## Publications -/

/-- The diagnostics that a reply makes known of the document `u`. -/
def Reply.published? (u : Text) : Reply → Option (List Json)
  | .notification method params =>
    if method = "textDocument/publishDiagnostics".toList then
      match params.get? "uri".toList, params.get? "diagnostics".toList with
      | some (.string uri), some (.array diagnostics) => if uri = u then some diagnostics else none
      | _, _ => none
    else none
  | _ => none

theorem Reply.published?_publish (u v : Text) (diagnostics : List Json) :
    (Server.publish v diagnostics).published? u = if v = u then some diagnostics else none := by
  have hname : Params.uriField.name = "uri".toList := rfl
  simp [Server.publish, Reply.published?, Json.ofMembers, Json.get?, Table.ofEntries,
    Table.get?_insert, hname]

/-- Other messages leave the server as it is, and nothing is published. -/
theorem Server.receive_of_edit?_eq_none (s : Server) {m : Message} (h : m.edit? = none)
    (u : Text) :
    (s.receive m).1 = s ∧ (s.receive m).2.filterMap (Reply.published? u) = [] := by
  cases m with
  | notification method params =>
    have hhandles : s.notify method params = (s, []) := by
      have hnotify := s.handles_notify method params
      rw [h] at hnotify
      exact hnotify
    rw [receive, hhandles]
    exact ⟨rfl, rfl⟩
  | response id => exact ⟨rfl, rfl⟩
  | request id method params =>
    refine ⟨rfl, ?_⟩
    simp only [receive, request]
    split
    · split <;> rfl
    · split <;> rfl

/-! ## One document among others -/

/-- What a message tells of the document `u`. -/
def Message.editOf? (u : Text) (m : Message) : Option Edit :=
  m.edit?.bind fun (v, e) => if v = u then some e else none

theorem Message.editOf?_eq_some_iff {u : Text} {m : Message} {e : Edit} :
    m.editOf? u = some e ↔ m.edit? = some (u, e) := by
  unfold Message.editOf?
  cases m.edit? with
  | none => simp
  | some told =>
    obtain ⟨v, d⟩ := told
    simp

namespace Server

/-- What a message does that tells of the document `u`. -/
theorem receive_of_editOf?_eq_some (s : Server) {m : Message} {u : Text} {e : Edit}
    (h : m.editOf? u = some e) :
    (s.receive m).1.catalog = s.catalog
    ∧ Table.get? u (s.receive m).1.documents = e.apply (Table.get? u s.documents)
    ∧ (s.receive m).2.filterMap (Reply.published? u) = if e.isSilent then []
        else [shown s.catalog (e.apply (Table.get? u s.documents))] := by
  have hperforms := s.receive_edit (Message.editOf?_eq_some_iff.mp h)
  refine ⟨hperforms.catalog, ?_, ?_⟩
  · rw [hperforms.document, if_pos rfl]
  · rw [hperforms.replies]
    split
    · rfl
    · simp [Reply.published?_publish]

/-- What a message does to the document `u` that does not tell of it. -/
theorem receive_of_editOf?_eq_none (s : Server) {m : Message} {u : Text}
    (h : m.editOf? u = none) :
    (s.receive m).1.catalog = s.catalog
    ∧ Table.get? u (s.receive m).1.documents = Table.get? u s.documents
    ∧ (s.receive m).2.filterMap (Reply.published? u) = [] := by
  cases hedit : m.edit? with
  | none =>
    obtain ⟨hserver, hnothing⟩ := s.receive_of_edit?_eq_none hedit u
    rw [hserver]
    exact ⟨rfl, rfl, hnothing⟩
  | some told =>
    obtain ⟨v, e⟩ := told
    have hv : v ≠ u := by
      intro heq
      rw [heq] at hedit
      rw [Message.editOf?_eq_some_iff.mpr hedit] at h
      cases h
    have hperforms := s.receive_edit hedit
    refine ⟨hperforms.catalog, ?_, ?_⟩
    · rw [hperforms.document, if_neg hv]
    · rw [hperforms.replies]
      split
      · rfl
      · simp [Reply.published?_publish, hv]

end Server

end Sigil

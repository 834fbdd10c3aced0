import Sigil.Proofs.Server.History

/-! # Documents do not interfere

    A session that serves many documents serves each of them as if it were alone.

    * `Message.concerns`: does a message concern a document?
    * `Session.Agree`: two sessions that cannot be told apart by one document.
    * `Session.Agree.run`: a session agrees with one that is only given the messages that
      concern the document.
    * `documents_do_not_interfere`: what becomes of a document, and what is sent about it,
      is the same in all sessions with the same messages for it. -/

namespace Sigil

/-! ## Messages about a document -/

namespace Message

/-- The place where a message asks for suggestions.  Malformed parameters ask for none. -/
def completion? : Message → Option Params.CompletionRequest
  | .request _ method params =>
    if method = "textDocument/completion".toList then (Params.readCompletion params).toOption
    else none
  | _ => none

/-- Does a message ask for suggestions in the document `u`? -/
def asksIn (u : Text) (m : Message) : Bool :=
  m.completion?.any fun p => p.uri = u

/-- Does a message concern the document `u`? -/
def concerns (u : Text) (m : Message) : Bool :=
  (m.editOf? u).isSome || m.asksIn u

end Message

/-- Does a reply publish diagnostics of the document `u`? -/
def Reply.publishes (u : Text) (r : Reply) : Bool :=
  (r.published? u).isSome

/-! ## Agreement -/

namespace Server

/-- Two servers that agree on the document `u`. -/
structure Agree (u : Text) (s s' : Server) : Prop where
  catalog : s.catalog = s'.catalog
  document : Table.get? u s.documents = Table.get? u s'.documents

/-- Suggestions depend on the document only. -/
theorem Agree.complete {u : Text} {s s' : Server} (h : s.Agree u s')
    {p : Params.CompletionRequest} (hp : p.uri = u) : s.complete p = s'.complete p := by
  unfold Server.complete
  rw [hp, h.document, h.catalog]

theorem Agree.request {u : Text} {s s' : Server} (h : s.Agree u s') {id : RequestId}
    {method : Text} {params : Json} (hasks : (Message.request id method params).asksIn u = true) :
    s.request id method params = s'.request id method params := by
  unfold Server.request
  by_cases hmethod : method = "textDocument/completion".toList
  · rw [if_pos hmethod, if_pos hmethod]
    cases hread : Params.readCompletion params with
    | error error => rfl
    | ok p =>
      have hp : p.uri = u := by
        simpa [Message.asksIn, Message.completion?, hmethod, hread, Except.toOption] using hasks
      show [Reply.result id (s.complete p)] = [Reply.result id (s'.complete p)]
      rw [h.complete hp]
  · rw [if_neg hmethod, if_neg hmethod]

/-- **Determinacy.**  A message that concerns the document does the same to it in both
    servers, and the same is sent. -/
theorem Agree.receive {u : Text} {s s' : Server} (h : s.Agree u s') {m : Message}
    (hm : m.concerns u = true) :
    (s.receive m).1.Agree u (s'.receive m).1 ∧ (s.receive m).2 = (s'.receive m).2 := by
  have hcases : (∃ e, m.editOf? u = some e) ∨ m.asksIn u = true := by
    simpa [Message.concerns, Option.isSome_iff_exists] using hm
  rcases hcases with ⟨e, hedit⟩ | hasks
  · have hperforms := s.receive_edit (Message.editOf?_eq_some_iff.mp hedit)
    have hperforms' := s'.receive_edit (Message.editOf?_eq_some_iff.mp hedit)
    refine ⟨⟨?_, ?_⟩, ?_⟩
    · rw [hperforms.catalog, hperforms'.catalog, h.catalog]
    · rw [hperforms.document, hperforms'.document, h.document]
    · rw [hperforms.replies, hperforms'.replies, h.catalog, h.document]
  · -- Only requests ask for anything, and they leave the server as it is.
    cases m with
    | notification method params => cases hasks
    | response id => cases hasks
    | request id method params => exact ⟨h, h.request hasks⟩

/-- **Confinement.**  A message that does not concern the document leaves it alone, and
    nothing is published of it. -/
theorem Agree.receive_left {u : Text} {s s' : Server} (h : s.Agree u s') {m : Message}
    (hm : m.concerns u = false) :
    (s.receive m).1.Agree u s' ∧ (s.receive m).2.filter (Reply.publishes u) = [] := by
  have hedit : m.editOf? u = none := by
    have hnot : (m.editOf? u).isSome = false ∧ m.asksIn u = false := by
      simpa [Message.concerns] using hm
    simpa using hnot.1
  obtain ⟨hcatalog, hdocument, hnothing⟩ := s.receive_of_editOf?_eq_none hedit
  refine ⟨⟨hcatalog.trans h.catalog, hdocument.trans h.document⟩, ?_⟩
  rw [List.filterMap_eq_nil_iff] at hnothing
  rw [List.filter_eq_nil_iff]
  intro r hr
  simp [Reply.publishes, hnothing r hr]

end Server

/-! ## Sessions -/

namespace Session

/-- All that a session publishes of the document `u`. -/
def publications (u : Text) (s : Session) (ms : List Message) : List Reply :=
  (s.sent ms).filter (Reply.publishes u)

theorem publications_cons (u : Text) (s : Session) (m : Message) (ms : List Message) :
    s.publications u (m :: ms)
      = (s.step m).2.filter (Reply.publishes u) ++ (s.step m).1.publications u ms := by
  rw [publications, sent_cons, List.filter_append]
  rfl

/-- The requests for suggestions in the document `u`, each with what is sent on it. -/
def suggestions (u : Text) (s : Session) (ms : List Message) : List (Message × List Reply) :=
  (s.transcript ms).filter fun entry => entry.1.asksIn u

/-- Two sessions that run and agree on the document `u`. -/
structure Agree (u : Text) (s s' : Session) : Prop where
  running_left : s.running = true
  running_right : s'.running = true
  server : s.server.Agree u s'.server

/-- A message that concerns the document is given to both sessions. -/
theorem Agree.step {u : Text} {s s' : Session} (h : s.Agree u s') {m : Message}
    (hexit : m.isExit = false) (hm : m.concerns u = true) :
    (s.step m).1.Agree u (s'.step m).1 ∧ (s.step m).2 = (s'.step m).2 := by
  obtain ⟨hserver, hreplies⟩ := h.server.receive hm
  rw [step_eq h.running_left hexit, step_eq h.running_right hexit]
  exact ⟨⟨h.running_left, h.running_right, hserver⟩, hreplies⟩

/-- A message that does not concern the document is given to one session only. -/
theorem Agree.step_left {u : Text} {s s' : Session} (h : s.Agree u s') {m : Message}
    (hexit : m.isExit = false) (hm : m.concerns u = false) :
    (s.step m).1.Agree u s' ∧ (s.step m).2.filter (Reply.publishes u) = [] := by
  obtain ⟨hserver, hnothing⟩ := h.server.receive_left hm
  rw [step_eq h.running_left hexit]
  exact ⟨⟨h.running_left, h.running_right, hserver⟩, hnothing⟩

/-- **Isolation.**  A session agrees with one that is given only the messages that concern
    the document, and they send the same about it. -/
theorem Agree.run {u : Text} {s s' : Session} (h : s.Agree u s') {ms : List Message}
    (hms : ∀ m ∈ ms, m.isExit = false) :
    (s.after ms).Agree u (s'.after (ms.filter (Message.concerns u)))
    ∧ (s.transcript ms).filter (fun entry => entry.1.concerns u)
      = s'.transcript (ms.filter (Message.concerns u))
    ∧ s.publications u ms = s'.publications u (ms.filter (Message.concerns u)) := by
  induction ms generalizing s s' with
  | nil => exact ⟨h, rfl, rfl⟩
  | cons m ms ih =>
    have hexit : m.isExit = false := hms m (by simp)
    have hrest : ∀ x ∈ ms, x.isExit = false := fun x hx => hms x (by simp [hx])
    by_cases hm : m.concerns u = true
    · obtain ⟨hagree, hreplies⟩ := h.step hexit hm
      obtain ⟨hafter, htranscript, hpublished⟩ := ih hagree hrest
      rw [List.filter_cons_of_pos hm]
      refine ⟨hafter, ?_, ?_⟩
      · rw [transcript, transcript, List.filter_cons, if_pos hm, htranscript, hreplies]
      · rw [publications_cons, publications_cons, hreplies, hpublished]
    · obtain ⟨hagree, hnothing⟩ := h.step_left hexit (by simpa using hm)
      obtain ⟨hafter, htranscript, hpublished⟩ := ih hagree hrest
      rw [List.filter_cons_of_neg hm]
      refine ⟨hafter, ?_, ?_⟩
      · rw [transcript, List.filter_cons, if_neg hm, htranscript]
      · rw [publications_cons, hnothing, hpublished, List.nil_append]

/-- Requests for suggestions in the document are among the messages that concern it. -/
theorem suggestions_eq (u : Text) (s : Session) (ms : List Message) :
    s.suggestions u ms = ((s.transcript ms).filter fun entry => entry.1.concerns u).filter
      fun entry => entry.1.asksIn u := by
  rw [suggestions, List.filter_filter]
  congr 1
  funext entry
  cases hasks : entry.1.asksIn u <;> simp [Message.concerns, hasks]

end Session

/-- **Non-interference.**  However two sequences of messages are interleaved with messages
    that do not concern a document, the same is published of it, the same suggestions are
    made in it, and the same is kept of it. -/
theorem documents_do_not_interfere (catalog : Catalog) (u : Text) {ms ms' : List Message}
    (hms : ∀ m ∈ ms, m.isExit = false) (hms' : ∀ m ∈ ms', m.isExit = false)
    (hsame : ms.filter (Message.concerns u) = ms'.filter (Message.concerns u)) :
    (Session.start catalog).publications u ms = (Session.start catalog).publications u ms'
    ∧ (Session.start catalog).suggestions u ms = (Session.start catalog).suggestions u ms'
    ∧ Table.get? u ((Session.start catalog).after ms).server.documents
      = Table.get? u ((Session.start catalog).after ms').server.documents := by
  have hstart : (Session.start catalog).Agree u (Session.start catalog) :=
    ⟨rfl, rfl, rfl, rfl⟩
  obtain ⟨hafter, htranscript, hpublished⟩ := hstart.run hms
  obtain ⟨hafter', htranscript', hpublished'⟩ := hstart.run hms'
  rw [hsame] at hafter htranscript hpublished
  refine ⟨?_, ?_, ?_⟩
  · rw [hpublished, hpublished']
  · rw [Session.suggestions_eq, Session.suggestions_eq, htranscript, htranscript']
  · rw [hafter.server.document, hafter'.server.document]

/-- The message that asks for suggestions in the document `u`, in its first line. -/
def Message.asking (u : Text) (character : Int) : Message :=
  .request (.number 1) "textDocument/completion".toList
    (Json.ofMembers
      [("textDocument".toList, Json.ofMembers [("uri".toList, .string u)]),
        ("position".toList, Json.ofMembers
          [("line".toList, .integer 0), ("character".toList, .integer character)])])

/-- A document is opened, and suggestions are wanted in it. -/
def opening : List Message :=
  [(Edit.opened "css".toList "$math[".toList).message "file:a".toList, .asking "file:a".toList 3]

/-- The document is changed. -/
def changing : List Message :=
  [(Edit.changed ["$b]".toList]).message "file:a".toList]

/-- Messages for another document and for none. -/
def elsewhere : List Message :=
  [(Edit.changed ["$c]".toList]).message "file:b".toList,
    .request (.number 1) "shutdown".toList .null,
    .asking "file:b".toList 2,
    .notification "textDocument/didClose".toList (.string "file:a".toList),
    Edit.closed.message "file:b".toList,
    .response (.number 1)]

theorem documents_do_not_interfere_elsewhere :
    (∀ m ∈ opening ++ changing ++ elsewhere, m.isExit = false)
    ∧ (∀ m ∈ elsewhere ++ opening ++ elsewhere.reverse ++ changing, m.isExit = false)
    ∧ (opening ++ changing ++ elsewhere).filter (Message.concerns "file:a".toList)
      = (elsewhere ++ opening ++ elsewhere.reverse ++ changing).filter
        (Message.concerns "file:a".toList)
    ∧ (Session.start .empty).publications "file:a".toList (opening ++ changing ++ elsewhere)
      = (Session.start .empty).publications "file:a".toList
        (elsewhere ++ opening ++ elsewhere.reverse ++ changing)
    ∧ (Session.start .empty).suggestions "file:a".toList (opening ++ changing ++ elsewhere)
      = (Session.start .empty).suggestions "file:a".toList
        (elsewhere ++ opening ++ elsewhere.reverse ++ changing)
    ∧ Table.get? "file:a".toList
        ((Session.start .empty).after (opening ++ changing ++ elsewhere)).server.documents
      = Table.get? "file:a".toList
        ((Session.start .empty).after
          (elsewhere ++ opening ++ elsewhere.reverse ++ changing)).server.documents := by
  have hms : ∀ m ∈ opening ++ changing ++ elsewhere, m.isExit = false := by decide
  have hms' : ∀ m ∈ elsewhere ++ opening ++ elsewhere.reverse ++ changing,
      m.isExit = false := by decide
  have hopening : opening.filter (Message.concerns "file:a".toList) = opening :=
    List.filter_eq_self.mpr (by decide)
  have hchanging : changing.filter (Message.concerns "file:a".toList) = changing :=
    List.filter_eq_self.mpr (by decide)
  have helsewhere : elsewhere.filter (Message.concerns "file:a".toList) = [] :=
    List.filter_eq_nil_iff.mpr (by decide)
  have hsame : (opening ++ changing ++ elsewhere).filter (Message.concerns "file:a".toList)
      = (elsewhere ++ opening ++ elsewhere.reverse ++ changing).filter
        (Message.concerns "file:a".toList) := by
    simp only [List.filter_append, List.filter_reverse, hopening, hchanging, helsewhere,
      List.reverse_nil, List.append_nil, List.nil_append]
  exact ⟨hms, hms', hsame, documents_do_not_interfere .empty _ hms hms' hsame⟩

end Sigil

import Sigil.Proofs.Server.History

/-! # What a session sends

    Every message is met with at most one reply: a request with its response, news of a
    document with the diagnostics of that document, and all else with silence.

    * `Message.isMalformed`, `Message.announced?`: what the reply to a message depends on.
    * `Replies`: all that may be sent on a message; `Server.receive_replies` says it of every
      server, and what is to be known of single messages follows from it.
    * `heard`: the messages that a session attends to.
    * `Session.responses_sent`: the responses of a session, taken together.
    * `session_replies`: the replies of a session, message by message and taken together. -/

namespace Sigil

/-! ## Messages -/

namespace Message

/-- The identifier of a request. -/
def requestId? : Message → Option RequestId
  | .request id _ _ => some id
  | _ => none

/-- Is the message a notification? -/
def isNotification : Message → Bool
  | .notification _ _ => true
  | _ => false

/-- Does the method of the message demand parameters that the message does not have? -/
def isMalformed : Message → Bool
  | .request _ method params =>
    if method = "textDocument/completion".toList then !(Params.readCompletion params).isOk
    else false
  | .notification method params =>
    if method = "textDocument/didOpen".toList then !(Params.readOpen params).isOk
    else if method = "textDocument/didChange".toList then !(Params.readChange params).isOk
    else if method = "textDocument/didSave".toList then !(Params.readSave params).isOk
    else if method = "textDocument/didClose".toList then !(Params.readClose params).isOk
    else false
  | .response _ => false

/-- The document whose diagnostics a message makes known: one that it opens, saves or closes,
    or one that it changes, if it comes with a change at all. -/
def announced? (m : Message) : Option Text :=
  m.edit?.bind fun (u, e) => if e.isSilent then none else some u

/-- Only notifications tell of documents. -/
theorem edit?_eq_none_of_not_isNotification {m : Message} (h : m.isNotification = false) :
    m.edit? = none := by
  cases m with
  | request id method params => rfl
  | notification method params => cases h
  | response id => rfl

/-- Malformed parameters tell nothing. -/
theorem edit?_eq_none_of_isMalformed {m : Message} (h : m.isMalformed = true) :
    m.edit? = none := by
  -- In each of the four cases the parameters are read in vain.
  have hread : ∀ {α : Type} {read : Except ShapeError α} {tells : α → Text × Edit},
      (!read.isOk) = true → read.toOption.map tells = none := by
    intro α read tells hfails
    cases read with
    | error e => rfl
    | ok p => cases hfails
  cases m with
  | request id method params => rfl
  | response id => rfl
  | notification method params =>
    simp only [isMalformed] at h
    simp only [edit?]
    split at h
    · next hopen => rw [if_pos hopen, hread h]
    · next hopen =>
      rw [if_neg hopen]
      split at h
      · next hchange => rw [if_pos hchange, hread h]
      · next hchange =>
        rw [if_neg hchange]
        split at h
        · next hsave => rw [if_pos hsave, hread h]
        · next hsave =>
          rw [if_neg hsave]
          split at h
          · next hclose => rw [if_pos hclose, hread h]
          · cases h

theorem announced?_eq_none {m : Message} (h : m.edit? = none) : m.announced? = none := by
  rw [announced?, h]
  rfl

/-- A message that makes diagnostics known is no request. -/
theorem requestId?_eq_none_of_announced? {m : Message} {u : Text} (h : m.announced? = some u) :
    m.requestId? = none := by
  cases m with
  | request id method params => cases h
  | notification method params => rfl
  | response id => rfl

end Message

/-! ## Replies -/

namespace Reply

/-- The identifier of the request that a reply responds to. -/
def responseId? : Reply → Option RequestId
  | .result id _ => some id
  | .failure id _ _ => some id
  | .notification _ _ => none

/-- Does a reply make diagnostics known? -/
def isPublication : Reply → Bool
  | .notification method _ => method = "textDocument/publishDiagnostics".toList
  | _ => false

/-- The document that a reply names. -/
def uri? : Reply → Option Text
  | .notification _ params =>
    match params.get? "uri".toList with
    | some (.string u) => some u
    | _ => none
  | _ => none

theorem isPublication_of_responseId? {r : Reply} {id : RequestId} (h : r.responseId? = some id) :
    r.isPublication = false := by
  cases r with
  | result id value => rfl
  | failure id code message => rfl
  | notification method params => cases h

theorem uri?_publish (u : Text) (diagnostics : List Json) :
    (Server.publish u diagnostics).uri? = some u := by
  have hname : Params.uriField.name = "uri".toList := rfl
  simp [Server.publish, uri?, Json.ofMembers, Json.get?, Table.ofEntries, Table.get?_insert, hname]

end Reply

/-- **Replies.**  All that may be sent on a message. -/
inductive Replies : Message → List Reply → Prop where
  /-- A request is answered, with a result or with a refusal. -/
  | response {id : RequestId} {method : Text} {params : Json} {r : Reply} :
      (Message.request id method params).isMalformed = false → r.responseId? = some id →
      Replies (.request id method params) [r]
  /-- News of a document is answered with its diagnostics. -/
  | publication {m : Message} {u : Text} {diagnostics : List Json} : m.announced? = some u →
      Replies m [Server.publish u diagnostics]
  /-- A message that cannot be read is passed over. -/
  | malformed {m : Message} : m.isMalformed = true → Replies m []
  /-- So is a message that neither asks nor tells anything. -/
  | silence {m : Message} : m.requestId? = none → m.announced? = none → Replies m []

namespace Replies

/-- A request has one response, unless it is malformed, and nothing else has any. -/
theorem responses {m : Message} {replies : List Reply} (h : Replies m replies) :
    replies.filterMap Reply.responseId?
      = if m.isMalformed then [] else m.requestId?.toList := by
  cases h with
  | response hformed hid =>
    rw [hformed, List.filterMap_cons_some hid]
    rfl
  | @publication _ u diagnostics hannounced =>
    rw [Message.requestId?_eq_none_of_announced? hannounced]
    show [] = _
    split <;> rfl
  | malformed hmalformed =>
    rw [hmalformed]
    rfl
  | silence hid hannounced =>
    rw [hid]
    show [] = _
    split <;> rfl

/-- News of a document has one publication, of that document, and nothing else has any. -/
theorem publications {m : Message} {replies : List Reply} (h : Replies m replies) :
    (replies.filter Reply.isPublication).map Reply.uri? = m.announced?.toList.map some := by
  cases h with
  | response hformed hid =>
    have hnot := Reply.isPublication_of_responseId? hid
    rw [List.filter_cons_of_neg (by simp [hnot])]
    rfl
  | @publication _ u diagnostics hannounced =>
    have hpublication : (Server.publish u diagnostics).isPublication = true := rfl
    rw [hannounced, List.filter_cons_of_pos hpublication, List.map_cons, Reply.uri?_publish]
    rfl
  | malformed hmalformed =>
    rw [Message.announced?_eq_none (Message.edit?_eq_none_of_isMalformed hmalformed)]
    rfl
  | silence hid hannounced =>
    rw [hannounced]
    rfl

/-- What is no request has no response. -/
theorem not_response {m : Message} {replies : List Reply} (h : Replies m replies)
    (hm : m.requestId? = none) : ∀ r ∈ replies, r.responseId? = none := by
  have hnone : replies.filterMap Reply.responseId? = [] := by
    rw [h.responses, hm]
    split <;> rfl
  exact List.filterMap_eq_nil_iff.mp hnone

end Replies

namespace Server

theorem request_replies (s : Server) (id : RequestId) (method : Text) (params : Json) :
    Replies (.request id method params) (s.request id method params) := by
  unfold request
  by_cases hcompletion : method = "textDocument/completion".toList
  · rw [if_pos hcompletion]
    cases hread : Params.readCompletion params with
    | ok p =>
      have hformed : (Message.request id method params).isMalformed = false := by
        simp only [Message.isMalformed, if_pos hcompletion, hread]
        rfl
      exact .response hformed rfl
    | error e =>
      have hmalformed : (Message.request id method params).isMalformed = true := by
        simp only [Message.isMalformed, if_pos hcompletion, hread]
        rfl
      exact .malformed hmalformed
  · rw [if_neg hcompletion]
    have hformed : (Message.request id method params).isMalformed = false := by
      simp only [Message.isMalformed, if_neg hcompletion]
    by_cases hshutdown : method = "shutdown".toList
    · rw [if_pos hshutdown]
      exact .response hformed rfl
    · rw [if_neg hshutdown]
      exact .response hformed rfl

/-- **What one message is met with.** -/
theorem receive_replies (s : Server) (m : Message) : Replies m (s.receive m).2 := by
  cases hedit : m.edit? with
  | some told =>
    obtain ⟨u, e⟩ := told
    have hperforms := s.receive_edit hedit
    rw [hperforms.replies]
    cases hsilent : e.isSilent with
    | true =>
      have hannounced : m.announced? = none := by
        simp [Message.announced?, hedit, hsilent]
      have hid : m.requestId? = none := by
        cases m with
        | request id method params => cases hedit
        | notification method params => rfl
        | response id => rfl
      exact .silence hid hannounced
    | false =>
      have hannounced : m.announced? = some u := by
        simp [Message.announced?, hedit, hsilent]
      exact .publication hannounced
  | none =>
    have hannounced := Message.announced?_eq_none hedit
    cases m with
    | request id method params => exact s.request_replies id method params
    | response id => exact .silence rfl hannounced
    | notification method params =>
      have hhandles := s.handles_notify method params
      rw [hedit] at hhandles
      have hnothing : s.notify method params = (s, []) := hhandles
      rw [receive, hnothing]
      exact .silence rfl hannounced

end Server

/-! ## Sessions -/

/-- The messages that a session attends to: those before the order to exit. -/
def heard (ms : List Message) : List Message :=
  ms.takeWhile fun m => !m.isExit

theorem not_isExit_of_mem_heard {ms : List Message} : ∀ m ∈ heard ms, m.isExit = false := by
  intro m hm
  have hall := List.all_eq_true.mp (List.all_takeWhile (p := fun m : Message => !m.isExit)) m hm
  simpa using hall

namespace Session

theorem step_ended {s : Session} (hs : s.running = false) (m : Message) : s.step m = (s, []) := by
  simp [step, hs]

/-- A session that has ended sends nothing. -/
theorem sent_ended {s : Session} (hs : s.running = false) (ms : List Message) :
    s.sent ms = [] := by
  induction ms with
  | nil => rfl
  | cons m ms ih =>
    rw [sent_cons, step_ended hs]
    exact ih

/-- The order to exit is the last message that a session looks at. -/
theorem sent_exit (s : Session) {order : Message} (horder : order.isExit = true)
    (ms : List Message) : s.sent (order :: ms) = [] := by
  by_cases hs : s.running = true
  · have hstep : s.step order = ({ s with running := false }, []) := by
      simp [step, hs, horder]
    rw [sent_cons, hstep]
    exact sent_ended rfl ms
  · exact sent_ended (by simpa using hs) (order :: ms)

/-- What a step leaves of a session that runs. -/
theorem running_step {s : Session} (hs : s.running = true) {m : Message}
    (hm : m.isExit = false) : (s.step m).1.running = true := by
  rw [step_eq hs hm]
  exact hs

theorem running_after {s : Session} (hs : s.running = true) {ms : List Message}
    (hms : ∀ m ∈ ms, m.isExit = false) : (s.after ms).running = true := by
  induction ms generalizing s with
  | nil => exact hs
  | cons m ms ih =>
    exact ih (running_step hs (hms m (by simp))) fun x hx => hms x (by simp [hx])

/-- While a session runs, it sends what its server does. -/
theorem step_replies {s : Session} (hs : s.running = true) {m : Message}
    (hm : m.isExit = false) : Replies m (s.step m).2 := by
  rw [step_eq hs hm]
  exact s.server.receive_replies m

/-- What is no request has no response, whether the session runs or not. -/
theorem step_not_response (s : Session) {m : Message} (hm : m.requestId? = none) :
    ∀ r ∈ (s.step m).2, r.responseId? = none := by
  unfold step
  split
  · exact fun r hr => nomatch hr
  · split
    · exact fun r hr => nomatch hr
    · exact (s.server.receive_replies m).not_response hm

/-- An entry of a transcript is one step of the session. -/
theorem exists_of_mem_transcript {s : Session} {ms : List Message} {m : Message}
    {replies : List Reply} (h : (m, replies) ∈ s.transcript ms) :
    ∃ before later, ms = before ++ m :: later ∧ replies = ((s.after before).step m).2 := by
  induction ms generalizing s with
  | nil => cases h
  | cons first ms ih =>
    rw [transcript, List.mem_cons] at h
    rcases h with heq | h
    · cases heq
      exact ⟨[], ms, rfl, rfl⟩
    · obtain ⟨before, later, hms, hreplies⟩ := ih h
      exact ⟨first :: before, later, by rw [hms]; rfl, hreplies⟩

/-- **Responses.**  A session responds to the requests before the order to exit, except the
    malformed ones, in the order in which they come. -/
theorem responses_sent {s : Session} (hs : s.running = true) (ms : List Message) :
    (s.sent ms).filterMap Reply.responseId?
      = ((heard ms).filter fun m => !m.isMalformed).filterMap Message.requestId? := by
  induction ms generalizing s with
  | nil => rfl
  | cons m ms ih =>
    by_cases hm : m.isExit = true
    · have hheard : heard (m :: ms) = [] := by
        simp [heard, hm]
      rw [s.sent_exit hm, hheard]
      rfl
    · have hexit : m.isExit = false := by simpa using hm
      have hheard : heard (m :: ms) = m :: heard ms := by
        simp [heard, hexit]
      have hreplies : Replies m (s.step m).2 := step_replies hs hexit
      rw [sent_cons, List.filterMap_append, ih (running_step hs hexit), hreplies.responses, hheard]
      cases hmalformed : m.isMalformed with
      | true => rw [List.filter_cons_of_neg (by simp [hmalformed])]; rfl
      | false =>
        rw [List.filter_cons_of_pos (by simp [hmalformed]), List.filterMap_cons]
        cases m.requestId? <;> rfl

/-- A message that tells of no document leaves all documents as they are. -/
theorem documents_step (s : Session) {m : Message} (h : m.edit? = none) :
    (s.step m).1.server.documents = s.server.documents := by
  unfold step
  split
  · rfl
  · split
    · rfl
    · show (s.server.receive m).1.documents = s.server.documents
      rw [(s.server.receive_of_edit?_eq_none h []).1]

theorem after_concat (s : Session) (ms : List Message) (m : Message) :
    s.after (ms ++ [m]) = ((s.after ms).step m).1 := by
  rw [after, List.foldl_append]
  rfl

end Session

/-- **Replies of a session.**  The responses are to the requests before the order to exit, one
    to each in their order, with malformed requests left out; nothing else is responded to.
    News of a document is met with one publication, of this document, and nothing else is met
    with any.  Requests, responses and malformed messages change no document, and after the
    order to exit nothing is sent. -/
theorem session_replies (catalog : Catalog) (ms : List Message) :
    ((Session.start catalog).sent ms).filterMap Reply.responseId?
      = ((heard ms).filter fun m => !m.isMalformed).filterMap Message.requestId?
    ∧ (∀ m replies, (m, replies) ∈ (Session.start catalog).transcript ms →
        m.requestId? = none → ∀ r ∈ replies, r.responseId? = none)
    ∧ (∀ m replies, (m, replies) ∈ (Session.start catalog).transcript (heard ms) →
        (replies.filter Reply.isPublication).map Reply.uri? = m.announced?.toList.map some)
    ∧ (∀ m, m.isNotification = false ∨ m.isMalformed = true →
        ((Session.start catalog).after (ms ++ [m])).server.documents
          = ((Session.start catalog).after ms).server.documents)
    ∧ (∀ order later, order.isExit = true →
        ((Session.start catalog).after ms).sent (order :: later) = []) := by
  have hstart : (Session.start catalog).running = true := rfl
  refine ⟨Session.responses_sent hstart ms, ?_, ?_, ?_, ?_⟩
  · intro m replies hentry hm
    obtain ⟨before, later, -, rfl⟩ := Session.exists_of_mem_transcript hentry
    exact Session.step_not_response _ hm
  · intro m replies hentry
    obtain ⟨before, later, hms, rfl⟩ := Session.exists_of_mem_transcript hentry
    -- The order to exit has not come yet.
    have hexit : ∀ x ∈ before ++ m :: later, x.isExit = false := by
      rw [← hms]
      exact not_isExit_of_mem_heard
    have hrunning : ((Session.start catalog).after before).running = true :=
      Session.running_after hstart fun x hx => hexit x (by simp [hx])
    exact (Session.step_replies hrunning (hexit m (by simp))).publications
  · intro m hm
    rw [Session.after_concat]
    apply Session.documents_step
    rcases hm with hnot | hmalformed
    · exact Message.edit?_eq_none_of_not_isNotification hnot
    · exact Message.edit?_eq_none_of_isMalformed hmalformed
  · intro order later horder
    exact Session.sent_exit _ horder later

/-- A document is opened and saved, and another one is changed and closed.  In between there are
    requests, one of them malformed and one unknown, a response, a change without a text and a
    malformed notification, and after the order to exit there is one more request. -/
def conversation : List Message :=
  [.request (.number 1) "shutdown".toList .null,
    (Edit.opened "css".toList "$a]".toList).message "file:a".toList,
    .request (.number 2) "textDocument/completion".toList .null,
    (Edit.changed ["$b".toList, "$c]".toList]).message "file:b".toList,
    .response (.number 7),
    (Edit.changed []).message "file:a".toList,
    (Edit.saved (some "$d[".toList)).message "file:a".toList,
    .notification "textDocument/didClose".toList .null,
    Edit.closed.message "file:b".toList,
    .request (.name "x".toList) "workspace/symbol".toList .null,
    .notification "exit".toList .null,
    .request (.number 3) "shutdown".toList .null]

theorem session_replies_conversation :
    ((Session.start .empty).sent conversation).filterMap Reply.responseId?
      = [.number 1, .name "x".toList]
    ∧ (conversation.filterMap Message.announced?
      = ["file:a".toList, "file:b".toList, "file:a".toList, "file:b".toList])
    ∧ (∀ m replies u, (m, replies) ∈ (Session.start .empty).transcript (heard conversation) →
        m.announced? = some u → (replies.filter Reply.isPublication).map Reply.uri? = [some u])
    ∧ ((Session.start .empty).after (conversation.take 7
          ++ [.notification "textDocument/didClose".toList .null])).server.documents
        = ((Session.start .empty).after (conversation.take 7)).server.documents
    ∧ ((Session.start .empty).after (conversation.take 10)).sent (conversation.drop 10) = [] := by
  obtain ⟨hresponses, -, hpublications, -, -⟩ := session_replies .empty conversation
  obtain ⟨-, -, -, hdocuments, -⟩ := session_replies .empty (conversation.take 7)
  obtain ⟨-, -, -, -, hexit⟩ := session_replies .empty (conversation.take 10)
  refine ⟨?_, by decide, ?_, hdocuments _ (.inr (by decide)), hexit _ _ (by decide)⟩
  · rw [hresponses]
    decide
  · intro m replies u hentry hannounced
    rw [hpublications m replies hentry, hannounced]
    rfl

end Sigil

import Focalboard.Ai.Service

/-!
# The chat window

`Chatbot` (`chatbot.tsx`) keeps the messages it shows, the input, a loading flag, and the
conversation it sends to the assistant (`conversationHistoryRef`). `handleSendMessage` does the
work: it shows the user's trimmed text, adds it to the conversation, and awaits `getResponse`
with the whole conversation and the board context; a reply is shown and added to the
conversation, an error is only shown.

The window is a state machine over what the user and the network do. The awaited call is a state
of its own, which a later `settle` ends, so the window can be closed, reopened or typed into
between a send and its reply. Over every run from the mounted component:
* the messages shown alternate, the user's first, and the window is loading exactly while the
  last one waits for its reply;
* the conversation is the user's messages and the replies shown, in order, without the errors,
  and none of the user's messages is blank;
* every request carries the system prompt with the board context, then that conversation.

An error status from the server whose body holds strings where the code reads its message is
shown as an error and never enters the conversation.
-/

namespace Focalboard.Ai

open Focalboard.Js

/-- A shown message by the prefix of its id: `user-`, `ai-` or `ai-error-`. -/
inductive MessageKind where
  | user
  | ai
  | aiError
  deriving DecidableEq, Repr

/-- `Message`, without the clock's part of its id and its timestamp. -/
structure Message where
  kind : MessageKind
  text : List Char
  deriving DecidableEq, Repr

/-- The component's state, and the arguments of the `getResponse` call it awaits. -/
structure ChatState where
  isOpen : Bool
  messages : List Message
  inputValue : List Char
  isLoading : Bool
  conversationHistory : List AIMessage
  awaiting : Option (List AIMessage × List Char)
  deriving DecidableEq, Repr

def ChatState.initial : ChatState := ⟨false, [], [], false, [], none⟩

/-- What reaches the window. -/
inductive ChatEvent where
  /-- A click on the round button or on the close button (`handleToggleChat`). -/
  | toggle
  /-- The input's `onChange`. -/
  | input (value : List Char)
  /-- The send button, or Enter in the input, with what `collectChatbotContext` and
  `formatContextForAI` give, `none` when they throw. -/
  | send (context : Option (List Char))
  /-- The awaited call settles, `fetch` having answered with `outcome`. -/
  | settle (outcome : FetchOutcome)

/-- The text shown for an error reply without a message. -/
def errorFallback : List Char :=
  "Sorry, I encountered an error. Please check your API configuration.".toList

def sendFailure : List Char :=
  "Sorry, I encountered an error while processing your request. Please try again.".toList

/-- `handleSendMessage` up to its `await` (lines 59-91). -/
def sendMessage (s : ChatState) (context : Option (List Char)) : ChatState :=
  if trim s.inputValue = [] ∨ s.isLoading = true then s else
  let userMessageText := trim s.inputValue
  let s : ChatState := { s with
    messages := s.messages ++ [⟨.user, userMessageText⟩]
    inputValue := []
    isLoading := true
    conversationHistory := s.conversationHistory ++ [⟨.user, userMessageText⟩] }
  match context with
  | some contextString => { s with awaiting := some (s.conversationHistory, contextString) }
  | none => { s with messages := s.messages ++ [⟨.aiError, sendFailure⟩], isLoading := false }

/-- The rest of `handleSendMessage` once `getResponse` settles with `response` (lines 93-128). -/
def receiveResponse (s : ChatState) (response : AIResponse) : ChatState :=
  let s : ChatState :=
    if truthyText response.error then
      { s with
        messages := s.messages ++ [⟨.aiError, orText (some response.message) errorFallback⟩] }
    else
      { s with
        conversationHistory := s.conversationHistory ++ [⟨.assistant, response.message⟩]
        messages := s.messages ++ [⟨.ai, response.message⟩] }
  { s with isLoading := false, awaiting := none }

section Machine

variable {ν : Type} (N : JsNumbers ν) (config : Option (AIConfig ν))

/-- One event. The input and the send button are there only while the window is open, and the
input is disabled while loading; the toggle, and a call settling, come whatever is shown. -/
def chatStep (s : ChatState) : ChatEvent → ChatState
  | .toggle => { s with isOpen := !s.isOpen }
  | .input value =>
    if s.isOpen = true ∧ s.isLoading = false then { s with inputValue := value } else s
  | .send context => if s.isOpen = true then sendMessage s context else s
  | .settle outcome =>
    match s.awaiting with
    | some (messages, context) =>
      receiveResponse s (getResponse N config (fun _ => outcome) messages context).2
    | none => s

/-- The state after a run of events. -/
def chatRun (s : ChatState) : List ChatEvent → ChatState
  | [] => s
  | e :: events => chatRun (chatStep N config s e) events

end Machine

def Message.sent : Message → Option AIMessage
  | ⟨.user, text⟩ => some ⟨.user, text⟩
  | ⟨.ai, text⟩ => some ⟨.assistant, text⟩
  | ⟨.aiError, _⟩ => none

/-- The user's messages stand at the even positions, and only there. -/
def Alternates (messages : List Message) : Prop :=
  ∀ i (h : i < messages.length), messages[i].kind = .user ↔ i % 2 = 0

instance : DecidablePred Alternates := fun messages =>
  inferInstanceAs (Decidable (∀ i (h : i < messages.length), messages[i].kind = .user ↔ i % 2 = 0))

/-- What holds of the window between any two events. -/
structure ChatInv (s : ChatState) : Prop where
  alternates : Alternates s.messages
  loading : s.isLoading = true ↔ s.messages.length % 2 = 1
  history : s.conversationHistory = s.messages.filterMap Message.sent
  awaiting : s.awaiting.isSome = s.isLoading
  awaited : ∀ messages context, s.awaiting = some (messages, context) →
    messages = s.conversationHistory
  userTexts : ∀ m ∈ s.messages, m.kind = .user → m.text ≠ [] ∧ trim m.text = m.text

theorem alternates_append {messages : List Message} (h : Alternates messages) {m : Message}
    (hm : m.kind = .user ↔ messages.length % 2 = 0) : Alternates (messages ++ [m]) := by
  intro i hi
  rw [List.length_append, List.length_singleton] at hi
  rcases Nat.lt_succ_iff_lt_or_eq.1 hi with hlt | rfl
  · rw [List.getElem_append_left hlt]
    exact h i hlt
  · rwa [List.getElem_concat_length messages m _ rfl]

theorem chatInv_initial : ChatInv ChatState.initial :=
  ⟨fun _ h => absurd h (Nat.not_lt_zero _), by decide, rfl, rfl, nofun, nofun⟩

section Steps

variable {s : ChatState}

theorem chatInv_sendMessage (hi : ChatInv s) (context : Option (List Char)) :
    ChatInv (sendMessage s context) := by
  unfold sendMessage
  split
  · exact hi
  · rename_i hsend
    have hidle : s.isLoading = false := by simpa using (not_or.1 hsend).2
    have heven : s.messages.length % 2 = 0 := by
      have := hi.loading
      simp only [hidle, Bool.false_eq_true, false_iff] at this
      omega
    have hnone : s.awaiting = none := by
      simpa [hidle] using hi.awaiting
    have hshown := @alternates_append _ hi.alternates ⟨.user, trim s.inputValue⟩
      (iff_of_true rfl heven)
    have htexts : ∀ m ∈ s.messages ++ [⟨.user, trim s.inputValue⟩], m.kind = .user →
        m.text ≠ [] ∧ trim m.text = m.text :=
      List.forall_mem_append.2 ⟨hi.userTexts,
        List.forall_mem_singleton.2 fun _ => ⟨(not_or.1 hsend).1, trim_trim _⟩⟩
    cases context with
    | some contextString =>
      refine ⟨hshown, ?_, ?_, rfl, fun _ _ h => (Prod.mk.inj (Option.some.inj h)).1.symm, htexts⟩
      · simp only [List.length_append, List.length_singleton, true_iff]
        omega
      · simp [hi.history, Message.sent]
    | none =>
      refine ⟨alternates_append hshown ?_, ?_, ?_, by simpa using hnone, ?_,
        List.forall_mem_append.2 ⟨htexts, List.forall_mem_singleton.2 nofun⟩⟩
      · simp only [List.length_append, List.length_singleton]
        exact iff_of_false nofun (by omega)
      · simp only [List.length_append, List.length_singleton]
        exact iff_of_false Bool.false_ne_true (by omega)
      · simp [hi.history, Message.sent]
      · simp [hnone]

theorem chatInv_receiveResponse (hi : ChatInv s) (hload : s.isLoading = true)
    (response : AIResponse) : ChatInv (receiveResponse s response) := by
  have hodd : s.messages.length % 2 = 1 := hi.loading.1 hload
  have hreply : ∀ m : Message, m.kind ≠ .user → Alternates (s.messages ++ [m]) :=
    fun m hm => alternates_append hi.alternates (iff_of_false hm (by omega))
  have htexts : ∀ m : Message, m.kind ≠ .user → ∀ x ∈ s.messages ++ [m], x.kind = .user →
      x.text ≠ [] ∧ trim x.text = x.text :=
    fun _ hm => List.forall_mem_append.2 ⟨hi.userTexts, List.forall_mem_singleton.2 (absurd · hm)⟩
  unfold receiveResponse
  split
  all_goals
    refine ⟨hreply _ nofun, ?_, by simp [hi.history, Message.sent], rfl, nofun, htexts _ nofun⟩
    simp only [List.length_append, List.length_singleton]
    exact iff_of_false Bool.false_ne_true (by omega)

variable {ν : Type} (N : JsNumbers ν) (config : Option (AIConfig ν))

/-- **Step lemma.** Every event keeps the invariant. -/
theorem chatInv_chatStep (hi : ChatInv s) (e : ChatEvent) : ChatInv (chatStep N config s e) := by
  cases e with
  | toggle => exact ⟨hi.1, hi.2, hi.3, hi.4, hi.5, hi.6⟩
  | input value =>
    simp only [chatStep]
    split
    · exact ⟨hi.1, hi.2, hi.3, hi.4, hi.5, hi.6⟩
    · exact hi
  | send context =>
    simp only [chatStep]
    split
    · exact chatInv_sendMessage hi context
    · exact hi
  | settle outcome =>
    simp only [chatStep]
    split
    · rename_i h
      exact chatInv_receiveResponse hi (by simpa [h] using hi.awaiting.symm) _
    · exact hi

/-- **Run lemma.** -/
theorem chatInv_chatRun (hi : ChatInv s) (events : List ChatEvent) :
    ChatInv (chatRun N config s events) := by
  induction events generalizing s with
  | nil => exact hi
  | cons e events ih => exact ih (chatInv_chatStep N config hi e)

end Steps

def greetingRun : List ChatEvent := [.toggle, .input " hi ".toList, .send (some [])]

theorem greetingRun_awaiting :
    (chatRun textNumbers (some keyedConfig) ChatState.initial greetingRun).awaiting =
      some ([⟨.user, "hi".toList⟩], []) := by
  decide

section Runs

variable {ν : Type} (N : JsNumbers ν)

theorem sent_role_ne_system {m : Message} {a : AIMessage} (h : m.sent = some a) :
    a.role ≠ .system := by
  rcases m with ⟨_ | _ | _, text⟩ <;> cases h <;> nofun

/-- **The messages alternate.** Whatever the user does and whatever the server answers, the
messages shown are the user's and one reply to each in turn, and the window is loading exactly
while the last one is the user's. -/
theorem chatRun_alternates (config : Option (AIConfig ν)) (events : List ChatEvent) :
    Alternates (chatRun N config ChatState.initial events).messages ∧
      ((chatRun N config ChatState.initial events).isLoading = true ↔
        (chatRun N config ChatState.initial events).messages.length % 2 = 1) :=
  have hi := chatInv_chatRun N config chatInv_initial events
  ⟨hi.alternates, hi.loading⟩

/-- **The conversation is what is shown, without the errors.** -/
theorem chatRun_conversationHistory (config : Option (AIConfig ν)) (events : List ChatEvent) :
    (chatRun N config ChatState.initial events).conversationHistory =
      (chatRun N config ChatState.initial events).messages.filterMap Message.sent :=
  (chatInv_chatRun N config chatInv_initial events).history

/-- **No blank message is sent.** Every user message of the conversation is the trimmed text of
an input that was not blank. -/
theorem chatRun_userMessages (config : Option (AIConfig ν)) (events : List ChatEvent) :
    ∀ a ∈ (chatRun N config ChatState.initial events).conversationHistory, a.role = .user →
      a.content ≠ [] ∧ trim a.content = a.content := by
  have hi := chatInv_chatRun N config chatInv_initial events
  intro a ha hrole
  rw [hi.history] at ha
  obtain ⟨⟨kind, text⟩, hm, hsent⟩ := List.mem_filterMap.1 ha
  cases kind <;> cases hsent
  · exact hi.userTexts _ hm rfl
  · cases hrole

theorem chatRun_userMessages_greeting :
    (⟨.user, "hi".toList⟩ : AIMessage) ∈
        (chatRun textNumbers (some keyedConfig) ChatState.initial greetingRun).conversationHistory ∧
      "hi".toList ≠ [] ∧ trim "hi".toList = "hi".toList :=
  have hsent : (⟨.user, "hi".toList⟩ : AIMessage) ∈
      (chatRun textNumbers (some keyedConfig) ChatState.initial greetingRun).conversationHistory :=
    by decide
  ⟨hsent, chatRun_userMessages textNumbers _ greetingRun _ hsent rfl⟩

/-- **Every request carries the conversation shown.** While the window awaits a reply under a
config with a key, the request goes to the Cerebras endpoint with that key, and its messages are
the system prompt with the context, then the user's messages and the replies shown, in order. -/
theorem chatRun_request {c : AIConfig ν} (hkey : c.apiKey ≠ []) (events : List ChatEvent)
    {messages : List AIMessage} {context : List Char}
    (hawait : (chatRun N (some c) ChatState.initial events).awaiting = some (messages, context))
    (fetch : CerebrasRequest ν → FetchOutcome) :
    ∃ request, (getResponse N (some c) fetch messages context).1 = some request ∧
      request.url = cerebrasApiUrl ∧ request.authorization = "Bearer ".toList ++ c.apiKey ∧
      request.messages = ⟨.system, buildSystemPrompt context⟩ ::
        (chatRun N (some c) ChatState.initial events).messages.filterMap Message.sent := by
  have hi := chatInv_chatRun N (some c) chatInv_initial events
  have hshown : messages = (chatRun N (some c) ChatState.initial events).messages.filterMap
      Message.sent := (hi.awaited _ _ hawait).trans hi.history
  have hsys : ∀ a ∈ messages, a.role ≠ .system := by
    rw [hshown]
    intro a ha
    obtain ⟨m, -, hm⟩ := List.mem_filterMap.1 ha
    exact sent_role_ne_system hm
  refine ⟨_, getResponse_request N hkey fetch messages context, rfl, rfl, ?_⟩
  rw [cerebrasRequest_messages, requestMessages_system_cons,
    List.filter_eq_self.2 (by simpa using hsys), hshown]

theorem chatRun_request_greeting :
    keyedConfig.apiKey ≠ [] ∧
      (chatRun textNumbers (some keyedConfig) ChatState.initial greetingRun).awaiting =
        some ([⟨.user, "hi".toList⟩], []) ∧
      ∃ request, (getResponse textNumbers (some keyedConfig) (fun _ => .rejected [])
          [⟨.user, "hi".toList⟩] []).1 = some request ∧
        request.url = cerebrasApiUrl ∧
        request.authorization = "Bearer ".toList ++ keyedConfig.apiKey ∧
        request.messages = ⟨.system, buildSystemPrompt []⟩ ::
          (chatRun textNumbers (some keyedConfig) ChatState.initial greetingRun).messages.filterMap
            Message.sent :=
  ⟨by decide, greetingRun_awaiting,
    chatRun_request textNumbers (by decide) greetingRun greetingRun_awaiting _⟩

end Runs

theorem receiveResponse_apology (s : ChatState) {error : List Char} (h : error ≠ []) :
    receiveResponse s (apology error) =
      { s with
        messages := s.messages ++ [⟨.aiError, (apology error).message⟩]
        isLoading := false
        awaiting := none } := by
  simp [receiveResponse, apology, truthyText, h, orText, jsOr]

/-- **An error status is shown, never sent back.** With a key, when the server answers the
awaited request with an error status, whatever its body, the window shows the apology as an
error, stops loading and leaves the conversation as it was. -/
theorem chatStep_settle_error_status {ν : Type} (N : JsNumbers ν) {c : AIConfig ν}
    (hkey : c.apiKey ≠ []) {s : ChatState} {messages : List AIMessage} {context : List Char}
    (hawait : s.awaiting = some (messages, context)) (statusText : List Char)
    (body : Except (List Char) ReplyBody) :
    chatStep N (some c) s (.settle (.response false statusText body)) =
      { s with
        messages := s.messages ++ [⟨.aiError, (apology []).message⟩]
        isLoading := false
        awaiting := none } := by
  obtain ⟨error, he, hne⟩ := cerebrasReply_error_status statusText body
  simp only [chatStep, hawait]
  rw [getResponse_error N hkey he]
  exact receiveResponse_apology s hne

theorem chatStep_settle_error_status_greeting :
    keyedConfig.apiKey ≠ [] ∧
      (chatRun textNumbers (some keyedConfig) ChatState.initial greetingRun).awaiting =
        some ([⟨.user, "hi".toList⟩], []) ∧
      chatStep textNumbers (some keyedConfig)
          (chatRun textNumbers (some keyedConfig) ChatState.initial greetingRun)
          (.settle (.response false "Unauthorized".toList (.error "Unexpected end".toList))) =
        { chatRun textNumbers (some keyedConfig) ChatState.initial greetingRun with
          messages :=
            (chatRun textNumbers (some keyedConfig) ChatState.initial greetingRun).messages ++
              [⟨.aiError, (apology []).message⟩]
          isLoading := false
          awaiting := none } :=
  ⟨by decide, greetingRun_awaiting,
    chatStep_settle_error_status textNumbers (by decide) greetingRun_awaiting _ _⟩

end Focalboard.Ai

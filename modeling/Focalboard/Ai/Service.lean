import Focalboard.Ai.Config

/-!
# The assistant's request to the model

`getResponse` refuses to run without a key, and otherwise puts a system prompt built from the
board context in front of the conversation and hands it to `callCerebrasAPI`. That posts to the
one endpoint the code knows, whatever URL the settings hold, with the configured model and
numbers or their defaults, the first system message first and every other message after it in
order. Every failure (a rejected `fetch`, an error status, a body that is not JSON) becomes the
apology with the error's message, so the call never rejects.

`FetchOutcome` is what the network and the server answer; `ReplyBody` keeps of the parsed JSON
the four paths the code reads, each holding a string or nothing.
-/

namespace Focalboard.Ai

open Focalboard.Js

inductive Role where
  | system
  | user
  | assistant
  deriving DecidableEq, Repr

structure AIMessage where
  role : Role
  content : List Char
  deriving DecidableEq, Repr

/-- `AIResponse`: the text to show, and the error's message when there was one. -/
structure AIResponse where
  message : List Char
  error : Option (List Char)
  deriving DecidableEq, Repr

def apostrophe : Char := Char.ofNat 39

/-- `buildSystemPrompt(context)` (`aiService.ts`, lines 62-92): the role, the context when it is
not empty, and the guidelines. -/
def buildSystemPrompt (context : List Char) : List Char :=
  let prompt := ("You are an AI assistant helping users with Focalboard, a project management " ++
    "and collaboration tool.\n\nYour role is to:\n" ++
    "- Help users understand and navigate their boards and cards\n" ++
    "- Answer questions about their project data\n" ++
    "- Provide suggestions for organizing and managing tasks\n" ++
    "- Assist with board and card management\n" ++
    "- Be concise, helpful, and focused on actionable advice\n\n").toList
  let prompt := if context = [] then prompt else
    prompt ++ "Current Context:\n".toList ++ context ++
      "\n\nUse this context to provide relevant and specific answers about the user".toList ++
      apostrophe :: "s current board, cards, and project data.\n".toList
  prompt ++ ("\nGuidelines:\n- Be concise but thorough\n- Focus on actionable advice\n" ++
    "- Reference specific boards, cards, or data when relevant\n- If you don").toList ++
    apostrophe :: ("t have enough information, ask for clarification\n" ++
    "- Use markdown formatting for better readability when appropriate\n").toList

def cerebrasApiUrl : List Char := "https://api.cerebras.ai/v1/chat/completions".toList

/-- What `callCerebrasAPI` posts: the endpoint, the `Authorization` header, and the body. -/
structure CerebrasRequest (ν : Type) where
  url : List Char
  authorization : List Char
  model : List Char
  messages : List AIMessage
  temperature : ν
  topP : ν
  maxTokens : ν
  stream : Bool

/-- The body's messages (lines 103-125): the first system message, if there is one, then every
other message in order. -/
def requestMessages (messages : List AIMessage) : List AIMessage :=
  let systemMessage := messages.find? fun m => m.role = .system
  let conversationMessages := messages.filter fun m => m.role ≠ .system
  match systemMessage with
  | some m => ⟨.system, m.content⟩ :: conversationMessages
  | none => conversationMessages

/-- The request for `messages` under the service's config, in which a missing config reads as
`undefined` (lines 94-134). -/
def cerebrasRequest {ν : Type} (N : JsNumbers ν) (config : Option (AIConfig ν))
    (messages : List AIMessage) : CerebrasRequest ν where
  url := cerebrasApiUrl
  authorization := "Bearer ".toList ++ (config.map (·.apiKey)).getD "undefined".toList
  model := (jsOr (config.bind (·.model)) (some "zai-glm-4.6".toList)).getD []
  messages := requestMessages messages
  temperature := (config.bind (·.temperature)).getD (N.literal "0.6".toList)
  topP := (config.bind (·.topP)).getD (N.literal "0.95".toList)
  maxTokens := (config.bind (·.maxTokens)).getD (N.literal "4096".toList)
  stream := false

/-- The parsed JSON at the paths the code reads, each a string or absent:
`choices[0].message.content`, `content`, `error.message` and `message`. A body with a value of
another kind at one of them, which the code would stringify into an error's message or pass on as
the reply, is outside this model. -/
structure ReplyBody where
  choiceContent : Option (List Char)
  content : Option (List Char)
  errorMessage : Option (List Char)
  message : Option (List Char)

/-- `{}`, what a body that is not JSON becomes on the error path. -/
def ReplyBody.empty : ReplyBody := ⟨none, none, none, none⟩

/-- What `fetch` and `response.json()` give: a rejection with its error's message, or a response
with its `ok` flag, its status text, and the parsed body or the message of the parse error. -/
inductive FetchOutcome where
  | rejected (message : List Char)
  | response (ok : Bool) (statusText : List Char) (body : Except (List Char) ReplyBody)

/-- How `callCerebrasAPI` settles once the request is answered (lines 136-145): the reply, or the
message of the error it throws. -/
def cerebrasReply : FetchOutcome → Except (List Char) AIResponse
  | .rejected message => .error message
  | .response ok statusText body =>
    if ok then
      match body with
      | .error message => .error message
      | .ok data =>
        .ok ⟨orText (jsOr data.choiceContent data.content) "No response from AI".toList, none⟩
    else
      let errorData := match body with
        | .ok data => data
        | .error _ => ReplyBody.empty
      .error (orText (jsOr errorData.errorMessage errorData.message)
        ("API error: ".toList ++ statusText))

/-- `callCerebrasAPI(messages)`: the request it posts, and how it settles under `fetch`. -/
def callCerebrasAPI {ν : Type} (N : JsNumbers ν) (config : Option (AIConfig ν))
    (fetch : CerebrasRequest ν → FetchOutcome) (messages : List AIMessage) :
    CerebrasRequest ν × Except (List Char) AIResponse :=
  let request := cerebrasRequest N config messages
  (request, cerebrasReply (fetch request))

def notConfigured : AIResponse :=
  ⟨"AI service is not configured. Please set your API key in the configuration.".toList,
    some "No API key configured".toList⟩

def apology (error : List Char) : AIResponse :=
  ⟨"Sorry, I encountered an error while processing your request. Please try again.".toList,
    some error⟩

/-- `getResponse(messages, context)` (lines 34-60): the request posted, if any, and the reply. -/
def getResponse {ν : Type} (N : JsNumbers ν) (config : Option (AIConfig ν))
    (fetch : CerebrasRequest ν → FetchOutcome) (messages : List AIMessage) (context : List Char) :
    Option (CerebrasRequest ν) × AIResponse :=
  match config with
  | none => (none, notConfigured)
  | some c =>
    if c.apiKey = [] then (none, notConfigured) else
    let systemMessage : AIMessage := ⟨.system, buildSystemPrompt context⟩
    let allMessages := systemMessage :: messages
    let (request, reply) := callCerebrasAPI N config fetch allMessages
    (some request, match reply with
      | .ok response => response
      | .error message => apology message)

theorem buildSystemPrompt_eq_iff (context : List Char) :
    buildSystemPrompt context = buildSystemPrompt [] ↔ context = [] := by
  refine ⟨fun h => ?_, fun h => h ▸ rfl⟩
  by_contra hne
  have hlen := congrArg List.length h
  simp only [buildSystemPrompt, if_neg hne, eq_self_iff_true, if_true, List.length_append,
    List.length_cons] at hlen
  have := List.length_pos.2 hne
  omega

/-- Behind a leading system message, the body keeps every other message in order and drops any
later system message. -/
theorem requestMessages_system_cons (prompt : List Char) (messages : List AIMessage) :
    requestMessages (⟨.system, prompt⟩ :: messages) =
      ⟨.system, prompt⟩ :: messages.filter fun m => m.role ≠ .system := by
  simp [requestMessages]

@[simp] theorem cerebrasRequest_messages {ν : Type} (N : JsNumbers ν) (config : Option (AIConfig ν))
    (messages : List AIMessage) :
    (cerebrasRequest N config messages).messages = requestMessages messages := rfl

theorem getResponse_request {ν : Type} (N : JsNumbers ν) {c : AIConfig ν} (hkey : c.apiKey ≠ [])
    (fetch : CerebrasRequest ν → FetchOutcome) (messages : List AIMessage) (context : List Char) :
    (getResponse N (some c) fetch messages context).1 =
      some (cerebrasRequest N (some c) (⟨.system, buildSystemPrompt context⟩ :: messages)) := by
  simp [getResponse, hkey, callCerebrasAPI]

/-- **One system message, the service's own.** With a key, whatever messages the caller passes,
the body posted holds the system prompt built from the context first, then the caller's other
messages in order: a system message of the caller's is dropped. -/
theorem getResponse_request_messages {ν : Type} (N : JsNumbers ν) {c : AIConfig ν}
    (hkey : c.apiKey ≠ []) (fetch : CerebrasRequest ν → FetchOutcome) (messages : List AIMessage)
    (context : List Char) :
    ∃ request, (getResponse N (some c) fetch messages context).1 = some request ∧
      request.messages = ⟨.system, buildSystemPrompt context⟩ ::
        messages.filter fun m => m.role ≠ .system :=
  ⟨_, getResponse_request N hkey fetch messages context,
    requestMessages_system_cons (buildSystemPrompt context) messages⟩

def keyedConfig : AIConfig (List Char) := ⟨"k".toList, none, none, none, none, none⟩

def briefMessages : List AIMessage := [⟨.system, "Be brief".toList⟩, ⟨.user, "hi".toList⟩]

theorem getResponse_request_messages_brief :
    keyedConfig.apiKey ≠ [] ∧
      ∃ request, (getResponse textNumbers (some keyedConfig) (fun _ => .rejected [])
          briefMessages []).1 = some request ∧
        request.messages = [⟨.system, buildSystemPrompt []⟩, ⟨.user, "hi".toList⟩] :=
  ⟨by decide, getResponse_request_messages textNumbers (by decide) _ briefMessages []⟩

/-- An error status always throws a message that is not empty. -/
theorem cerebrasReply_error_status (statusText : List Char) (body : Except (List Char) ReplyBody) :
    ∃ error, cerebrasReply (.response false statusText body) = .error error ∧ error ≠ [] :=
  ⟨_, rfl, orText_ne_nil _ (List.append_ne_nil_of_left_ne_nil (by decide) _)⟩

/-- With a key, a call that throws settles as the apology with the thrown message. -/
theorem getResponse_error {ν : Type} (N : JsNumbers ν) {c : AIConfig ν} (hkey : c.apiKey ≠ [])
    {fetch : CerebrasRequest ν → FetchOutcome} {messages : List AIMessage} {context : List Char}
    {error : List Char}
    (h : cerebrasReply (fetch (cerebrasRequest N (some c)
      (⟨.system, buildSystemPrompt context⟩ :: messages))) = .error error) :
    (getResponse N (some c) fetch messages context).2 = apology error := by
  simp [getResponse, hkey, callCerebrasAPI, h]

end Focalboard.Ai

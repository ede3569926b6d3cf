import Focalboard.Ai.Service

/-!
# The board context given to the assistant

`collectChatbotContext` (`chatbotContext.ts`) picks out of the store the current board (among
the boards, then the templates), the current view, the board's cards that are not templates,
the board's members that the store knows, and a card when one is named. `formatContextForAI`
writes them as sections of lines, each a heading, its entries and an empty line, and joins the
lines with line feeds: at most ten cards are listed, then a count of the others, and a content
block's text is cut at a hundred characters.

A section is left out when it has nothing to show, so the text is empty exactly when there is
no board, view, card, card list or member to show; `buildSystemPrompt` then leaves out its
context section. The store's dictionaries are kept by their entries in key order, read by own
key.
-/

namespace Focalboard.Ai

open Focalboard.Js

/-- A card property's value, `string | string[]`. -/
inductive PropertyValue where
  | text (value : List Char)
  | list (values : List (List Char))
  deriving DecidableEq, Repr

/-- `IPropertyTemplate`, by the fields the context reads. -/
structure PropertyTemplate where
  name : List Char
  type : List Char
  deriving DecidableEq, Repr

/-- `Board`, by the fields the context reads. -/
structure Board where
  title : List Char
  description : List Char
  type : List Char
  cardProperties : List PropertyTemplate
  deriving DecidableEq, Repr

structure BoardView where
  title : List Char
  viewType : List Char
  groupById : Option (List Char)
  deriving DecidableEq, Repr

structure Card where
  id : List Char
  boardId : List Char
  title : List Char
  icon : Option (List Char)
  isTemplate : Bool
  properties : List (List Char × PropertyValue)
  deriving DecidableEq, Repr

/-- `ContentBlock`, by its type and its title. -/
structure ContentBlock where
  type : List Char
  title : List Char
  deriving DecidableEq, Repr

structure User where
  username : List Char
  email : Option (List Char)
  deriving DecidableEq, Repr

/-- The slices of `RootState` the context reads: the ids of the current board and view (empty
when there is none), and each dictionary by its entries. -/
structure RootState where
  currentBoardId : List Char
  boards : List (List Char × Board)
  templates : List (List Char × Board)
  currentViewId : List Char
  views : List (List Char × BoardView)
  cards : List (List Char × Card)
  membersInBoards : List (List Char × List (List Char))
  boardUsers : List (List Char × User)
  contentsByCard : List (List Char × List ContentBlock)
  deriving DecidableEq, Repr

/-- `ChatbotContext`. -/
structure ChatbotContext where
  currentBoard : Option Board
  currentView : Option BoardView
  currentCards : List Card
  currentCard : Option Card
  boardMembers : List User
  cardContents : List (List Char × List ContentBlock)
  totalCards : Nat
  viewType : Option (List Char)
  deriving DecidableEq, Repr

/-- `collectChatbotContext(state, cardId)` (`chatbotContext.ts`, lines 22-76). -/
def collectChatbotContext (state : RootState) (cardId : Option (List Char)) : ChatbotContext :=
  let currentBoardId := state.currentBoardId
  let currentBoard :=
    if currentBoardId = [] then none
    else (state.boards.lookup currentBoardId).orElse fun _ => state.templates.lookup currentBoardId
  let currentViewId := state.currentViewId
  let currentView := if currentViewId = [] then none else state.views.lookup currentViewId
  let currentCards :=
    if currentBoardId = [] then []
    else (state.cards.map Prod.snd).filter fun card =>
      decide (card.boardId = currentBoardId) && !card.isTemplate
  let currentCard :=
    match cardId with
    | some cardId => if cardId = [] then none else state.cards.lookup cardId
    | none => none
  let boardMembers :=
    if currentBoardId = [] then []
    else match state.membersInBoards.lookup currentBoardId with
      | some memberIds => memberIds.filterMap state.boardUsers.lookup
      | none => []
  { currentBoard, currentView, currentCards, currentCard, boardMembers,
    cardContents := state.contentsByCard
    totalCards := currentCards.length
    viewType := jsOr (currentView.map (·.viewType)) none }

/-- A number as a template literal writes it. -/
def decimal (n : Nat) : List Char := (toString n).toList

section Sections

variable (context : ChatbotContext)

/-- The current board's lines (lines 81-90). -/
def currentBoardPart : List (List Char) :=
  match context.currentBoard with
  | some board =>
    ["## Current Board".toList, "- Name: ".toList ++ board.title] ++
      (if board.description = [] then [] else ["- Description: ".toList ++ board.description]) ++
      ["- Type: ".toList ++ board.type, "- Total Cards: ".toList ++ decimal context.totalCards, []]
  | none => []

def currentViewPart : List (List Char) :=
  match context.currentView with
  | some view =>
    ["## Current View".toList, "- Name: ".toList ++ view.title,
      "- Type: ".toList ++ context.viewType.getD "null".toList] ++
      (match view.groupById with
        | some groupById => if groupById = [] then [] else ["- Grouped by: ".toList ++ groupById]
        | none => []) ++
      [[]]
  | none => []

/-- `Array.isArray(value) ? value.join(', ') : value`. -/
def PropertyValue.text? : PropertyValue → Option (List Char)
  | .text value => if value = [] then none else some value
  | .list values => some (", ".toList.intercalate values)

/-- A content block's line, when it is text or a heading with a title (lines 122-127): its
position from one, and its title cut at a hundred UTF-16 code units. -/
def contentLine (index : Nat) (content : ContentBlock) : Option (List Char) :=
  if content.type ∈ ["text", "h1", "h2", "h3"].map String.toList ∧ content.title ≠ [] then
    some ("  ".toList ++ decimal (index + 1) ++ ". ".toList ++ utf16Take 100 content.title ++
      (if 100 < utf16Length content.title then "...".toList else []))
  else none

/-- The current card's lines (lines 102-131). -/
def currentCardPart : List (List Char) :=
  match context.currentCard with
  | some card =>
    let properties := card.properties
    let contents := (context.cardContents.lookup card.id).getD []
    ["## Current Card".toList, "- Title: ".toList ++ card.title] ++
      (if truthyText card.icon then ["- Icon: ".toList ++ card.icon.getD []] else []) ++
      (if properties = [] then [] else
        "- Properties:".toList :: properties.filterMap fun (key, value) =>
          value.text?.map fun valueStr => "  - ".toList ++ key ++ ": ".toList ++ valueStr) ++
      (if contents = [] then [] else
        ("- Content blocks: ".toList ++ decimal contents.length) ::
          (contents.enum.filterMap fun (index, content) => contentLine index content)) ++
      [[]]
  | none => []

def cardEntry (index : Nat) (card : Card) : List (List Char) :=
  (decimal (index + 1) ++ ". ".toList ++ orText (some card.title) "Untitled Card".toList) ::
    (if truthyText card.icon then ["   Icon: ".toList ++ card.icon.getD []] else [])

/-- The board's cards (lines 133-146): the first ten, then how many more there are. -/
def boardCardsPart : List (List Char) :=
  let currentCards := context.currentCards
  if currentCards = [] then [] else
    "## Cards in Current Board".toList ::
      ((currentCards.take 10).enum.flatMap fun (index, card) => cardEntry index card) ++
      (if 10 < currentCards.length then
        ["... and ".toList ++ decimal (currentCards.length - 10) ++ " more cards".toList]
      else []) ++
      [[]]

def boardMembersPart : List (List Char) :=
  if context.boardMembers = [] then [] else
    "## Board Members".toList ::
      context.boardMembers.map (fun member =>
        "- ".toList ++ orText (jsOr (some member.username) member.email) "Unknown user".toList) ++
      [[]]

/-- The board's properties (lines 156-163). -/
def cardPropertiesPart : List (List Char) :=
  match context.currentBoard with
  | some board =>
    if board.cardProperties = [] then [] else
      "## Available Card Properties".toList ::
        board.cardProperties.map (fun prop =>
          "- ".toList ++ prop.name ++ " (".toList ++ prop.type ++ ")".toList) ++
        [[]]
  | none => []

/-- `parts`, section after section. -/
def contextParts : List (List Char) :=
  currentBoardPart context ++ currentViewPart context ++ currentCardPart context ++
    boardCardsPart context ++ boardMembersPart context ++ cardPropertiesPart context

/-- `formatContextForAI(context)` (lines 78-168): `parts.join('\n')`. -/
def formatContextForAI : List Char := ['\n'].intercalate (contextParts context)

/-- Lines that are none, or open with a line that is not empty. -/
def Headed (parts : List (List Char)) : Prop := ∀ line ∈ parts.head?, line ≠ []

theorem headed_append {a b : List (List Char)} (ha : Headed a) (hb : Headed b) :
    Headed (a ++ b) := by
  cases a with
  | nil => exact hb
  | cons line rest => exact ha

theorem intercalate_eq_nil_of_headed {parts : List (List Char)} (h : Headed parts) :
    ['\n'].intercalate parts = [] ↔ parts = [] := by
  cases parts with
  | nil => exact iff_of_true rfl rfl
  | cons line rest =>
    refine iff_of_false ?_ (List.cons_ne_nil _ _)
    rw [intercalate_cons]
    exact fun h' => h line rfl (List.append_eq_nil.1 h').1

/-- A section opens with its heading, or is left out. -/
theorem contextParts_headed : Headed (contextParts context) := by
  have hsome : ∀ heading rest, heading ≠ [] → Headed (heading :: rest) :=
    fun _ _ h _ hl => (Option.some.inj hl) ▸ h
  have hnil : Headed [] := nofun
  unfold contextParts currentBoardPart currentViewPart currentCardPart boardCardsPart
    boardMembersPart cardPropertiesPart
  dsimp only
  refine headed_append (headed_append (headed_append (headed_append (headed_append ?_ ?_) ?_) ?_)
    ?_) ?_ <;> repeat' first
    | exact hnil
    | exact hsome _ _ (by decide)
    | split

theorem currentBoardPart_eq_nil : currentBoardPart context = [] ↔ context.currentBoard = none := by
  cases h : context.currentBoard <;> simp [currentBoardPart, h]

theorem currentViewPart_eq_nil : currentViewPart context = [] ↔ context.currentView = none := by
  cases h : context.currentView <;> simp [currentViewPart, h]

theorem currentCardPart_eq_nil : currentCardPart context = [] ↔ context.currentCard = none := by
  cases h : context.currentCard <;> simp [currentCardPart, h]

theorem boardCardsPart_eq_nil : boardCardsPart context = [] ↔ context.currentCards = [] := by
  by_cases h : context.currentCards = [] <;> simp [boardCardsPart, h]

theorem boardMembersPart_eq_nil : boardMembersPart context = [] ↔ context.boardMembers = [] := by
  by_cases h : context.boardMembers = [] <;> simp [boardMembersPart, h]

theorem contextParts_eq_nil_iff :
    contextParts context = [] ↔ context.currentBoard = none ∧ context.currentView = none ∧
      context.currentCard = none ∧ context.currentCards = [] ∧ context.boardMembers = [] := by
  simp only [contextParts, List.append_eq_nil, currentBoardPart_eq_nil, currentViewPart_eq_nil,
    currentCardPart_eq_nil, boardCardsPart_eq_nil, boardMembersPart_eq_nil]
  constructor
  · rintro ⟨⟨⟨⟨⟨hb, hv⟩, hc⟩, hcs⟩, hm⟩, -⟩
    exact ⟨hb, hv, hc, hcs, hm⟩
  · rintro ⟨hb, hv, hc, hcs, hm⟩
    exact ⟨⟨⟨⟨⟨hb, hv⟩, hc⟩, hcs⟩, hm⟩, by simp [cardPropertiesPart, hb]⟩

/-- **The context is empty exactly when there is nothing to show**: no board, view or card, and
no card or member of the board. -/
theorem formatContextForAI_eq_nil_iff :
    formatContextForAI context = [] ↔ context.currentBoard = none ∧
      context.currentView = none ∧ context.currentCard = none ∧ context.currentCards = [] ∧
      context.boardMembers = [] :=
  (intercalate_eq_nil_of_headed (contextParts_headed context)).trans
    (contextParts_eq_nil_iff context)

end Sections

/-- **The assistant is told about the board only when there is something to tell.** The system
prompt of a chat request has its context section exactly when the store has a current board or
view, or a card or member of the current board. -/
theorem buildSystemPrompt_collectChatbotContext (state : RootState) :
    let context := collectChatbotContext state none
    buildSystemPrompt (formatContextForAI context) = buildSystemPrompt [] ↔
      context.currentBoard = none ∧ context.currentView = none ∧ context.currentCards = [] ∧
        context.boardMembers = [] := by
  intro context
  rw [buildSystemPrompt_eq_iff, formatContextForAI_eq_nil_iff]
  exact ⟨fun ⟨hb, hv, _, hcs, hm⟩ => ⟨hb, hv, hcs, hm⟩,
    fun ⟨hb, hv, hcs, hm⟩ => ⟨hb, hv, rfl, hcs, hm⟩⟩

end Focalboard.Ai

import Focalboard.Js.Object

/-!
# The notifications dialog

`NotificationSelector` (`notifSelect.tsx`) fetches the user's due tasks once, when it mounts,
and shows what it has: a loading text while the fetch runs, then the error text, the empty text,
or a summary with a section for each list of tasks that is not empty. Every failure (a rejected
fetch, an error status, a body that is not JSON) is caught and kept as its message, and a body
of `null` counts as no tasks. A body is taken to have the shape `NotificationResponse` declares,
or to be `null`: the dialog reads `overdue.length` of any other value it is given, which throws
while rendering for `{}` or `[]`, and such bodies are outside this model.

So the dialog shows one headline at a time: before the fetch settles the loading text, and after
it the error text, the summary or the empty text, as the fetch went
(`shownPanels_fetchNotifications`).
-/

namespace Focalboard.Notifications

open Focalboard.Js (truthyText)

/-- `TaskNotification`, by the fields the dialog reads; `dueDate` is only shown, in the locale's
date format. -/
structure TaskNotification where
  id : List Char
  title : List Char
  boardId : List Char
  boardTitle : List Char
  priority : List Char
  status : List Char
  timeToGo : List Char
  deriving DecidableEq, Repr

/-- `NotificationResponse`: the three lists, and the server's counts from `summary`. -/
structure NotificationResponse where
  overdue : List TaskNotification
  dueUrgent : List TaskNotification
  dueSoon : List TaskNotification
  totalPending : Nat
  dueToday : Nat
  dueThisWeek : Nat
  overdueCount : Nat
  deriving DecidableEq, Repr

structure SelectorState where
  notifications : Option NotificationResponse
  loading : Bool
  error : Option (List Char)
  deriving DecidableEq, Repr

def SelectorState.initial : SelectorState := ⟨none, true, none⟩

/-- What `fetch` and `response.json()` give: a rejection with its message, or a response with
its `ok` flag and the parsed body of the declared shape (`null` as none) or the parse error's
message. -/
inductive NotificationsOutcome where
  | rejected (message : List Char)
  | response (ok : Bool) (body : Except (List Char) (Option NotificationResponse))

/-- `fetchNotifications()` (lines 42-66), from the state it starts in to the one it leaves once
the fetch settles with `outcome`. -/
def fetchNotifications (s : SelectorState) (outcome : NotificationsOutcome) : SelectorState :=
  let s := { s with loading := true }
  let s := match outcome with
    | .rejected message => { s with error := some message }
    | .response false _ => { s with error := some "Failed to fetch notifications".toList }
    | .response true (.error message) => { s with error := some message }
    | .response true (.ok data) => { s with notifications := data }
  { s with loading := false }

/-- `getPriorityColor(priority)` (lines 77-82). -/
def getPriorityColor (priority : List Char) : List Char :=
  if "High".toList <:+: priority then "priority-high".toList
  else if "Medium".toList <:+: priority then "priority-medium".toList
  else if "Low".toList <:+: priority then "priority-low".toList
  else []

def cardLink (notification : TaskNotification) : List Char :=
  "/board/".toList ++ notification.boardId ++ "/".toList ++ notification.id

def hasNotifications : Option NotificationResponse → Bool
  | some n => !n.overdue.isEmpty || !n.dueUrgent.isEmpty || !n.dueSoon.isEmpty
  | none => false

/-- What the dialog's content shows (lines 149-229). -/
inductive Panel where
  | loadingText
  | errorText
  | emptyText
  | summary
  /-- A section by its category, `overdue`, `urgent` or `soon`, with its tasks. -/
  | tasks (category : List Char) (notifications : List TaskNotification)
  deriving DecidableEq, Repr

/-- The panels that say what state the dialog is in, every one but the task sections. -/
def Panel.isHeadline : Panel → Bool
  | .tasks _ _ => false
  | _ => true

def tasksPanel (category : List Char) (notifications : List TaskNotification) : List Panel :=
  if notifications.isEmpty then [] else [.tasks category notifications]

/-- The panels shown in `s`, in order. -/
def shownPanels (s : SelectorState) : List Panel :=
  let settled := !s.loading && !truthyText s.error
  (if s.loading then [.loadingText] else []) ++
    (if truthyText s.error then [.errorText] else []) ++
    (if settled && !hasNotifications s.notifications then [.emptyText] else []) ++
    match s.notifications with
    | some n =>
      if settled then
        (if hasNotifications (some n) then [.summary] else []) ++
          tasksPanel "overdue".toList n.overdue ++ tasksPanel "urgent".toList n.dueUrgent ++
          tasksPanel "soon".toList n.dueSoon
      else []
    | none => []

theorem tasksPanel_headlines (category : List Char) (notifications : List TaskNotification) :
    (tasksPanel category notifications).filter Panel.isHeadline = [] := by
  unfold tasksPanel
  split <;> rfl

theorem shownPanels_headlines {s : SelectorState} (h : s.loading = false) :
    (shownPanels s).filter Panel.isHeadline =
      [if truthyText s.error then .errorText
        else if hasNotifications s.notifications then .summary else .emptyText] := by
  unfold shownPanels
  cases hn : s.notifications with
  | none => cases he : truthyText s.error <;> simp_all [hasNotifications, Panel.isHeadline]
  | some n =>
    cases he : truthyText s.error <;> cases hh : hasNotifications (some n) <;>
      simp_all [tasksPanel_headlines, Panel.isHeadline]

/-- **One headline, as the fetch went.** Before the fetch settles the dialog shows only the
loading text; after it, exactly one of the error text (for an error status, and for a rejection
or an unreadable body with a message), the summary (for tasks) and the empty text. -/
theorem shownPanels_fetchNotifications (outcome : NotificationsOutcome) :
    shownPanels SelectorState.initial = [.loadingText] ∧
      (shownPanels (fetchNotifications SelectorState.initial outcome)).filter Panel.isHeadline =
        [match outcome with
          | .response true (.ok data) => if hasNotifications data then .summary else .emptyText
          | .response false _ => .errorText
          | .rejected message | .response true (.error message) =>
            if message = [] then .emptyText else .errorText] := by
  refine ⟨rfl, ?_⟩
  rw [shownPanels_headlines rfl]
  rcases outcome with message | ⟨_ | _, message | data⟩ <;>
    simp [fetchNotifications, truthyText, hasNotifications, SelectorState.initial]

end Focalboard.Notifications

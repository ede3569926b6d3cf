import Focalboard.Csv.Parse

/-!
# The import as the page runs it

`importTableCsv` builds a file input, sets its `onchange` handler and clicks it, all inside one
`try`. The browser runs the handler later, as a task of its own, so the `catch` only ever sees an
error thrown by building or clicking the input. The handler awaits the file's text, parses it
(`Parse`), and inserts one card per data line, one `insertBlock` call after the other inside
`performAsUndoGroup`; only when all of them have settled does it show "Import complete!".

`ImportEnv` is what the browser and the server decide during one import, and an import is the
list of `Effect`s the page shows or records. `importTableCsv_inserts_ok` gives the effects when
every call succeeds: the cards of the lines up to the first whose property assignments throw,
then the alert or that line's `TypeError`, unhandled. `importTableCsv_rejection` gives them when
the file cannot be read or an insert rejects: the rejection leaves the handler, nothing logs it
and no alert is shown.
-/

namespace Focalboard.Csv

open Focalboard.Js

/-- What the browser and the server decide during one import: whether `input.click()` throws,
the file picked (none when the dialog is dismissed) with the outcome of `file.text()`, and the
outcome of each `insertBlock` call, numbered from `0`. -/
structure ImportEnv where
  click : Except JsError Unit
  file : Option (Except JsError (List Char))
  insertBlock : Nat → Except JsError Unit

/-- What the page shows or records during an import. -/
inductive Effect where
  | warn (message : List Char)
  | startUndoGroup
  | endUndoGroup
  | insertBlock (boardId : List Char) (card : Card)
  | alert (message : List Char)
  | logError (message : List Char)
  /-- A rejected promise that no handler catches. -/
  | unhandledRejection (error : JsError)
  deriving DecidableEq, Repr

structure Run where
  effects : List Effect
  result : Except JsError Unit

/-- The loop of the undo group (lines 94-109), from the `insertBlock` call numbered `k` on: each
row becomes a card that is submitted; an assignment that throws, or an insert that rejects,
ends the loop and rejects the callback. -/
def insertRows (env : ImportEnv) (board : Board) : Nat → List JsObject → Run
  | _, [] => ⟨[], .ok ()⟩
  | k, row :: rows =>
    match rowCard board row with
    | .error e => ⟨[], .error e⟩
    | .ok newCard =>
      match env.insertBlock k with
      | .error e => ⟨[.insertBlock board.id newCard], .error e⟩
      | .ok () =>
        let rest := insertRows env board (k + 1) rows
        ⟨.insertBlock board.id newCard :: rest.effects, rest.result⟩

/-- Modelled from the spec: `mutator.performAsUndoGroup`, which is not under src/. It opens one
undo group, runs the actions, closes the group, and settles as the actions did, so that a
rejection reaches the caller. -/
def performAsUndoGroup (actions : Run) : Run :=
  ⟨.startUndoGroup :: actions.effects ++ [.endUndoGroup], actions.result⟩

def importComplete (intl : Intl) : List Char :=
  intl.formatMessage "ViewHeader.import-complete".toList "Import complete!".toList

def importFailed (intl : Intl) : List Char :=
  intl.formatMessage "ViewHeader.import-failed".toList "Import failed!".toList

/-- `input.onchange` (lines 64-117), run once the user has picked a file or dismissed the
dialog. -/
def onchange (env : ImportEnv) (board : Board) (intl : Intl) : Run :=
  match env.file with
  | none => ⟨[], .ok ()⟩
  | some (.error e) => ⟨[], .error e⟩
  | some (.ok text) =>
    match csvLines text with
    | [] => ⟨[.warn "CSV file is empty".toList], .ok ()⟩
    | header :: rest =>
      let data := rest.map (rowEntry (splitFields header))
      let group := performAsUndoGroup (insertRows env board 0 data)
      match group.result with
      | .error e => ⟨group.effects, .error e⟩
      | .ok () => ⟨group.effects ++ [.alert (importComplete intl)], .ok ()⟩

/-- `importTableCsv(board, intl)` (lines 58-128). The `catch` sees only what `input.click()`
throws; the handler's promise settles later, outside the `try`, and a rejection of it is
unhandled. -/
def importTableCsv (env : ImportEnv) (board : Board) (intl : Intl) : List Effect :=
  match env.click with
  | .error e => [.logError ("ImportCSV ERROR: ".toList ++ e.text), .alert (importFailed intl)]
  | .ok () =>
    let handler := onchange env board intl
    handler.effects ++
      match handler.result with
      | .ok () => []
      | .error e => [.unhandledRejection e]

theorem rowCard_error {board : Board} {row : JsObject} {e : JsError}
    (h : rowCard board row = .error e) : e = typeError := by
  unfold rowCard at h
  split at h
  · cases h
  · cases h
    exact fillProperties_error row ‹_›

/-- When the calls from `k` on all succeed, the card of every row up to the first that throws is
submitted, in order, and the loop rejects with the `TypeError` if a row throws. -/
theorem insertRows_ok (env : ImportEnv) (board : Board) :
    ∀ (k : Nat) (rows : List JsObject), (∀ i, k ≤ i → env.insertBlock i = .ok ()) →
      insertRows env board k rows =
        ⟨(builtCards board rows).map (.insertBlock board.id),
          if (builtCards board rows).length = rows.length then .ok () else .error typeError⟩
  | _, [], _ => rfl
  | k, row :: rows, h => by
    have hrest := insertRows_ok env board (k + 1) rows fun i hi => h i (by omega)
    cases hr : rowCard board row with
    | error e => simp [insertRows, builtCards, hr, rowCard_error hr]
    | ok card => simp [insertRows, builtCards, hr, h k le_rfl, hrest]

theorem insertRows_reject (env : ImportEnv) (board : Board) (e : JsError) :
    ∀ (k j : Nat) (rows : List JsObject), j < (builtCards board rows).length →
      (∀ i, k ≤ i → i < k + j → env.insertBlock i = .ok ()) → env.insertBlock (k + j) = .error e →
      insertRows env board k rows =
        ⟨((builtCards board rows).take (j + 1)).map (.insertBlock board.id), .error e⟩
  | _, _, [], hj, _, _ => absurd hj (Nat.not_lt_zero _)
  | k, j, row :: rows, hj, hok, he => by
    cases hr : rowCard board row with
    | error _ => simp [builtCards, hr] at hj
    | ok card =>
      cases j with
      | zero =>
        rw [Nat.add_zero] at he
        simp [insertRows, builtCards, hr, he]
      | succ j =>
        have hrest := insertRows_reject env board e (k + 1) j rows
          (by simpa [builtCards, hr] using hj) (fun i hi hi' => hok i (by omega) (by omega))
          (by rwa [Nat.add_right_comm, Nat.add_assoc])
        simp [insertRows, builtCards, hr, hok k le_rfl (by omega), hrest]

/-- **An import where every call succeeds**, for every board and every file with a line: one
undo group that submits, in file order, the cards of the data lines up to the first whose property
assignments throw, then "Import complete!" when no line throws and otherwise that line's
`TypeError`, unhandled. No line throws when no template id is `__proto__`. -/
theorem importTableCsv_inserts_ok (env : ImportEnv) (board : Board) (intl : Intl)
    {text : List Char} (hclick : env.click = .ok ()) (hfile : env.file = some (.ok text))
    (hlines : csvLines text ≠ []) (hinsert : ∀ i, env.insertBlock i = .ok ()) :
    importTableCsv env board intl =
      .startUndoGroup :: (importedCards board text).map (.insertBlock board.id) ++
        .endUndoGroup :: (if (importedCards board text).length = (csvLines text).length - 1
          then [.alert (importComplete intl)] else [.unhandledRejection typeError]) ∧
    ((∀ t ∈ board.cardProperties, t.id ≠ protoKey) →
      (importedCards board text).length = (csvLines text).length - 1) := by
  obtain ⟨header, rest, hsplit⟩ := List.exists_cons_of_ne_nil hlines
  refine ⟨?_, fun hproto => ?_⟩
  · rw [importTableCsv, hclick, onchange, hfile]
    simp only [hsplit, importedCards, performAsUndoGroup,
      insertRows_ok env board 0 _ fun i _ => hinsert i, List.length_map, List.length_cons,
      Nat.add_sub_cancel]
    by_cases hall : (builtCards board (rest.map (rowEntry (splitFields header)))).length =
      rest.length <;> simp [hall]
  · simp [importedCards, hsplit, builtCards_of_ne_protoKey board hproto]

/-- A board whose template `__proto__` takes the inherited `toString`, a function, as the
prototype of the card's properties, and whose template `name` then cannot be assigned. -/
def protoNameBoard : Board :=
  ⟨"b".toList, [⟨protoKey, "toString".toList, "text".toList⟩,
    ⟨"name".toList, "Status".toList, "text".toList⟩]⟩

def statusEnv : ImportEnv := ⟨.ok (), some (.ok "Name,Status\r\nTask,Done\r\n".toList), fun _ => .ok ()⟩

theorem importTableCsv_proto_name :
    importTableCsv statusEnv protoNameBoard defaultIntl =
      [.startUndoGroup, .endUndoGroup, .unhandledRejection typeError] := by
  rw [(importTableCsv_inserts_ok statusEnv protoNameBoard defaultIntl rfl rfl (by decide)
    fun _ => rfl).1]
  decide

theorem importTableCsv_complete (env : ImportEnv) (board : Board) (intl : Intl) {text : List Char}
    (hproto : ∀ t ∈ board.cardProperties, t.id ≠ protoKey)
    (hclick : env.click = .ok ()) (hfile : env.file = some (.ok text))
    (hlines : csvLines text ≠ []) (hinsert : ∀ i, env.insertBlock i = .ok ()) :
    importTableCsv env board intl =
      .startUndoGroup :: (importedCards board text).map (.insertBlock board.id) ++
        [.endUndoGroup, .alert (importComplete intl)] := by
  obtain ⟨header, rest, hsplit⟩ := List.exists_cons_of_ne_nil hlines
  have hbuilt := builtCards_of_ne_protoKey board hproto (rest.map (rowEntry (splitFields header)))
  simp [importTableCsv, onchange, importedCards, hclick, hfile, hsplit, performAsUndoGroup,
    insertRows_ok env board 0 _ fun i _ => hinsert i, hbuilt]

/-- **A failed read or insert is never reported.** When `file.text()` rejects, the import does
nothing at all but leave the rejection unhandled. When the insert numbered `k` is the first to
reject, the cards of the first `k + 1` data lines have been submitted inside the undo group, and
then the rejection is left unhandled: there is no `logError`, no "Import failed!" and no "Import
complete!" alert. -/
theorem importTableCsv_rejection (env : ImportEnv) (board : Board) (intl : Intl)
    (hclick : env.click = .ok ()) :
    (∀ e, env.file = some (.error e) → importTableCsv env board intl = [.unhandledRejection e]) ∧
    ∀ text k e, env.file = some (.ok text) → k < (importedCards board text).length →
      (∀ i < k, env.insertBlock i = .ok ()) → env.insertBlock k = .error e →
      importTableCsv env board intl =
        .startUndoGroup :: ((importedCards board text).take (k + 1)).map (.insertBlock board.id) ++
          [.endUndoGroup, .unhandledRejection e] := by
  refine ⟨fun e he => by simp [importTableCsv, onchange, hclick, he], fun text k e hfile hk hok he => ?_⟩
  unfold importedCards at hk ⊢
  split at hk
  · exact absurd hk (Nat.not_lt_zero _)
  · next header rest hsplit =>
    have hloop := insertRows_reject env board e 0 k (rest.map (rowEntry (splitFields header)))
      hk (fun i _ hi => hok i (by omega)) (by simpa using he)
    simp [importTableCsv, onchange, hclick, hfile, hsplit, performAsUndoGroup, hloop]

def offlineEnv : ImportEnv :=
  ⟨.ok (), some (.ok "Name\r\nTask\r\n".toList), fun _ => .error ⟨"Error: offline".toList⟩⟩

theorem importTableCsv_offline :
    importTableCsv offlineEnv ⟨"b".toList, []⟩ defaultIntl =
      .startUndoGroup :: ((importedCards ⟨"b".toList, []⟩ "Name\r\nTask\r\n".toList).take (0 + 1)).map
        (.insertBlock "b".toList) ++ [.endUndoGroup, .unhandledRejection ⟨"Error: offline".toList⟩] :=
  (importTableCsv_rejection offlineEnv ⟨"b".toList, []⟩ defaultIntl rfl).2 _ 0 _ rfl (by decide)
    (fun _ h => absurd h (Nat.not_lt_zero _)) rfl

end Focalboard.Csv

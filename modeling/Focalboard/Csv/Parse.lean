import Focalboard.Csv.Model
import Focalboard.Js.Text

/-!
# Reading a CSV file into cards

`importTableCsv` splits the text into lines and drops the blank ones, splits each line on every
comma and cleans each field by removing every `"` and trimming. The first line names the
columns; each later line becomes a plain object from header to field, and then a card: the
`Name` field is its title, and every template of the board whose name looks up a truthy value
in that object is assigned the value. Lookups and assignments go through `JsObject`, so a name
that `Object.prototype` defines finds an inherited member where the file has no column, and a
template whose id is `__proto__` can install that member as the prototype of the card's
properties, after which an assignment to `length`, `name`, `caller` or `arguments` throws.

`importedCards` are the cards an import submits when every insert succeeds: those of the data
lines before the first line whose assignments throw. Away from the names of `Object.prototype`
and from the id `__proto__` they are those of a dictionary import
(`importedCards_eq_referenceImport`).
-/

namespace Focalboard.Csv

open Focalboard.Js

/-- `text.split(/\r?\n/).filter(line => line.trim() !== '')` (`csvExporter.ts`, line 73). -/
def csvLines (text : List Char) : List (List Char) :=
  (splitLines text).filter fun line => trim line ≠ []

/-- `field.replace(/"/g, '').trim()`, for a header and for a value. -/
def cleanField (field : List Char) : List Char := trim (replaceChar '"' [] field)

/-- `line.split(',').map(clean)`. -/
def splitFields (line : List Char) : List (List Char) := (line.splitOn ',').map cleanField

/-- `headers.forEach((header, index) => { entry[header] = values[index] || '' })`, from the
header numbered `index` on. -/
def fillEntry (values : List (List Char)) : Nat → List (List Char) → JsObject → JsObject
  | _, [], entry => entry
  | index, header :: rest, entry =>
    fillEntry values (index + 1) rest (entry.set header (orText values[index]? []))

/-- The object a data line becomes (lines 84-91). -/
def rowEntry (headers : List (List Char)) (line : List Char) : JsObject :=
  fillEntry (splitFields line) 0 headers JsObject.empty

/-- The properties loop (lines 101-106), on the new card's properties and their prototype: each
template whose name finds a truthy value in the row is assigned that value, in board order, and
an assignment that throws ends the loop. -/
def fillProperties (row : JsObject) :
    List PropertyTemplate → JsObject × Option JsValue → Except JsError (JsObject × Option JsValue)
  | [], state => .ok state
  | prop :: rest, (properties, proto) =>
    let csvValue := row.get prop.name
    if csvValue.truthy then
      match properties.assign proto prop.id csvValue with
      | .ok state => fillProperties row rest state
      | .error e => .error e
    else fillProperties row rest (properties, proto)

/-- The new card of a row once its properties are filled. `row['Name']` is a string or
`undefined`, as `Name` is not a key of `Object.prototype`. -/
def newCard (board : Board) (row properties : JsObject) : Card :=
  { createCard with
    boardId := board.id
    parentId := board.id
    title := ((row.get "Name".toList).or (.str "Untitled".toList)).text
    properties := properties }

/-- The card built from one row (lines 95-106), by its properties' own keys, or the error an
assignment throws. The properties start as `createCard`'s, under `Object.prototype`. -/
def rowCard (board : Board) (row : JsObject) : Except JsError Card :=
  match fillProperties row board.cardProperties (createCard.properties, none) with
  | .ok (properties, _) => .ok (newCard board row properties)
  | .error e => .error e

/-- The cards of the rows, in order, up to the first row whose card throws. -/
def builtCards (board : Board) : List JsObject → List Card
  | [] => []
  | row :: rows =>
    match rowCard board row with
    | .ok card => card :: builtCards board rows
    | .error _ => []

/-- The cards an import submits when every insert succeeds, in file order; none when no line is
left. -/
def importedCards (board : Board) (text : List Char) : List Card :=
  match csvLines text with
  | [] => []
  | header :: rest => builtCards board (rest.map (rowEntry (splitFields header)))

theorem name_not_inherited : "Name".toList ∉ objectPrototypeKeys := by decide

/-- The field under the last header equal to `key`: `''` when the line stops before it, none
when no header equals `key`. -/
def lastFieldUnder (key : List Char) : List (List Char) → List (List Char) → Option (List Char)
  | [], _ => none
  | header :: headers, values =>
    match lastFieldUnder key headers values.tail with
    | some field => some field
    | none => if header = key then some (values.headD []) else none

/-- A key other than `__proto__` finds the field under the last header equal to it, and
otherwise what the object had before. -/
theorem get_fillEntry (values : List (List Char)) {k : List Char} (hk : k ≠ protoKey) :
    ∀ (headers : List (List Char)) (index : Nat) (entry : JsObject),
      (fillEntry values index headers entry).get k =
        match lastFieldUnder k headers (values.drop index) with
        | some field => .str field
        | none => entry.get k
  | [], _, _ => rfl
  | header :: rest, index, entry => by
    rw [fillEntry, get_fillEntry values hk rest (index + 1), lastFieldUnder, List.tail_drop]
    cases lastFieldUnder k rest (values.drop (index + 1)) with
    | some field => rfl
    | none =>
      by_cases h : header = k
      · subst h
        simp [JsObject.get_set_self _ hk, orText_nil]
      · simp [h, JsObject.get_set_ne _ (Ne.symm h)]

theorem mem_of_lastFieldUnder {k field : List Char} :
    ∀ {headers values : List (List Char)}, lastFieldUnder k headers values = some field →
      k ∈ headers
  | [], _, h => by simp [lastFieldUnder] at h
  | header :: rest, values, h => by
    unfold lastFieldUnder at h
    split at h
    · next _ hl => exact List.mem_cons_of_mem _ (mem_of_lastFieldUnder hl)
    · rw [List.mem_cons]
      by_contra hk
      rw [if_neg fun e => hk (.inl e.symm)] at h
      cases h

theorem lastFieldUnder_of_nodup {k : List Char} :
    ∀ {headers : List (List Char)} (values : List (List Char)) {j : Nat}, headers.Nodup →
      headers[j]? = some k → lastFieldUnder k headers values = some ((values[j]?).getD [])
  | [], _, _, _, h => by simp at h
  | header :: rest, values, 0, hn, h => by
    obtain rfl : header = k := by simpa using h
    have hnone : ∀ vs, lastFieldUnder header rest vs = none := fun vs => by
      cases hl : lastFieldUnder header rest vs with
      | none => rfl
      | some _ => exact absurd (mem_of_lastFieldUnder hl) (List.nodup_cons.mp hn).1
    cases values <;> simp [lastFieldUnder, hnone]
  | header :: rest, values, j + 1, hn, h => by
    rw [lastFieldUnder, lastFieldUnder_of_nodup values.tail (List.nodup_cons.mp hn).2
      (by simpa using h)]
    cases values <;> simp

/-- Under headers that do not repeat, the header at position `j` finds the field at `j`. -/
theorem get_rowEntry_of_nodup {headers : List (List Char)} (hn : headers.Nodup) (line : List Char)
    {j : Nat} {k : List Char} (hk : k ≠ protoKey) (hj : headers[j]? = some k) :
    (rowEntry headers line).get k = .str (((splitFields line)[j]?).getD []) := by
  rw [rowEntry, get_fillEntry _ hk, List.drop_zero, lastFieldUnder_of_nodup _ hn hj]

theorem fillProperties_error (row : JsObject) {e : JsError} :
    ∀ {templates : List PropertyTemplate} {state : JsObject × Option JsValue},
      fillProperties row templates state = .error e → e = typeError
  | [], _, h => by cases h
  | prop :: rest, (properties, proto), h => by
    unfold fillProperties at h
    dsimp only at h
    split at h
    · split at h
      · exact fillProperties_error row h
      · next he =>
        cases h
        exact JsObject.assign_error he
    · exact fillProperties_error row h

/-- One assignment of the loop as a dictionary makes it. -/
def assignTruthy (row properties : JsObject) (prop : PropertyTemplate) : JsObject :=
  let csvValue := row.get prop.name
  if csvValue.truthy then ⟨JsObject.upsert prop.id csvValue properties.own⟩ else properties

/-- Under `Object.prototype` and with no template id `__proto__`, no assignment throws or
installs a prototype: the loop is a dictionary's. -/
theorem fillProperties_of_ne_protoKey (row : JsObject) :
    ∀ {templates : List PropertyTemplate} (properties : JsObject),
      (∀ t ∈ templates, t.id ≠ protoKey) →
      fillProperties row templates (properties, none) =
        .ok (templates.foldl (assignTruthy row) properties, none)
  | [], _, _ => rfl
  | t :: ts, properties, h => by
    have hrest : ∀ p, fillProperties row ts (p, none) = .ok (ts.foldl (assignTruthy row) p, none) :=
      fun p => fillProperties_of_ne_protoKey row p fun u hu => h u (List.mem_cons_of_mem t hu)
    rw [List.foldl_cons, ← hrest, assignTruthy]
    by_cases hv : (row.get t.name).truthy
    · simp only [fillProperties, hv, if_true,
        JsObject.assign_none_of_ne _ (h t (List.mem_cons_self t ts))]
    · simp only [fillProperties, hv, Bool.false_eq_true, if_false]

theorem get_foldl_assignTruthy_of_not_mem (row : JsObject) {k : List Char} :
    ∀ {templates : List PropertyTemplate} (properties : JsObject), k ∉ templates.map (·.id) →
      (templates.foldl (assignTruthy row) properties).get k = properties.get k
  | [], _, _ => rfl
  | t :: ts, properties, h => by
    simp only [List.map_cons, List.mem_cons, not_or] at h
    rw [List.foldl_cons, get_foldl_assignTruthy_of_not_mem row _ h.2, assignTruthy]
    split
    · exact JsObject.get_upsert_ne _ h.1 _
    · rfl

theorem get_foldl_assignTruthy (row : JsObject) {t : PropertyTemplate}
    (hv : (row.get t.name).truthy) :
    ∀ {templates : List PropertyTemplate} (properties : JsObject), (templates.map (·.id)).Nodup →
      t ∈ templates → (templates.foldl (assignTruthy row) properties).get t.id = row.get t.name
  | [], _, _, h => absurd h (List.not_mem_nil t)
  | u :: us, properties, hn, h => by
    rw [List.map_cons, List.nodup_cons] at hn
    rw [List.foldl_cons]
    rcases List.mem_cons.mp h with rfl | h
    · rw [get_foldl_assignTruthy_of_not_mem row _ hn.1, assignTruthy, if_pos hv,
        JsObject.get_upsert_self]
    · exact get_foldl_assignTruthy row hv _ hn.2 h

/-- With distinct ids none owned yet, the templates with a truthy value are added as own keys
in board order. -/
theorem foldl_assignTruthy_own (row : JsObject) :
    ∀ {templates : List PropertyTemplate} (own : List (List Char × JsValue)),
      (templates.map (·.id)).Nodup → (∀ t ∈ templates, t.id ∉ own.map Prod.fst) →
      templates.foldl (assignTruthy row) ⟨own⟩ = ⟨own ++ templates.filterMap fun t =>
        if (row.get t.name).truthy then some (t.id, row.get t.name) else none⟩
  | [], own, _, _ => by simp
  | t :: ts, own, hn, h => by
    rw [List.map_cons, List.nodup_cons] at hn
    have ht := h t (List.mem_cons_self _ _)
    rw [List.foldl_cons, assignTruthy]
    by_cases hv : (row.get t.name).truthy
    · rw [if_pos hv, JsObject.upsert_of_not_mem _ ht, foldl_assignTruthy_own row _ hn.2 fun u hu => ?_]
      · simp [hv]
      · simp only [List.map_append, List.map_cons, List.map_nil, List.mem_append, List.mem_singleton,
          not_or]
        exact ⟨h u (List.mem_cons_of_mem _ hu), fun e => hn.1 (e ▸ List.mem_map_of_mem _ hu)⟩
    · rw [if_neg hv, foldl_assignTruthy_own row _ hn.2 fun u hu => h u (List.mem_cons_of_mem _ hu)]
      simp [hv]

section Board

variable (board : Board) (hproto : ∀ t ∈ board.cardProperties, t.id ≠ protoKey)
include hproto

/-- With no template id `__proto__`, every row makes its card. -/
theorem rowCard_of_ne_protoKey (row : JsObject) :
    rowCard board row =
      .ok (newCard board row (board.cardProperties.foldl (assignTruthy row) JsObject.empty)) := by
  rw [rowCard, fillProperties_of_ne_protoKey row _ hproto]
  rfl

theorem builtCards_of_ne_protoKey :
    ∀ rows : List JsObject, builtCards board rows =
      rows.map fun row => newCard board row (board.cardProperties.foldl (assignTruthy row) .empty)
  | [] => rfl
  | row :: rows => by
    rw [builtCards, rowCard_of_ne_protoKey board hproto, builtCards_of_ne_protoKey rows]
    rfl

end Board

/-- The card of the reference import for one line. -/
def referenceCard (board : Board) (headers values : List (List Char)) : Card :=
  { createCard with
    boardId := board.id
    parentId := board.id
    title := match lastFieldUnder "Name".toList headers values with
      | some field => if field = [] then "Untitled".toList else field
      | none => "Untitled".toList
    properties := ⟨board.cardProperties.filterMap fun p =>
      match lastFieldUnder p.name headers values with
      | some field => if field = [] then none else some (p.id, .str field)
      | none => none⟩ }

/-- The reference import: the same lines and fields, one `referenceCard` per data line, a key
finding the field under the last header equal to it and nothing else. -/
def referenceImport (board : Board) (text : List Char) : List Card :=
  match csvLines text with
  | [] => []
  | header :: rest => rest.map fun line => referenceCard board (splitFields header) (splitFields line)

theorem get_rowEntry_of_not_inherited (headers : List (List Char)) (line : List Char)
    {k : List Char} (hk : k ∉ objectPrototypeKeys) :
    (rowEntry headers line).get k =
      match lastFieldUnder k headers (splitFields line) with
      | some field => .str field
      | none => .undefined := by
  have hp : k ≠ protoKey := fun e => hk (e ▸ protoKey_mem)
  rw [rowEntry, get_fillEntry _ hp, List.drop_zero, JsObject.get_empty,
    JsObject.inheritedValue_of_not_mem hk]

theorem rowCard_eq_referenceCard (board : Board) (headers : List (List Char)) (line : List Char)
    (hids : (board.cardProperties.map (·.id)).Nodup)
    (hkeys : ∀ t ∈ board.cardProperties, t.name ∉ objectPrototypeKeys ∧ t.id ≠ protoKey) :
    newCard board (rowEntry headers line)
        (board.cardProperties.foldl (assignTruthy (rowEntry headers line)) JsObject.empty) =
      referenceCard board headers (splitFields line) := by
  have hprops := foldl_assignTruthy_own (rowEntry headers line) [] hids fun t _ =>
    List.not_mem_nil _
  simp only [newCard, referenceCard, createCard, JsObject.empty, hprops, List.nil_append,
    get_rowEntry_of_not_inherited _ _ name_not_inherited, Card.mk.injEq, true_and]
  constructor
  · cases lastFieldUnder "Name".toList headers (splitFields line) with
    | none => rfl
    | some field => cases field <;> simp
  · congr 1
    refine List.filterMap_congr fun t ht => ?_
    rw [get_rowEntry_of_not_inherited _ _ (hkeys t ht).1]
    cases lastFieldUnder t.name headers (splitFields line) with
    | none => rfl
    | some field => cases field <;> simp

/-- **Away from the names of `Object.prototype`, the importer is a dictionary import.** For every
file, the cards are those of `referenceImport` when the board's template ids are distinct, no
template name is a key of `Object.prototype`, and no template id is `__proto__`. -/
theorem importedCards_eq_referenceImport (board : Board) (text : List Char)
    (hids : (board.cardProperties.map (·.id)).Nodup)
    (hkeys : ∀ t ∈ board.cardProperties, t.name ∉ objectPrototypeKeys ∧ t.id ≠ protoKey) :
    importedCards board text = referenceImport board text := by
  unfold importedCards referenceImport
  split
  · rfl
  · rw [builtCards_of_ne_protoKey board fun t ht => (hkeys t ht).2, List.map_map]
    exact List.map_congr_left fun line _ => rowCard_eq_referenceCard board _ line hids hkeys

def statusBoard : Board := ⟨"b".toList, [⟨"s".toList, "Status".toList, "text".toList⟩]⟩

theorem importedCards_eq_referenceImport_status :
    importedCards statusBoard "Name,Status\r\nTask,Done\r\n".toList =
      referenceImport statusBoard "Name,Status\r\nTask,Done\r\n".toList :=
  importedCards_eq_referenceImport _ _ (by decide) (by decide)

/-- A board with one template, named like a member of `Object.prototype`. -/
def constructorBoard : Board :=
  ⟨"board".toList, [⟨"p1".toList, "constructor".toList, "text".toList⟩]⟩

/-- A file with no `constructor` column gives the card the function `Object.prototype`
defines as the value of the template named `constructor`, where a dictionary gives it
nothing. -/
theorem importedCards_constructor :
    importedCards constructorBoard "Name\r\nTask\r\n".toList =
      [{ createCard with
          boardId := "board".toList, parentId := "board".toList, title := "Task".toList
          properties := ⟨[("p1".toList, .inherited "constructor".toList)]⟩ }] ∧
    referenceImport constructorBoard "Name\r\nTask\r\n".toList =
      [{ createCard with
          boardId := "board".toList, parentId := "board".toList, title := "Task".toList }] := by
  decide

end Focalboard.Csv

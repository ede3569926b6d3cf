import Focalboard.Csv.Columns
import Focalboard.Js.Text

/-!
# The table `generateTableArray` builds

One header row, then one row per card in the order the caller gives the cards. A card's row
starts with its title between double quotes, escaped by `encodeText`, and has one cell per
column, each the column's property type's `exportValue` of the card's stored value, except that
the `createdBy` and `updatedBy` types are handed the card's own `createdBy` and `modifiedBy`
whatever the card stores. `generateTableArray_spec` says all of this for every registry, board,
view and card list.
-/

namespace Focalboard.Csv

open Focalboard.Js

/-- `hashSignToken`, the placeholder a title's `#` becomes until the data URI is assembled. -/
def hashSignToken : List Char := "___hash_sign___".toList

/-- `encodeText`: double every `"`, then write every `#` as the placeholder. -/
def encodeText (text : List Char) : List Char :=
  replaceChar '#' hashSignToken (replaceChar '"' ['"', '"'] text)

/-- The value `generateTableArray` hands to `exportValue` (`csvExporter.ts`, lines 165-172). -/
def exportedValue (property : PropertyType) (card : Card) (template : PropertyTemplate) :
    JsValue :=
  let propertyValue := card.properties.get template.id
  let propertyValue := if property.type = "createdBy".toList then .str card.createdBy
    else propertyValue
  if property.type = "updatedBy".toList then .str card.modifiedBy else propertyValue

/-- The cell of one column of a card's row (line 173). -/
def exportCell (registry : PropsRegistry) (intl : Intl) (card : Card)
    (template : PropertyTemplate) : List Char :=
  let property := registry template.type
  property.exportValue (exportedValue property card template) card template intl

def titleCell (title : List Char) : List Char := '"' :: encodeText title ++ ['"']

def nameHeader (intl : Intl) : List Char :=
  intl.formatMessage "TableComponent.name".toList "Name".toList

/-- The header row (lines 152-159). -/
def headerRow (intl : Intl) (columns : List PropertyTemplate) : List (List Char) :=
  nameHeader intl :: columns.map (·.name)

/-- A card's row (lines 161-175). -/
def cardRow (registry : PropsRegistry) (intl : Intl) (columns : List PropertyTemplate)
    (card : Card) : List (List Char) :=
  titleCell card.title :: columns.map (exportCell registry intl card)

/-- `generateTableArray(board, cards, viewToExport, intl)`. -/
def generateTableArray (registry : PropsRegistry) (board : Board) (cards : List Card)
    (viewToExport : BoardView) (intl : Intl) : List (List (List Char)) :=
  let visibleProperties := selectColumns board viewToExport
  headerRow intl visibleProperties :: cards.map (cardRow registry intl visibleProperties)

theorem exportedValue_eq (property : PropertyType) (card : Card) (template : PropertyTemplate) :
    exportedValue property card template =
      if property.type = "createdBy".toList then .str card.createdBy
      else if property.type = "updatedBy".toList then .str card.modifiedBy
      else card.properties.get template.id := by
  unfold exportedValue
  split_ifs with h1 h2 <;> first | rfl | (rw [h1] at h2; exact absurd h2 (by decide))

/-- The table, for every property registry, board, view and card list: its shape, its header,
the order of its card rows, their title cells, and the value each cell is formatted from. -/
theorem generateTableArray_spec (registry : PropsRegistry) (board : Board) (cards : List Card)
    (view : BoardView) (intl : Intl) :
    let rows := generateTableArray registry board cards view intl
    let columns := selectColumns board view
    rows.length = cards.length + 1 ∧
    rows[0]? = some (intl.formatMessage "TableComponent.name".toList "Name".toList ::
      columns.map (·.name)) ∧
    (∀ row ∈ rows, row.length = 1 + columns.length) ∧
    ∀ i (hi : i < cards.length), ∃ cells,
      rows[i + 1]? = some (('"' :: encodeText cards[i].title ++ ['"']) :: cells) ∧
      cells.length = columns.length ∧
      ∀ j (hj : j < columns.length), cells[j]? = some ((registry columns[j].type).exportValue
        (if (registry columns[j].type).type = "createdBy".toList then .str cards[i].createdBy
          else if (registry columns[j].type).type = "updatedBy".toList then
            .str cards[i].modifiedBy
          else cards[i].properties.get columns[j].id) cards[i] columns[j] intl) := by
  intro rows columns
  refine ⟨by simp [rows, generateTableArray], by simp [rows, generateTableArray, headerRow, nameHeader], ?_, fun i hi =>
    ⟨columns.map (exportCell registry intl cards[i]), ?_, List.length_map _ _, ?_⟩⟩
  · intro row hrow
    simp only [rows, generateTableArray, List.mem_cons, List.mem_map] at hrow
    rcases hrow with rfl | ⟨card, -, rfl⟩ <;> simp [headerRow, cardRow, Nat.add_comm]
  · simp only [rows, generateTableArray, List.getElem?_cons_succ, List.getElem?_map,
      List.getElem?_eq_getElem hi, Option.map_some', cardRow, titleCell, List.cons_append]
  · intro j hj
    rw [List.getElem?_map, List.getElem?_eq_getElem hj, Option.map_some', exportCell,
      exportedValue_eq]

end Focalboard.Csv

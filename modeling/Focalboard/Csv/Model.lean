import Focalboard.Js.Object

/-!
# The records the CSV code reads and writes

A board owns an ordered list of property templates; a view selects some of them by id; a card
holds its property values in a plain object keyed by template id. Only the fields the exporter
and the importer touch are kept; the fields under `fields` in the source (`visiblePropertyIds`,
`viewType`, `dateDisplayPropertyId`, `properties`) sit directly in the records here. The
property registry, the message formatter and `createCard` live outside `csvExporter.ts` and
enter as parameters or, for `createCard`, as a definition modelled from the spec.
-/

namespace Focalboard.Csv

open Focalboard.Js

/-- `IPropertyTemplate`. -/
structure PropertyTemplate where
  id : List Char
  name : List Char
  type : List Char
  deriving DecidableEq, Repr

/-- `Board`: its id and its templates, in board order. -/
structure Board where
  id : List Char
  cardProperties : List PropertyTemplate
  deriving DecidableEq, Repr

structure BoardView where
  title : List Char
  viewType : List Char
  visiblePropertyIds : List (List Char)
  dateDisplayPropertyId : Option (List Char)
  deriving DecidableEq, Repr

structure Card where
  title : List Char
  boardId : List Char
  parentId : List Char
  createdBy : List Char
  modifiedBy : List Char
  properties : JsObject
  deriving DecidableEq, Repr

/-- `intl.formatMessage({id, defaultMessage})`. -/
structure Intl where
  formatMessage : List Char → List Char → List Char

/-- A formatter that gives every message its default text. -/
def defaultIntl : Intl := ⟨fun _ defaultMessage => defaultMessage⟩

/-- An entry of `propsRegistry`: its type name and its `exportValue`. -/
structure PropertyType where
  type : List Char
  exportValue : JsValue → Card → PropertyTemplate → Intl → List Char

abbrev PropsRegistry := List Char → PropertyType

/-- Modelled from the spec: `createCard` of `blocks/card`, which is not under src/. The spec
has the importer construct a new record that the importer then binds to the board and fills;
it starts with no title and no property values. -/
def createCard : Card where
  title := []
  boardId := []
  parentId := []
  createdBy := []
  modifiedBy := []
  properties := JsObject.empty

end Focalboard.Csv

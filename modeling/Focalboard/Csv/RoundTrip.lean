import Focalboard.Csv.Export
import Focalboard.Csv.Import

/-!
# Exporting a board and importing the file back

Export a board's cards with `exportTableCsv`, let the browser save the link (`savedText`), and
then import the file into the same board with `importTableCsv`: every card comes back, in
order, with its title and the exported value of each of its columns. This holds while the text
stays within what the importer reads back (no comma, quote or line feed in a cell, no
surrounding whitespace, no `#` in a header or a property cell), while the placeholder the export
restores is the titles' `#` (`restored = text` in `Export`), and while no column is named
`__proto__` and no template has the id `__proto__`, which the plain objects treat apart.
-/

namespace Focalboard.Csv

open Focalboard.Js

/-- A cell the importer reads back as it is: no comma, quote, `#` or line feed, and no
surrounding whitespace. -/
structure PlainCell (s : List Char) : Prop where
  noComma : ',' ∉ s
  noQuote : '"' ∉ s
  noHash : '#' ∉ s
  noLineFeed : '\n' ∉ s
  trimmed : trim s = s

instance (s : List Char) : Decidable (PlainCell s) :=
  decidable_of_iff (',' ∉ s ∧ '"' ∉ s ∧ '#' ∉ s ∧ '\n' ∉ s ∧ trim s = s)
    ⟨fun ⟨a, b, c, d, e⟩ => ⟨a, b, c, d, e⟩, fun ⟨a, b, c, d, e⟩ => ⟨a, b, c, d, e⟩⟩

/-- A title the importer reads back as it is: not empty, no comma, quote or line feed, and no
surrounding whitespace. It may hold a `#`. -/
structure PlainTitle (s : List Char) : Prop where
  nonEmpty : s ≠ []
  noComma : ',' ∉ s
  noQuote : '"' ∉ s
  noLineFeed : '\n' ∉ s
  trimmed : trim s = s

instance (s : List Char) : Decidable (PlainTitle s) :=
  decidable_of_iff (s ≠ [] ∧ ',' ∉ s ∧ '"' ∉ s ∧ '\n' ∉ s ∧ trim s = s)
    ⟨fun ⟨a, b, c, d, e⟩ => ⟨a, b, c, d, e⟩, fun ⟨a, b, c, d, e⟩ => ⟨a, b, c, d, e⟩⟩

/-- An imported card agrees with the exported one: the same title, and every exported column
whose cell is not empty holds that cell. -/
def ImportedAs (registry : PropsRegistry) (intl : Intl) (columns : List PropertyTemplate)
    (imported card : Card) : Prop :=
  imported.title = card.title ∧ ∀ t ∈ columns, exportCell registry intl card t ≠ [] →
    imported.properties.get t.id = .str (exportCell registry intl card t)

/-- The lines of CSV text whose rows are neither blank nor broken by a line feed are its rows. -/
theorem csvLines_csvText (rows : List (List (List Char)))
    (h : ∀ row ∈ rows, '\n' ∉ [','].intercalate row ∧ trim ([','].intercalate row) ≠ []) :
    csvLines (csvText rows) = rows.map ([','].intercalate ·) := by
  have hflat : csvText rows = (rows.map ([','].intercalate ·)).flatMap (· ++ ['\r', '\n']) := by
    rw [List.flatMap_map]
    rfl
  rw [csvLines, hflat, splitLines_flatMap_crlf _ (by simpa using fun row hr => (h row hr).1),
    List.filter_append, List.filter_eq_self.mpr (by simpa using fun row hr => (h row hr).2)]
  simp [trim]

theorem splitFields_intercalate {fields : List (List Char)} (hne : fields ≠ [])
    (h : ∀ f ∈ fields, ',' ∉ f) : splitFields ([','].intercalate fields) = fields.map cleanField := by
  rw [splitFields, List.splitOn_intercalate _ _ h hne]

theorem cleanField_of_plain {s : List Char} (hq : '"' ∉ s) (ht : trim s = s) : cleanField s = s := by
  rw [cleanField, replaceChar_of_not_mem _ hq, ht]

theorem quotedTitle_of_not_mem {t : List Char} (hq : '"' ∉ t) : quotedTitle t = '"' :: t ++ ['"'] := by
  rw [quotedTitle, replaceChar_of_not_mem _ hq]

theorem cleanField_quotedTitle {t : List Char} (hq : '"' ∉ t) (ht : trim t = t) :
    cleanField (quotedTitle t) = t := by
  simp [cleanField, quotedTitle_of_not_mem hq, replaceChar_of_not_mem _ hq, ht]

theorem not_mem_intercalate {d : Char} (hd : d ≠ ',') {row : List (List Char)}
    (h : ∀ x ∈ row, d ∉ x) : d ∉ [','].intercalate row := fun hm =>
  let ⟨x, hx, hdx⟩ := mem_of_mem_intercalate hd hm
  h x hx hdx

theorem trim_intercalate_ne_nil {c : Char} {x : List Char} (hx : x.head? = some c)
    (hc : isJsWhitespace c = false) (xs : List (List Char)) :
    trim ([','].intercalate (x :: xs)) ≠ [] := by
  obtain ⟨x', rfl⟩ := List.head?_eq_some_iff.mp hx
  rw [intercalate_cons, List.cons_append]
  exact trim_cons_ne_nil hc _

section Lines

variable (registry : PropsRegistry) (intl : Intl) {columns : List PropertyTemplate}

/-- The header line of plain column names reads back as `Name` and the names. -/
theorem splitFields_headerLine (hcolumns : ∀ t ∈ columns, PlainCell t.name) :
    splitFields ([','].intercalate ("Name".toList :: columns.map (·.name))) =
      "Name".toList :: columns.map (·.name) := by
  rw [splitFields_intercalate (List.cons_ne_nil _ _) (List.forall_mem_cons.2
      ⟨by decide, List.forall_mem_map.2 fun t ht => (hcolumns t ht).noComma⟩),
    List.map_cons, List.map_map, show cleanField "Name".toList = "Name".toList by decide]
  exact congrArg _ (List.map_congr_left fun t ht =>
    cleanField_of_plain (hcolumns t ht).noQuote (hcolumns t ht).trimmed)

/-- A card's line of a plain title and plain cells reads back as the title and the cells. -/
theorem splitFields_cardLine {c : Card} (htitle : PlainTitle c.title)
    (hcells : ∀ t ∈ columns, PlainCell (exportCell registry intl c t)) :
    splitFields ([','].intercalate (quotedTitle c.title :: columns.map (exportCell registry intl c))) =
      c.title :: columns.map (exportCell registry intl c) := by
  have hquote : ',' ∉ quotedTitle c.title := by
    simpa [quotedTitle_of_not_mem htitle.noQuote] using htitle.noComma
  rw [splitFields_intercalate (List.cons_ne_nil _ _) (List.forall_mem_cons.2
      ⟨hquote, List.forall_mem_map.2 fun t ht => (hcells t ht).noComma⟩),
    List.map_cons, List.map_map, cleanField_quotedTitle htitle.noQuote htitle.trimmed]
  exact congrArg _ (List.map_congr_left fun t ht =>
    cleanField_of_plain (hcells t ht).noQuote (hcells t ht).trimmed)

end Lines

/-- The lines of an export text with a `Name` header, plain names and cells and plain titles:
the header line, then one line per card. -/
theorem csvLines_tableWith (registry : PropsRegistry) (board : Board) (cards : List Card)
    (view : BoardView) (intl : Intl) (hnameHeader : nameHeader intl = "Name".toList)
    (hcolumns : ∀ t ∈ selectColumns board view, PlainCell t.name)
    (htitles : ∀ c ∈ cards, PlainTitle c.title)
    (hcells : ∀ c ∈ cards, ∀ t ∈ selectColumns board view, PlainCell (exportCell registry intl c t)) :
    csvLines (csvText (tableWith quotedTitle registry board cards view intl)) =
      [','].intercalate ("Name".toList :: (selectColumns board view).map (·.name)) ::
        cards.map fun c => [','].intercalate
          (quotedTitle c.title :: (selectColumns board view).map (exportCell registry intl c)) := by
  rw [tableWith, headerRow, hnameHeader, csvLines_csvText, List.map_cons, List.map_map]
  · rfl
  simp only [List.mem_cons, List.mem_map]
  rintro row (rfl | ⟨c, hc, rfl⟩)
  · exact ⟨not_mem_intercalate (by decide) (List.forall_mem_cons.2 ⟨by decide,
      List.forall_mem_map.2 fun t ht => (hcolumns t ht).noLineFeed⟩),
      @trim_intercalate_ne_nil 'N' _ (by decide) (by decide) _⟩
  · have hquote := quotedTitle_of_not_mem (htitles c hc).noQuote
    refine ⟨not_mem_intercalate (by decide) (List.forall_mem_cons.2 ⟨?_,
      List.forall_mem_map.2 fun t ht => (hcells c hc t ht).noLineFeed⟩),
      @trim_intercalate_ne_nil '"' _ (by rw [hquote]; rfl) (by decide) _⟩
    simpa [hquote] using (htitles c hc).noLineFeed

/-- With no `#` in a header or a cell, and the titles' `#` the one the export restores, the
browser saves the export text. -/
theorem savedText_exportTableCsv (sanitizeFilename : List Char → List Char)
    (openInNewBrowser : Bool) (registry : PropsRegistry) (board : Board) (activeView : BoardView)
    (cards : List Card) (intl : Intl) (view : Option BoardView)
    (hnameHeader : nameHeader intl = "Name".toList)
    (hcolumns : ∀ t ∈ selectColumns board (view.getD activeView), '#' ∉ t.name)
    (hcells : ∀ c ∈ cards, ∀ t ∈ selectColumns board (view.getD activeView),
      '#' ∉ exportCell registry intl c t)
    (hfirst : replaceFirst hashSignToken ['#']
        (csvText (generateTableArray registry board cards (view.getD activeView) intl)) =
      csvText (tableWith quotedTitle registry board cards (view.getD activeView) intl)) :
    savedText (exportTableCsv sanitizeFilename openInNewBrowser registry board activeView cards
      intl view) = csvText (tableWith quotedTitle registry board cards (view.getD activeView) intl) := by
  obtain ⟨hdecode, -, hhash⟩ :=
    payload_spec (csvText (generateTableArray registry board cards (view.getD activeView) intl))
  rw [hfirst] at hdecode
  refine savedText_eq (exportTableCsv_href ..) (fun hm => ?_) hdecode ?_
  · rcases (hhash.trans (hash_mem_generateTableArray ..)).mp hm with ⟨x, hx, hm⟩ | ⟨c, hc, t, ht, hm⟩
    · rw [headerRow, hnameHeader] at hx
      rcases List.mem_cons.mp hx with rfl | hx
      · exact absurd hm (by decide)
      · obtain ⟨t, ht, rfl⟩ := List.mem_map.mp hx
        exact hcolumns t ht hm
    · exact hcells c hc t ht hm
  · rw [tableWith, csvText, List.flatMap_cons, csvLine, headerRow, hnameHeader, intercalate_cons]
    simp

/-- The card made from a line whose fields read as the title and then one cell per column,
under the header line `Name` and the column names. -/
theorem newCard_of_fields (board : Board) (columns : List PropertyTemplate)
    (hids : (board.cardProperties.map (·.id)).Nodup)
    (hsub : ∀ t ∈ columns, t ∈ board.cardProperties)
    (hheaders : ("Name".toList :: columns.map (·.name)).Nodup)
    (hnames : ∀ t ∈ columns, t.name ≠ protoKey)
    (cell : PropertyTemplate → List Char) {title line : List Char} (htitle : title ≠ [])
    (hline : splitFields line = title :: columns.map cell) :
    let row := rowEntry ("Name".toList :: columns.map (·.name)) line
    let imported := newCard board row (board.cardProperties.foldl (assignTruthy row) .empty)
    imported.title = title ∧
      ∀ t ∈ columns, cell t ≠ [] → imported.properties.get t.id = .str (cell t) := by
  intro row imported
  have hname : row.get "Name".toList = .str title := by
    rw [get_rowEntry_of_nodup hheaders line (by decide) List.getElem?_cons_zero, hline]
    simp
  refine ⟨?_, fun t ht hcell => ?_⟩
  · show ((row.get "Name".toList).or (.str "Untitled".toList)).text = title
    rw [hname, JsValue.or_str_of_ne_nil htitle, JsValue.text_str]
  obtain ⟨j, hj, rfl⟩ := List.getElem_of_mem ht
  have hget : row.get columns[j].name = .str (cell columns[j]) := by
    rw [@get_rowEntry_of_nodup _ hheaders line (j + 1) _ (hnames _ ht) (by simp [hj]), hline]
    simp [hj]
  exact (get_foldl_assignTruthy row (by simp [hget, hcell]) _ hids (hsub _ ht)).trans hget

/-- **Export, then import.** For every registry, board, view and card list within what the
reading code takes back, whose titles' `#` is the one the export restores and whose plain objects
meet no `__proto__`, and every import where the user picks the saved file and every insert
succeeds: the import inserts, in one undo group and in order, one card per exported card with its
title and the cell of each exported column that has one, then shows "Import complete!". -/
theorem exportTableCsv_importTableCsv (sanitizeFilename : List Char → List Char)
    (openInNewBrowser : Bool) (registry : PropsRegistry) (board : Board) (activeView : BoardView)
    (cards : List Card) (intl : Intl) (view : Option BoardView) (env : ImportEnv)
    (hids : (board.cardProperties.map (·.id)).Nodup)
    (hproto : ∀ t ∈ board.cardProperties, t.id ≠ protoKey)
    (hheaders : ("Name".toList :: (selectColumns board (view.getD activeView)).map (·.name)).Nodup)
    (hnameHeader : nameHeader intl = "Name".toList)
    (hcolumns : ∀ t ∈ selectColumns board (view.getD activeView), PlainCell t.name ∧ t.name ≠ protoKey)
    (htitles : ∀ c ∈ cards, PlainTitle c.title)
    (hcells : ∀ c ∈ cards, ∀ t ∈ selectColumns board (view.getD activeView),
      PlainCell (exportCell registry intl c t))
    (hfirst : replaceFirst hashSignToken ['#']
        (csvText (generateTableArray registry board cards (view.getD activeView) intl)) =
      csvText (tableWith quotedTitle registry board cards (view.getD activeView) intl))
    (hclick : env.click = .ok ())
    (hfile : env.file = some (.ok (savedText (exportTableCsv sanitizeFilename openInNewBrowser
      registry board activeView cards intl view))))
    (hinsert : ∀ i, env.insertBlock i = .ok ()) :
    ∃ imported, importTableCsv env board intl =
        .startUndoGroup :: imported.map (.insertBlock board.id) ++
          [.endUndoGroup, .alert (importComplete intl)] ∧
      List.Forall₂ (ImportedAs registry intl (selectColumns board (view.getD activeView)))
        imported cards := by
  set columns := selectColumns board (view.getD activeView)
  have hlines := csvLines_tableWith registry board cards _ intl hnameHeader
    (fun t ht => (hcolumns t ht).1) htitles hcells
  have hsaved := savedText_exportTableCsv sanitizeFilename openInNewBrowser registry board
    activeView cards intl view hnameHeader (fun t ht => (hcolumns t ht).1.noHash)
    (fun c hc t ht => (hcells c hc t ht).noHash) hfirst
  refine ⟨_, importTableCsv_complete env board intl hproto hclick (hfile.trans (by rw [hsaved]))
    (by rw [hlines]; exact List.cons_ne_nil _ _) hinsert, ?_⟩
  rw [importedCards, hlines]
  dsimp only
  rw [splitFields_headerLine fun t ht => (hcolumns t ht).1, builtCards_of_ne_protoKey board hproto,
    List.map_map, List.forall₂_map_left_iff, List.forall₂_map_left_iff, List.forall₂_same]
  intro c hc
  exact newCard_of_fields board columns hids (fun t ht => mem_selectColumns ht) hheaders
    (fun t ht => (hcolumns t ht).2) _ (htitles c hc).nonEmpty
    (splitFields_cardLine registry intl (htitles c hc) (hcells c hc))

def textRegistry : PropsRegistry := fun type => ⟨type, fun value _ _ _ => value.text⟩

def savedFileEnv (download : Download) : ImportEnv :=
  ⟨.ok (), some (.ok (savedText download)), fun _ => .ok ()⟩

def statusView : BoardView := ⟨"Tasks".toList, "table".toList, ["s".toList], none⟩

/-- A card titled `a#b` whose status is `Done`. -/
def statusCard : Card :=
  { createCard with title := "a#b".toList, properties := ⟨[("s".toList, .str "Done".toList)]⟩ }

theorem exportTableCsv_importTableCsv_status :
    ∃ imported, importTableCsv (savedFileEnv (exportTableCsv id false textRegistry statusBoard
        statusView [statusCard] defaultIntl none)) statusBoard defaultIntl =
        .startUndoGroup :: imported.map (.insertBlock statusBoard.id) ++
          [.endUndoGroup, .alert (importComplete defaultIntl)] ∧
      List.Forall₂ (ImportedAs textRegistry defaultIntl (selectColumns statusBoard statusView))
        imported [statusCard] :=
  exportTableCsv_importTableCsv id false textRegistry statusBoard statusView [statusCard]
    defaultIntl none _ (by decide) (by decide) (by decide) rfl (by decide) (by decide) (by decide)
    (by decide) rfl rfl fun _ => rfl

/-- Exported with two `#` in its title, a card comes back with the placeholder in place of the
second. -/
theorem exportTableCsv_importTableCsv_two_hashes :
    importTableCsv (savedFileEnv (exportTableCsv id false (fun _ => ⟨[], fun _ _ _ _ => []⟩)
        ⟨[], []⟩ ⟨[], [], [], none⟩ [twoHashCard] defaultIntl none)) ⟨[], []⟩ defaultIntl =
      [.startUndoGroup, .insertBlock [] { twoHashCard with title := "a#b___hash_sign___c".toList },
        .endUndoGroup, .alert (importComplete defaultIntl)] := by
  decide

end Focalboard.Csv

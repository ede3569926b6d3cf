import Focalboard.Csv.Table
import Focalboard.Js.Uri

/-!
# The exported file

`exportTableCsv` joins the table into CSV text, prefixes `data:text/csv;charset=utf-8,`, applies
`encodeURI`, and then replaces the placeholder `___hash_sign___` that `encodeText` wrote for a
title's `#` by `%23`. `String.prototype.replace` with a string pattern replaces the first
occurrence only, so what the browser saves is the joined text with its first placeholder put back
as `#` (`exportTableCsv_payload`): a second `#` among the titles stays a placeholder
(`exportTableCsv_placeholder_left`), and a cell that spells the placeholder before the titles'
`#` takes its place. A `#` in a header or a property cell is not escaped at all and starts the
data URL's fragment.
-/

namespace Focalboard.Csv

open Focalboard.Js

/-- The start of the data URI. -/
def csvPrefix : List Char := "data:text/csv;charset=utf-8,".toList

/-- One row as a line: its cells joined by `,`, then `\r\n`. -/
def csvLine (row : List (List Char)) : List Char := [','].intercalate row ++ ['\r', '\n']

def csvLine' (cells : List (List Char)) : List Char :=
  (if cells = [] then [] else ',' :: [','].intercalate cells) ++ ['\r', '\n']

/-- The text the rows are written as (lines 32-35). -/
def csvText (rows : List (List (List Char))) : List Char := rows.flatMap csvLine

/-- What clicking the link does: download `href` as `filename`; when the window has
`openInNewBrowser`, it is also sent to `href`. -/
structure Download where
  href : List Char
  filename : List Char
  openedInNewBrowser : Bool
  deriving DecidableEq, Repr

/-- `exportTableCsv(board, activeView, cards, intl, view)`. A view object is truthy, so the
early return for a missing view never fires. `sanitizeFilename` is `Utils.sanitizeFilename`, and
`openInNewBrowser` whether `window.openInNewBrowser` is set. -/
def exportTableCsv (sanitizeFilename : List Char → List Char) (openInNewBrowser : Bool)
    (registry : PropsRegistry) (board : Board) (activeView : BoardView) (cards : List Card)
    (intl : Intl) (view : Option BoardView) : Download :=
  let viewToExport := view.getD activeView
  let rows := generateTableArray registry board cards viewToExport intl
  let csvContent := csvPrefix ++ csvText rows
  let encodedUri := replaceFirst hashSignToken "%23".toList (encodeURI csvContent)
  { href := encodedUri
    filename := sanitizeFilename
      (if viewToExport.title = [] then "Untitled".toList else viewToExport.title) ++ ".csv".toList
    openedInNewBrowser := openInNewBrowser }

/-- A title as RFC 4180 quotes it: between `"`, with `"` doubled and `#` as it is. -/
def quotedTitle (title : List Char) : List Char := '"' :: replaceChar '"' ['"', '"'] title ++ ['"']

/-- The table with every title cell written by `cell`. -/
def tableWith (cell : List Char → List Char) (registry : PropsRegistry) (board : Board)
    (cards : List Card) (view : BoardView) (intl : Intl) : List (List (List Char)) :=
  let columns := selectColumns board view
  headerRow intl columns :: cards.map fun card =>
    cell card.title :: columns.map (exportCell registry intl card)

/-- The title cell with each `#` written as `h`. -/
def holeCell (h title : List Char) : List Char := replaceChar '#' h (quotedTitle title)

theorem generateTableArray_eq_tableWith (registry : PropsRegistry) (board : Board)
    (cards : List Card) (view : BoardView) (intl : Intl) :
    generateTableArray registry board cards view intl =
      tableWith (holeCell hashSignToken) registry board cards view intl := by
  have : titleCell = holeCell hashSignToken := by
    funext t
    simp [titleCell, holeCell, quotedTitle, encodeText]
  unfold generateTableArray tableWith cardRow
  rw [this]

theorem csvLine_cons (y : List Char) (xs : List (List Char)) :
    csvLine (y :: xs) = y ++ csvLine' xs := by
  simp [csvLine, csvLine', intercalate_cons]

theorem count_hash_quotedTitle (title : List Char) :
    (quotedTitle title).count '#' = title.count '#' := by
  simp [quotedTitle, @count_replaceChar_of_ne '"' '#' ['"', '"'] (by decide) (by decide)]

section Cells

variable (cells : Card → List (List Char))

/-- With a `#` among the titles, the card lines write the hole at least once. -/
theorem cardLines_of_count_pos (r : List Char) :
    ∀ cards : List Card, 0 < (cards.flatMap (·.title)).count '#' →
      ∃ a b, (cards.map fun card => holeCell r card.title :: cells card).flatMap csvLine =
        a ++ r ++ b
  | [], h => by simp at h
  | c :: cs, h => by
    rw [List.flatMap_cons, List.count_append] at h
    simp only [List.map_cons, List.flatMap_cons, csvLine_cons]
    rcases Nat.eq_zero_or_pos (c.title.count '#') with hc | hc
    · obtain ⟨a, b, hab⟩ := cardLines_of_count_pos r cs (by omega)
      exact ⟨holeCell r c.title ++ csvLine' (cells c) ++ a, b, by rw [hab]; simp⟩
    · obtain ⟨a, b, hab⟩ :=
        replaceChar_of_count_pos r (show 0 < (quotedTitle c.title).count '#' by
          rwa [count_hash_quotedTitle])
      exact ⟨a, b ++ csvLine' (cells c) ++
        (cs.map fun card => holeCell r card.title :: cells card).flatMap csvLine,
        by rw [holeCell, hab]; simp⟩

theorem cardLines_of_two_le_count (r : List Char) :
    ∀ cards : List Card, 2 ≤ (cards.flatMap (·.title)).count '#' →
      ∃ a b d, (cards.map fun card => holeCell r card.title :: cells card).flatMap csvLine =
        a ++ r ++ b ++ r ++ d
  | [], h => by simp at h
  | c :: cs, h => by
    rw [List.flatMap_cons, List.count_append] at h
    simp only [List.map_cons, List.flatMap_cons, csvLine_cons]
    have hq := count_hash_quotedTitle c.title
    by_cases h2 : 2 ≤ c.title.count '#'
    · obtain ⟨a, b, d, habd⟩ := @replaceChar_of_two_le_count '#' r (quotedTitle c.title) (by omega)
      exact ⟨a, b, d ++ csvLine' (cells c) ++
        (cs.map fun card => holeCell r card.title :: cells card).flatMap csvLine,
        by rw [holeCell, habd]; simp⟩
    · rcases Nat.eq_zero_or_pos (c.title.count '#') with hc | hc
      · obtain ⟨a, b, d, habd⟩ := cardLines_of_two_le_count r cs (by omega)
        exact ⟨holeCell r c.title ++ csvLine' (cells c) ++ a, b, d, by rw [habd]; simp⟩
      · obtain ⟨a, b, hab⟩ := @replaceChar_of_count_pos '#' r (quotedTitle c.title) (by omega)
        obtain ⟨a', b', hab'⟩ := cardLines_of_count_pos cells r cs (by omega)
        exact ⟨a, b ++ csvLine' (cells c) ++ a', b', by rw [holeCell, hab, hab']; simp⟩

end Cells

/-- The export text with each title's `#` written as `r`: a header line, then the card lines. -/
theorem csvText_tableWith (cell : List Char → List Char) (registry : PropsRegistry) (board : Board)
    (cards : List Card) (view : BoardView) (intl : Intl) :
    csvText (tableWith cell registry board cards view intl) =
      csvLine (headerRow intl (selectColumns board view)) ++
        (cards.map fun card => cell card.title ::
          (selectColumns board view).map (exportCell registry intl card)).flatMap csvLine := by
  simp [csvText, tableWith, List.flatMap_cons]

theorem mem_csvText {d : Char} (hc : d ≠ ',') (hr : d ≠ '\r') (hn : d ≠ '\n')
    (rows : List (List (List Char))) : d ∈ csvText rows ↔ ∃ row ∈ rows, ∃ x ∈ row, d ∈ x := by
  have hline : ∀ row : List (List Char), d ∈ csvLine row ↔ ∃ x ∈ row, d ∈ x := fun row =>
    ⟨fun hm => (List.mem_append.mp hm).elim (mem_of_mem_intercalate hc) (by simp [hr, hn]),
      fun ⟨x, hx, hd⟩ => List.mem_append_left _ (mem_intercalate_of_mem hx hd)⟩
  simp only [csvText, List.mem_flatMap, hline]

theorem hash_not_mem_titleCell (title : List Char) : '#' ∉ titleCell title := by
  have h := @not_mem_replaceChar_self '#' hashSignToken (by decide)
    (replaceChar '"' ['"', '"'] title)
  simpa [titleCell, encodeText] using h

theorem hash_mem_generateTableArray (registry : PropsRegistry) (board : Board) (cards : List Card)
    (view : BoardView) (intl : Intl) :
    '#' ∈ csvText (generateTableArray registry board cards view intl) ↔
      (∃ x ∈ headerRow intl (selectColumns board view), '#' ∈ x) ∨
        ∃ c ∈ cards, ∃ t ∈ selectColumns board view, '#' ∈ exportCell registry intl c t := by
  rw [mem_csvText (by decide) (by decide) (by decide)]
  simp only [generateTableArray, cardRow, List.mem_cons, List.mem_map, exists_eq_or_imp,
    exists_exists_and_eq_and, exists_eq_left, hash_not_mem_titleCell, false_or]

theorem encodeURI_csvPrefix : encodeURI csvPrefix = csvPrefix := by decide

theorem encodeURI_hashSignToken : encodeURI hashSignToken = hashSignToken := by decide

theorem encodeURI_hashSignToken_dropLast :
    encodeURI hashSignToken.dropLast = hashSignToken.dropLast := by decide

theorem hashSignToken_plain : ∀ c ∈ hashSignToken, inEscape c = false := by decide

theorem percentByte_hash : percentByte 35 = "%23".toList := by decide

theorem hash_mem_encodeURI {s : List Char} : '#' ∈ encodeURI s ↔ '#' ∈ s := @mem_encodeURI '#' rfl rfl s

theorem replaceFirst_csvPrefix (y : List Char) :
    replaceFirst hashSignToken "%23".toList (csvPrefix ++ y) =
      csvPrefix ++ replaceFirst hashSignToken "%23".toList y :=
  replaceFirst_append_of_not_mem _ (show hashSignToken.head? = some '_' from rfl) y (by decide)

theorem isInfix_encodeURI_iff {s : List Char} :
    hashSignToken <:+: encodeURI s ↔ hashSignToken <:+: s := by
  refine ⟨(encodes_encodeURI s).isInfix_of_isInfix hashSignToken_plain, ?_⟩
  rintro ⟨a, b, rfl⟩
  rw [encodeURI_append, encodeURI_append, encodeURI_hashSignToken]
  exact ⟨encodeURI a, encodeURI b, rfl⟩

/-- The first placeholder of a text stays the first of its encoding. -/
theorem not_isInfix_encodeURI {x : List Char}
    (h : ¬ hashSignToken <:+: x ++ hashSignToken.dropLast) :
    ¬ hashSignToken <:+: encodeURI x ++ hashSignToken.dropLast := by
  rw [← encodeURI_hashSignToken_dropLast, ← encodeURI_append]
  exact fun hi => h ((encodes_encodeURI _).isInfix_of_isInfix hashSignToken_plain hi)

theorem encodes_payload (A B : List Char) :
    Encodes (encodeURI A ++ ("%23".toList ++ encodeURI B)) (A ++ '#' :: B) :=
  (encodes_encodeURI A).append (.escape '#' _ rfl (by decide) (encodes_encodeURI B))

/-- `encodeURI(s).replace(hashSignToken, '%23')`: the encoding of `s` with its first placeholder,
if it has one, written as `%23`, beside `s` with that placeholder put back as `#`. -/
theorem payload_cases (s : List Char) :
    (¬ hashSignToken <:+: s ∧
      replaceFirst hashSignToken "%23".toList (encodeURI s) = encodeURI s ∧
      replaceFirst hashSignToken ['#'] s = s) ∨
    ∃ x y, s = x ++ hashSignToken ++ y ∧ ¬ hashSignToken <:+: x ++ hashSignToken.dropLast ∧
      replaceFirst hashSignToken "%23".toList (encodeURI s) =
        encodeURI x ++ ("%23".toList ++ encodeURI y) ∧
      replaceFirst hashSignToken ['#'] s = x ++ '#' :: y := by
  by_cases hs : hashSignToken <:+: s
  · obtain ⟨x, y, rfl, hx⟩ := exists_first_occurrence (by decide) hs
    refine .inr ⟨x, y, rfl, hx, ?_, by simpa using replaceFirst_first ['#'] hx⟩
    rw [encodeURI_append, encodeURI_append, encodeURI_hashSignToken,
      replaceFirst_first _ (not_isInfix_encodeURI hx), List.append_assoc]
  · exact .inl ⟨hs, replaceFirst_of_not_isInfix _ (by decide) (mt isInfix_encodeURI_iff.mp hs),
      replaceFirst_of_not_isInfix _ (by decide) hs⟩

/-- The payload of a text with placeholders percent-decodes to the octets of the text with its
first placeholder put back as `#`, holds the placeholder where that text does, and holds a raw
`#` where the text does. -/
theorem payload_spec (s : List Char) :
    percentDecode (replaceFirst hashSignToken "%23".toList (encodeURI s)) =
        utf8 (replaceFirst hashSignToken ['#'] s) ∧
      (hashSignToken <:+: replaceFirst hashSignToken "%23".toList (encodeURI s) ↔
        hashSignToken <:+: replaceFirst hashSignToken ['#'] s) ∧
      ('#' ∈ replaceFirst hashSignToken "%23".toList (encodeURI s) ↔ '#' ∈ s) := by
  rcases payload_cases s with ⟨hs, hp, hr⟩ | ⟨x, y, rfl, hx, hp, hr⟩
  · rw [hp, hr]
    exact ⟨percentDecode_encodeURI s, isInfix_encodeURI_iff, hash_mem_encodeURI⟩
  · rw [hp, hr]
    refine ⟨?_, ⟨fun hi => (encodes_payload x y).isInfix_of_isInfix hashSignToken_plain hi,
      fun hi => ?_⟩, ?_⟩
    · rw [percentDecode_encodeURI_append, ← percentByte_hash, percentDecode_percentByte (by decide),
        percentDecode_encodeURI, utf8_append, utf8_cons]
      rfl
    · rcases isInfix_append_cons (by decide) hi with hi | hi
      · exact absurd (hi.trans (List.prefix_append x _).isInfix) hx
      · exact (isInfix_encodeURI_iff.mpr hi).trans ((List.suffix_append _ _).trans
          (List.suffix_append _ _)).isInfix
    · simp [hash_mem_encodeURI, show '#' ∉ "%23".toList by decide,
        show '#' ∉ hashSignToken by decide]

/-- The link: the prefix, then the URI-encoded text of the table whose title cells carry the
placeholder, after the one `replace` of it. -/
theorem exportTableCsv_href (sanitizeFilename : List Char → List Char) (openInNewBrowser : Bool)
    (registry : PropsRegistry) (board : Board) (activeView : BoardView) (cards : List Card)
    (intl : Intl) (view : Option BoardView) :
    (exportTableCsv sanitizeFilename openInNewBrowser registry board activeView cards intl view).href =
      csvPrefix ++ replaceFirst hashSignToken "%23".toList (encodeURI
        (csvText (generateTableArray registry board cards (view.getD activeView) intl))) := by
  simp only [exportTableCsv, encodeURI_append, encodeURI_csvPrefix, replaceFirst_csvPrefix]

/-- What a browser saves from the download link and `File.text()` reads back: the body of the
data URL up to its fragment, percent-decoded to octets and decoded as UTF-8. -/
def savedText (download : Download) : List Char :=
  utf8Decode (percentDecode ((download.href.drop csvPrefix.length).takeWhile (· ≠ '#')))

theorem savedText_eq {download : Download} {payload text : List Char}
    (hhref : download.href = csvPrefix ++ payload) (hraw : '#' ∉ payload)
    (hdecode : percentDecode payload = utf8 text) (hbom : text.head? ≠ some (Char.ofNat 0xFEFF)) :
    savedText download = text := by
  have htake : payload.takeWhile (· ≠ '#') = payload :=
    List.takeWhile_eq_self_iff.mpr fun c hc => decide_eq_true fun (e : c = '#') => hraw (e ▸ hc)
  rw [savedText, hhref, List.drop_left, htake, hdecode, utf8Decode_utf8 hbom]

/-- Undo the doubling of `"` inside a quoted field. -/
def undoubleQuotes : List Char → List Char
  | '"' :: '"' :: rest => '"' :: undoubleQuotes rest
  | c :: rest => c :: undoubleQuotes rest
  | [] => []

/-- RFC 4180's reading of a quoted field: drop the enclosing quotes, then undouble `""`. -/
def rfc4180Unquote (field : List Char) : List Char := undoubleQuotes field.tail.dropLast

theorem undoubleQuotes_replaceChar (t : List Char) :
    undoubleQuotes (replaceChar '"' ['"', '"'] t) = t := by
  induction t with
  | nil => rfl
  | cons c t ih =>
    by_cases hc : c = '"'
    · subst hc
      rw [replaceChar_cons, if_pos rfl]
      show undoubleQuotes ('"' :: '"' :: replaceChar '"' ['"', '"'] t) = '"' :: t
      rw [undoubleQuotes, ih]
    · rw [replaceChar_cons, if_neg hc, List.singleton_append,
        undoubleQuotes.eq_2 _ _ (fun _ h => absurd h hc), ih]

theorem rfc4180Unquote_quotedTitle (t : List Char) : rfc4180Unquote (quotedTitle t) = t := by
  simp [rfc4180Unquote, quotedTitle, undoubleQuotes_replaceChar]

/-- **What the download holds**, for every registry, board, view and card list. The browser is
handed the joined table with each title's `#` written as the placeholder and then the first
placeholder put back as `#` (`restored`): the payload percent-decodes to its octets and holds the
placeholder exactly where it does. The payload holds a raw `#` exactly when a header or an
exported cell has one; without one the browser saves `restored`. It decodes to the RFC 4180 text
(`table`, every `#` as it is) exactly when `restored` is that text, whose title cells unquote to
the cards' titles. -/
theorem exportTableCsv_payload (sanitizeFilename : List Char → List Char) (openInNewBrowser : Bool)
    (registry : PropsRegistry) (board : Board) (activeView : BoardView) (cards : List Card)
    (intl : Intl) (view : Option BoardView) :
    let V := view.getD activeView
    let download := exportTableCsv sanitizeFilename openInNewBrowser registry board activeView
      cards intl view
    let table := tableWith quotedTitle registry board cards V intl
    let restored := replaceFirst hashSignToken ['#']
      (csvText (generateTableArray registry board cards V intl))
    ∃ payload, download.href = csvPrefix ++ payload ∧
      percentDecode payload = utf8 restored ∧
      (hashSignToken <:+: payload ↔ hashSignToken <:+: restored) ∧
      ('#' ∈ payload ↔ (∃ x ∈ headerRow intl (selectColumns board V), '#' ∈ x) ∨
        ∃ c ∈ cards, ∃ t ∈ selectColumns board V, '#' ∈ exportCell registry intl c t) ∧
      ('#' ∉ payload → restored.head? ≠ some (Char.ofNat 0xFEFF) → savedText download = restored) ∧
      (percentDecode payload = utf8 (csvText table) ↔ restored = csvText table) ∧
      table.tail.map (fun row => rfc4180Unquote (row.headD [])) = cards.map (·.title) := by
  intro V download table restored
  obtain ⟨hdecode, hplaceholder, hhash⟩ :=
    payload_spec (csvText (generateTableArray registry board cards V intl))
  have hhref := exportTableCsv_href sanitizeFilename openInNewBrowser registry board activeView
    cards intl view
  refine ⟨_, hhref, hdecode, hplaceholder, hhash.trans (hash_mem_generateTableArray ..),
    fun hraw hbom => savedText_eq hhref hraw hdecode hbom,
    ⟨fun h => (utf8_injective (hdecode.symm.trans h)), fun h => h ▸ hdecode⟩, ?_⟩
  simp [table, tableWith, rfc4180Unquote_quotedTitle]

def twoHashCard : Card := { createCard with title := "a#b#c".toList }

/-- With two `#` in one title, the browser saves the second as the placeholder. -/
theorem exportTableCsv_payload_two_hashes :
    savedText (exportTableCsv id false (fun _ => ⟨[], fun _ _ _ _ => []⟩) ⟨[], []⟩
        ⟨[], [], [], none⟩ [twoHashCard] defaultIntl none) =
      "Name\r\n\"a#b___hash_sign___c\"\r\n".toList := by
  obtain ⟨payload, hhref, -, -, -, hsaved, -, -⟩ := exportTableCsv_payload id false
    (fun _ => ⟨[], fun _ _ _ _ => []⟩) ⟨[], []⟩ ⟨[], [], [], none⟩ [twoHashCard] defaultIntl none
  have hp : payload = "Name%0D%0A%22a%23b___hash_sign___c%22%0D%0A".toList :=
    List.append_cancel_left (hhref.symm.trans (by decide))
  exact (hsaved (by rw [hp]; decide) (by decide)).trans (by decide)

/-- **With two `#` among the titles, the link keeps a placeholder**, for every registry, board,
view and card list. -/
theorem exportTableCsv_placeholder_left (sanitizeFilename : List Char → List Char)
    (openInNewBrowser : Bool) (registry : PropsRegistry) (board : Board) (activeView : BoardView)
    (cards : List Card) (intl : Intl) (view : Option BoardView)
    (hhash : 2 ≤ (cards.flatMap (·.title)).count '#') :
    hashSignToken <:+: (exportTableCsv sanitizeFilename openInNewBrowser registry board activeView
      cards intl view).href := by
  set V := view.getD activeView
  obtain ⟨a, b, d, habd⟩ := cardLines_of_two_le_count
    (fun card => (selectColumns board V).map (exportCell registry intl card)) hashSignToken cards hhash
  rw [exportTableCsv_href, generateTableArray_eq_tableWith, csvText_tableWith, habd]
  have henc : encodeURI (csvLine (headerRow intl (selectColumns board V)) ++
      (a ++ hashSignToken ++ b ++ hashSignToken ++ d)) =
      encodeURI (csvLine (headerRow intl (selectColumns board V)) ++ a) ++ hashSignToken ++
        encodeURI b ++ hashSignToken ++ encodeURI d := by
    simp only [encodeURI_append, encodeURI_hashSignToken, List.append_assoc]
  rw [henc]
  exact (isInfix_replaceFirst _ _ _ _ _).trans (List.suffix_append _ _).isInfix

theorem exportTableCsv_placeholder_left_two_hashes :
    2 ≤ ([twoHashCard].flatMap (·.title)).count '#' ∧
      hashSignToken <:+: (exportTableCsv id false (fun _ => ⟨[], fun _ _ _ _ => []⟩) ⟨[], []⟩
        ⟨[], [], [], none⟩ [twoHashCard] defaultIntl none).href :=
  ⟨by decide, exportTableCsv_placeholder_left id false _ _ _ _ _ none (by decide)⟩

end Focalboard.Csv

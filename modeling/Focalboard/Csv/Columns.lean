import Focalboard.Csv.Model
import Mathlib.Data.Finset.Card

/-!
# The exported columns

`generateTableArray` first picks the columns: the board's templates whose id the view lists,
in board order, then for a calendar view the date template when the view does not list it
already. `selectColumns_spec` says what that list is for every board with unique template ids
and every view: repeated or dangling ids in the view change nothing, no template comes twice,
and the count is the number of distinct listed ids that name a template, plus the date
column.
-/

namespace Focalboard.Csv

open Focalboard.Js

/-- The columns `generateTableArray` exports, in order (`csvExporter.ts`, lines 141-150). -/
def selectColumns (board : Board) (view : BoardView) : List PropertyTemplate :=
  let visibleProperties :=
    board.cardProperties.filter fun t => view.visiblePropertyIds.contains t.id
  match view.dateDisplayPropertyId with
  | some d =>
    if view.viewType = "calendar".toList ∧ d ≠ [] ∧ view.visiblePropertyIds.contains d = false then
      match board.cardProperties.find? fun t => d = t.id with
      | some dateDisplay => visibleProperties ++ [dateDisplay]
      | none => visibleProperties
    else visibleProperties
  | none => visibleProperties

/-- When the calendar's date column is appended: the view is a calendar, its
`dateDisplayPropertyId` is set (present and not `''`, which is what `&&` tests), not among the
listed ids, and names a template of the board. -/
def CalendarColumnDue (board : Board) (view : BoardView) : Prop :=
  view.viewType = "calendar".toList ∧ ∃ d, view.dateDisplayPropertyId = some d ∧ d ≠ [] ∧
    d ∉ view.visiblePropertyIds ∧ ∃ t ∈ board.cardProperties, t.id = d

/-- The listed templates, in board order. -/
def listedColumns (board : Board) (view : BoardView) : List PropertyTemplate :=
  board.cardProperties.filter fun t => t.id ∈ view.visiblePropertyIds

theorem selectColumns_eq (board : Board) (view : BoardView) :
    ∃ extra, selectColumns board view = listedColumns board view ++ extra ∧
      ((extra = [] ∧ ¬ CalendarColumnDue board view) ∨
        (CalendarColumnDue board view ∧ ∃ t ∈ board.cardProperties,
          extra = [t] ∧ view.dateDisplayPropertyId = some t.id)) := by
  have hl : (board.cardProperties.filter fun t => view.visiblePropertyIds.contains t.id) =
      listedColumns board view := by simp [listedColumns]
  unfold selectColumns CalendarColumnDue
  cases hd : view.dateDisplayPropertyId with
  | none => exact ⟨[], by simp [listedColumns], .inl ⟨rfl, by simp⟩⟩
  | some d =>
    simp only [hl]
    split_ifs with hc
    · cases hf : board.cardProperties.find? (fun t => d = t.id) with
      | none =>
        refine ⟨[], by simp, .inl ⟨rfl, ?_⟩⟩
        rintro ⟨-, _, ⟨⟩, -, -, t, ht, rfl⟩
        simpa using List.find?_eq_none.mp hf t ht
      | some t =>
        obtain ⟨hp, hm⟩ := List.find?_some hf, List.mem_of_find?_eq_some hf
        have hdt : d = t.id := by simpa using hp
        refine ⟨[t], by simp, .inr ⟨⟨hc.1, d, rfl, hc.2.1, by simpa using hc.2.2, t, hm, hdt.symm⟩,
          t, hm, rfl, by rw [hdt]⟩⟩
    · refine ⟨[], by simp, .inl ⟨rfl, ?_⟩⟩
      rintro ⟨hv, _, ⟨⟩, hne, hnm, -⟩
      exact hc ⟨hv, hne, by simpa using hnm⟩

theorem mem_selectColumns {board : Board} {view : BoardView} {t : PropertyTemplate}
    (h : t ∈ selectColumns board view) : t ∈ board.cardProperties := by
  obtain ⟨extra, heq, hx⟩ := selectColumns_eq board view
  rw [heq, List.mem_append] at h
  rcases h with h | h
  · exact List.mem_of_mem_filter h
  · rcases hx with ⟨rfl, -⟩ | ⟨-, u, hu, rfl, -⟩
    · cases h
    · rwa [List.mem_singleton.mp h]

theorem listedColumns_ids_nodup {board : Board} (hids : (board.cardProperties.map (·.id)).Nodup)
    (view : BoardView) : ((listedColumns board view).map (·.id)).Nodup :=
  hids.sublist ((List.filter_sublist _).map _)

/-- With unique ids, the listed columns are as many as the distinct listed ids that name a
template: repeated and dangling ids count for nothing. -/
theorem listedColumns_length {board : Board} (hids : (board.cardProperties.map (·.id)).Nodup)
    (view : BoardView) : (listedColumns board view).length =
      (view.visiblePropertyIds.toFinset ∩ (board.cardProperties.map (·.id)).toFinset).card := by
  have hmap : (listedColumns board view).map (·.id) =
      (board.cardProperties.map (·.id)).filter fun i => i ∈ view.visiblePropertyIds := by
    rw [List.filter_map]; rfl
  rw [← List.length_map _ PropertyTemplate.id, hmap, ← List.toFinset_card_of_nodup (hids.filter _),
    List.toFinset_filter, Finset.inter_comm]
  simp only [decide_eq_true_eq, ← List.mem_toFinset]
  exact congrArg Finset.card Finset.filter_mem_eq_inter

/-- The exported columns, for every board with unique template ids and every view. -/
theorem selectColumns_spec (board : Board) (view : BoardView)
    (hids : (board.cardProperties.map (·.id)).Nodup) :
    ∃ extra, selectColumns board view = listedColumns board view ++ extra ∧
      ((extra = [] ∧ ¬ CalendarColumnDue board view) ∨
        (CalendarColumnDue board view ∧ ∃ t ∈ board.cardProperties,
          extra = [t] ∧ view.dateDisplayPropertyId = some t.id)) ∧
      ((selectColumns board view).map (·.id)).Nodup ∧
      (selectColumns board view).length =
        (view.visiblePropertyIds.toFinset ∩ (board.cardProperties.map (·.id)).toFinset).card +
          extra.length := by
  obtain ⟨extra, he, hx⟩ := selectColumns_eq board view
  refine ⟨extra, he, hx, ?_, by rw [he, List.length_append, listedColumns_length hids]⟩
  rw [he, List.map_append, List.nodup_append]
  refine ⟨listedColumns_ids_nodup hids view, ?_, ?_⟩
  · rcases hx with ⟨rfl, -⟩ | ⟨-, t, -, rfl, -⟩ <;> simp
  · rcases hx with ⟨rfl, -⟩ | ⟨⟨-, d, hd, -, hnm, -⟩, t, -, rfl, ht⟩
    · simp
    · rw [hd, Option.some.injEq] at ht
      subst ht
      simp only [List.map_cons, List.map_nil, List.disjoint_singleton]
      intro hm
      obtain ⟨u, hu, hut⟩ := List.mem_map.mp hm
      exact hnm (hut ▸ (List.mem_filter.mp hu).2 |> of_decide_eq_true)

/-- A calendar view that lists `p2` twice and a dangling id, and is dated by `p1`. -/
def calendarBoard : Board :=
  ⟨"b".toList, [⟨"p1".toList, "Due".toList, "date".toList⟩,
    ⟨"p2".toList, "Status".toList, "select".toList⟩, ⟨"p3".toList, "Owner".toList, "person".toList⟩]⟩

def calendarView : BoardView :=
  ⟨"Calendar".toList, "calendar".toList, ["p2".toList, "p2".toList, "x".toList], some "p1".toList⟩

theorem selectColumns_calendar : (selectColumns calendarBoard calendarView).length = 2 := by
  obtain ⟨extra, -, hx, -, hlen⟩ := selectColumns_spec calendarBoard calendarView (by decide)
  rw [hlen]
  rcases hx with ⟨-, hn⟩ | ⟨-, t, -, rfl, -⟩
  · exact absurd ⟨rfl, _, rfl, by decide, by decide, _, List.mem_cons_self _ _, rfl⟩ hn
  · rw [List.length_singleton]
    decide

end Focalboard.Csv

import DocumentSchema.Proofs.Value.Dictionary
import DocumentSchema.Value.Basic

/-!
Ordered values.

The keys of every map in a document ascend. What is found in an ordered value is ordered.
-/

namespace DocumentSchema.Value

theorem orderedList_iff {items : List Value} :
    OrderedList items ↔ ∀ item ∈ items, item.Ordered := by
  induction items with
  | nil => simp [OrderedList]
  | cons item rest ih => simp [OrderedList, ih]

theorem orderedEntries_iff {entries : List (String × Value)} :
    OrderedEntries entries ↔ ∀ entry ∈ entries, entry.2.Ordered := by
  induction entries with
  | nil => simp [OrderedEntries]
  | cons entry rest ih => simp [OrderedEntries, ih]

/-- A list is in order if its items are. -/
theorem ordered_list_iff {items : List Value} :
    (Value.list items).Ordered ↔ ∀ item ∈ items, item.Ordered := by
  rw [Ordered, orderedList_iff]

/-- A map is in order if its keys ascend and its values are in order. -/
theorem ordered_map_iff {entries : Document} : (Value.map entries).Ordered ↔
    Entries.Ascending entries ∧ ∀ entry ∈ entries, entry.2.Ordered := by
  rw [Ordered, orderedEntries_iff]

/-- The items of a list in order are in order. -/
theorem Ordered.ofItem {items : List Value} {item : Value} (ordered : (Value.list items).Ordered)
    (member : item ∈ items) : item.Ordered :=
  ordered_list_iff.1 ordered item member

/-- The keys of a map in order ascend. -/
theorem Ordered.ascending {entries : Document} (ordered : (Value.map entries).Ordered) :
    Entries.Ascending entries :=
  (ordered_map_iff.1 ordered).1

/-- The values in a map in order are in order. -/
theorem Ordered.ofEntry {entries : Document} {entry : String × Value}
    (ordered : (Value.map entries).Ordered) (member : entry ∈ entries) : entry.2.Ordered :=
  (ordered_map_iff.1 ordered).2 entry member

/-- What is read at a key of a map in order is in order, also null where the key is missing. -/
theorem Ordered.getD {entries : Document} (ordered : (Value.map entries).Ordered) (key : String) :
    ((Entries.get? entries key).getD .null).Ordered := by
  cases found : Entries.get? entries key with
  | none => simp [Ordered]
  | some value => exact ordered.ofEntry (Entries.mem_of_get? found)

end DocumentSchema.Value

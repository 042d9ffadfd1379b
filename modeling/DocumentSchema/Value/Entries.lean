/-!
Dictionaries as lists of entries.

A dictionary is a list of pairs whose keys ascend by code point, each key once; `insert` keeps that
order. Look-up, insertion and removal are told apart by the key alone, so the equations below hold
of every list of entries.
-/

namespace DocumentSchema

/-- A dictionary from texts, its entries in ascending order of their keys. -/
abbrev Entries (α : Type) := List (String × α)

namespace Entries

variable {α β : Type}

/-- The value at a key. -/
def get? : Entries α → String → Option α
  | [], _ => none
  | (k, v) :: rest, key => if k = key then some v else get? rest key

/-- Whether a key is present. -/
def hasKey (m : Entries α) (key : String) : Bool :=
  (get? m key).isSome

/-- The keys, in order. -/
def keys (m : Entries α) : List String :=
  m.map (·.1)

/-- The values, in the order of their keys. -/
def values (m : Entries α) : List α :=
  m.map (·.2)

/-- Sets the value at a key, in place of an earlier one or at the key's place in the order. -/
def insert (key : String) (value : α) : Entries α → Entries α
  | [] => [(key, value)]
  | (k, v) :: rest =>
    if k = key then (key, value) :: rest
    else if key < k then (key, value) :: (k, v) :: rest
    else (k, v) :: insert key value rest

/-- Puts a value in the place of the one at a key, if there is one. -/
def replace (key : String) (value : α) : Entries α → Entries α
  | [] => []
  | (k, v) :: rest => if k = key then (k, value) :: rest else (k, v) :: replace key value rest

/-- Takes a key out. -/
def erase (key : String) : Entries α → Entries α
  | [] => []
  | (k, v) :: rest => if k = key then erase key rest else (k, v) :: erase key rest

/-- The dictionary of a list of pairs, a later pair winning over an earlier one of the same key. -/
def ofList (pairs : List (String × α)) : Entries α :=
  pairs.foldl (fun m (k, v) => insert k v m) []

/-- The same keys with other values. -/
def mapValues (f : α → β) (m : Entries α) : Entries β :=
  m.map fun (k, v) => (k, f v)

/-- Keys ascend strictly, so that each occurs once. -/
def Ascending (m : Entries α) : Prop :=
  m.Pairwise fun a b => a.1 < b.1

/-- A value is found where it was set. -/
theorem get?_insert_self (key : String) (value : α) (m : Entries α) :
    get? (insert key value m) key = some value := by
  induction m with
  | nil => simp [insert, get?]
  | cons entry rest ih =>
    obtain ⟨k, v⟩ := entry
    by_cases same : k = key
    · simp [insert, get?, same]
    · by_cases before : key < k <;> simp [insert, get?, same, before, ih]

/-- Setting a value changes nothing at other keys. -/
theorem get?_insert_of_ne {key other : String} (different : other ≠ key) (value : α)
    (m : Entries α) : get? (insert key value m) other = get? m other := by
  induction m with
  | nil => simp [insert, get?, Ne.symm different]
  | cons entry rest ih =>
    obtain ⟨k, v⟩ := entry
    by_cases same : k = key
    · subst same
      simp [insert, get?, Ne.symm different]
    · by_cases before : key < k
      · simp [insert, get?, same, before, Ne.symm different]
      · simp [insert, get?, same, before, ih]

/-- A value is found where it was put in the place of another. -/
theorem get?_replace_self {key : String} {former : α} {m : Entries α}
    (found : get? m key = some former) (value : α) :
    get? (replace key value m) key = some value := by
  induction m with
  | nil => cases found
  | cons entry rest ih =>
    obtain ⟨k, v⟩ := entry
    by_cases same : k = key
    · simp [replace, get?, same]
    · rw [get?, if_neg same] at found
      simp [replace, get?, same, ih found]

/-- Putting a value in the place of another changes nothing at other keys. -/
theorem get?_replace_of_ne {key other : String} (different : other ≠ key) (value : α)
    (m : Entries α) : get? (replace key value m) other = get? m other := by
  induction m with
  | nil => rfl
  | cons entry rest ih =>
    obtain ⟨k, v⟩ := entry
    by_cases same : k = key
    · subst same
      simp [replace, get?, Ne.symm different]
    · simp [replace, get?, same, ih]

/-- Putting a value in its own place changes nothing. -/
theorem replace_self {key : String} {value : α} {m : Entries α}
    (found : get? m key = some value) : replace key value m = m := by
  induction m with
  | nil => rfl
  | cons entry rest ih =>
    obtain ⟨k, v⟩ := entry
    by_cases same : k = key
    · rw [get?, if_pos same] at found
      cases found
      rw [replace, if_pos same]
    · rw [get?, if_neg same] at found
      rw [replace, if_neg same, ih found]

/-- Of two values that are put in the same place, the later one stays. -/
theorem replace_replace (key : String) (former value : α) (m : Entries α) :
    replace key value (replace key former m) = replace key value m := by
  induction m with
  | nil => rfl
  | cons entry rest ih =>
    obtain ⟨k, v⟩ := entry
    by_cases same : k = key <;> simp [replace, same, ih]

/-- Nothing is found where a key was taken out. -/
theorem get?_erase_self (key : String) (m : Entries α) : get? (erase key m) key = none := by
  induction m with
  | nil => rfl
  | cons entry rest ih =>
    obtain ⟨k, v⟩ := entry
    by_cases same : k = key <;> simp [erase, get?, same, ih]

/-- Taking a key out changes nothing at other keys. -/
theorem get?_erase_of_ne {key other : String} (different : other ≠ key) (m : Entries α) :
    get? (erase key m) other = get? m other := by
  induction m with
  | nil => rfl
  | cons entry rest ih =>
    obtain ⟨k, v⟩ := entry
    by_cases same : k = key
    · subst same
      simp [erase, get?, Ne.symm different, ih]
    · simp [erase, get?, same, ih]

end Entries

end DocumentSchema

import DocumentSchema.Proofs.Traversal
import DocumentSchema.Value.Entries
import Mathlib.Data.List.Dedup

/-!
The order of dictionaries.

`Entries.insert` keeps the keys of a dictionary ascending, so `Entries.ofList` always makes a
dictionary. Ascending dictionaries with the same look-ups are the same (`Entries.eq_of_get?_eq`), so
an entry that is taken out can be put back (`Entries.insert_erase`), and making a dictionary of one
that ascends already changes nothing (`Entries.ofList_of_ascending`).
-/

namespace DocumentSchema.Entries

variable {α β : Type} {m : Entries α} {key other : String} {value : α}

/-! ## Keys and look-ups -/

/-- What is found at a key is an entry. -/
theorem mem_of_get? (found : get? m key = some value) : (key, value) ∈ m := by
  induction m with
  | nil => cases found
  | cons entry rest ih =>
    obtain ⟨k, v⟩ := entry
    by_cases same : k = key
    · subst same
      simp only [get?, if_pos, Option.some.injEq] at found
      simp [found]
    · simp only [get?, if_neg same] at found
      exact List.mem_cons_of_mem _ (ih found)

/-- Nothing is found exactly at the keys that are missing. -/
theorem get?_eq_none_iff : get? m key = none ↔ key ∉ keys m := by
  induction m with
  | nil => simp [get?, keys]
  | cons entry rest ih =>
    obtain ⟨k, v⟩ := entry
    by_cases same : k = key
    · simp [get?, keys, same]
    · have different : ¬key = k := fun equal => same equal.symm
      simpa [get?, keys, same, different] using ih

/-- A key is present exactly if it is one of the keys. -/
theorem hasKey_iff_mem : hasKey m key = true ↔ key ∈ keys m := by
  rw [hasKey, Option.isSome_iff_ne_none, ne_eq, get?_eq_none_iff, Decidable.not_not]

theorem hasKey_iff_exists : hasKey m key = true ↔ ∃ value, get? m key = some value := by
  rw [hasKey, Option.isSome_iff_exists]

theorem mem_keys_of_get? (found : get? m key = some value) : key ∈ keys m :=
  hasKey_iff_mem.1 (hasKey_iff_exists.2 ⟨value, found⟩)

/-- An entry is found at its key, if each key occurs once. -/
theorem get?_of_mem (distinct : (keys m).Nodup) (member : (key, value) ∈ m) :
    get? m key = some value := by
  induction m with
  | nil => cases member
  | cons entry rest ih =>
    obtain ⟨k, v⟩ := entry
    obtain ⟨fresh, distinct⟩ := List.nodup_cons.1 distinct
    rcases List.mem_cons.1 member with same | later
    · cases same
      simp [get?]
    · have different : k ≠ key := by
        intro same
        subst same
        exact fresh (List.mem_map.2 ⟨_, later, rfl⟩)
      simp only [get?, if_neg different]
      exact ih distinct later

/-- Whether a dictionary ascends is told by its keys alone. -/
theorem ascending_iff_keys : Ascending m ↔ (keys m).Pairwise (· < ·) := by
  rw [keys, List.pairwise_map, Ascending]

theorem Ascending.of_keys_eq {m' : Entries β} (ascending : Ascending m) (same : keys m' = keys m) :
    Ascending m' := by
  rw [ascending_iff_keys] at ascending ⊢
  rwa [same]

/-- Where keys ascend, each occurs once. -/
theorem Ascending.nodup_keys (ascending : Ascending m) : (keys m).Nodup := by
  rw [keys, List.Nodup, List.pairwise_map]
  exact ascending.imp fun before same => String.ne_of_lt before same

/-- Where keys ascend, every entry is found at its key. -/
theorem Ascending.get?_of_mem (ascending : Ascending m) (member : (key, value) ∈ m) :
    get? m key = some value :=
  Entries.get?_of_mem ascending.nodup_keys member

theorem get?_cons_of_ne {entry : String × α} (different : entry.1 ≠ key) :
    get? (entry :: m) key = get? m key := by
  obtain ⟨k, v⟩ := entry
  exact if_neg different

/-! ## Parts of dictionaries -/

/-- The entries in front are found first. -/
theorem get?_append (a b : Entries α) (key : String) :
    get? (a ++ b) key = (get? a key).or (get? b key) := by
  induction a with
  | nil => simp [get?]
  | cons entry rest ih =>
    obtain ⟨k, v⟩ := entry
    by_cases same : k = key <;> simp [get?, same, ih]

/-- Where entries are kept by their keys, the others are missing. -/
theorem get?_filter (keep : String → Bool) (m : Entries α) (key : String) :
    get? (m.filter fun entry => keep entry.1) key =
      if keep key = true then get? m key else none := by
  induction m with
  | nil => simp [get?]
  | cons entry rest ih =>
    obtain ⟨k, v⟩ := entry
    by_cases same : k = key
    · subst same
      by_cases kept : keep k = true <;> simp [get?, kept, ih]
    · by_cases kept : keep k = true <;> simp [get?, kept, same, ih]

/-- Values that are changed in place are found changed. -/
theorem get?_map (f : String → α → β) (m : Entries α) (key : String) :
    get? (m.map fun entry => (entry.1, f entry.1 entry.2)) key = (get? m key).map (f key) := by
  induction m with
  | nil => rfl
  | cons entry rest ih =>
    obtain ⟨k, v⟩ := entry
    by_cases same : k = key
    · subst same
      simp [get?]
    · simp [get?, same, ih]

theorem get?_mapValues (f : α → β) (m : Entries α) (key : String) :
    get? (mapValues f m) key = (get? m key).map f :=
  get?_map (fun _ => f) m key

theorem keys_mapValues (f : α → β) (m : Entries α) : keys (mapValues f m) = keys m := by
  simp [keys, mapValues]

theorem values_mapValues (f : α → β) (m : Entries α) :
    values (mapValues f m) = (values m).map f := by
  simp [values, mapValues]

/-- Where values are changed or dropped in place, the rest is found changed. -/
theorem get?_filterMap (f : String → α → Option β) (distinct : (keys m).Nodup) (key : String) :
    get? (m.filterMap fun entry => (f entry.1 entry.2).map fun other => (entry.1, other)) key =
      (get? m key).bind (f key) := by
  induction m with
  | nil => rfl
  | cons entry rest ih =>
    obtain ⟨k, v⟩ := entry
    obtain ⟨fresh, distinct⟩ := List.nodup_cons.1 distinct
    by_cases same : k = key
    · subst same
      have absent : get? rest k = none := get?_eq_none_iff.2 fresh
      cases made : f k v with
      | none => simp [get?, made, ih distinct, absent]
      | some other => simp [get?, made]
    · cases made : f k v with
      | none => simp [get?, made, same, ih distinct]
      | some other => simp [get?, made, same, ih distinct]

/-- Dropping entries keeps the order of the others. -/
theorem keys_filterMap_sublist (f : String → α → Option β) (m : Entries α) :
    (keys (m.filterMap fun entry => (f entry.1 entry.2).map fun other => (entry.1, other))).Sublist
      (keys m) := by
  induction m with
  | nil => exact .slnil
  | cons entry rest ih =>
    obtain ⟨k, v⟩ := entry
    cases made : f k v with
    | none => simpa [keys, made] using ih.cons k
    | some other => simpa [keys, made] using ih.cons_cons k

/-! ## Dictionaries side by side -/

section SideBySide

variable {as : Entries α} {bs : Entries β} {r : String → α → β → Prop}

/-- Dictionaries whose entries match key by key have the same keys. -/
theorem keys_eq_of_forall₂ {related : String × α → String × β → Prop}
    (matching : List.Forall₂ related as bs) (same : ∀ a b, related a b → a.1 = b.1) :
    keys bs = keys as := by
  induction matching with
  | nil => rfl
  | cons here _ ih =>
    rw [keys, keys] at ih ⊢
    rw [List.map_cons, List.map_cons, ih, same _ _ here]

/-- In dictionaries whose entries match key by key, the values at a key match. -/
theorem rel_of_get? {x : α} {y : β}
    (matching : List.Forall₂ (fun a b => a.1 = b.1 ∧ r a.1 a.2 b.2) as bs)
    (left : get? as key = some x) (right : get? bs key = some y) : r key x y := by
  induction matching with
  | nil => cases left
  | @cons a b _ _ here _ ih =>
    obtain ⟨same, related⟩ := here
    by_cases found : a.1 = key
    · rw [get?, if_pos found] at left
      rw [get?, if_pos (same ▸ found)] at right
      cases left
      cases right
      exact found ▸ related
    · rw [get?_cons_of_ne found] at left
      rw [get?_cons_of_ne (same ▸ found)] at right
      exact ih left right

/-- Dictionaries with the same distinct keys are related entry by entry when their look-ups are. -/
theorem forall₂_of_get? (distinct : (keys as).Nodup) (same : keys bs = keys as)
    (related : ∀ k x y, get? as k = some x → get? bs k = some y → r k x y) :
    List.Forall₂ (fun a b => a.1 = b.1 ∧ r a.1 a.2 b.2) as bs := by
  induction as generalizing bs with
  | nil =>
    rw [keys, keys, List.map_nil, List.map_eq_nil_iff] at same
    rw [same]
    exact .nil
  | cons a as ih =>
    obtain ⟨k, x⟩ := a
    cases bs with
    | nil => cases same
    | cons b bs =>
      obtain ⟨l, y⟩ := b
      obtain ⟨rfl, sameRest⟩ := List.cons.inj same
      obtain ⟨fresh, distinct⟩ := List.nodup_cons.1 distinct
      refine .cons ⟨rfl, related _ x y (if_pos rfl) (if_pos rfl)⟩ ?_
      apply ih distinct sameRest
      intro key x' y' left right
      have different : l ≠ key := by
        intro same
        subst same
        exact fresh (List.mem_map.2 ⟨_, mem_of_get? left, rfl⟩)
      exact related key x' y' ((if_neg different).trans left) ((if_neg different).trans right)

end SideBySide

/-! ## Insertion -/

/-- After a value is set, every entry is the new one or one from before. -/
theorem mem_insert {entry : String × α} (member : entry ∈ insert key value m) :
    entry = (key, value) ∨ entry ∈ m := by
  induction m with
  | nil => exact .inl (by simpa [insert] using member)
  | cons head rest ih =>
    obtain ⟨k, v⟩ := head
    unfold insert at member
    split at member
    · rcases List.mem_cons.1 member with rfl | later
      · exact .inl rfl
      · exact .inr (List.mem_cons_of_mem _ later)
    · split at member
      · exact List.mem_cons.1 member
      · rcases List.mem_cons.1 member with rfl | later
        · exact .inr (by simp)
        · exact (ih later).imp_right (List.mem_cons_of_mem _)

/-- The entries at other keys stay when a value is set. -/
theorem mem_insert_of_ne {entry : String × α} (member : entry ∈ m) (different : entry.1 ≠ key) :
    entry ∈ insert key value m := by
  induction m with
  | nil => cases member
  | cons head rest ih =>
    obtain ⟨k, v⟩ := head
    unfold insert
    rcases List.mem_cons.1 member with rfl | later
    · rw [if_neg different]
      split <;> simp
    · split
      · exact List.mem_cons_of_mem _ later
      · split
        · exact List.mem_cons_of_mem _ member
        · exact List.mem_cons_of_mem _ (ih later)

/-- Setting a value keeps the keys in order. -/
theorem ascending_insert (key : String) (value : α) (ascending : Ascending m) :
    Ascending (insert key value m) := by
  induction m with
  | nil => simp [insert, Ascending]
  | cons head rest ih =>
    obtain ⟨k, v⟩ := head
    obtain ⟨first, tail⟩ := List.pairwise_cons.1 ascending
    unfold insert
    split
    · next same =>
      subst same
      exact List.pairwise_cons.2 ⟨first, tail⟩
    · next different =>
      split
      · next before =>
        refine List.pairwise_cons.2 ⟨fun entry member => ?_, ascending⟩
        rcases List.mem_cons.1 member with rfl | later
        · exact before
        · exact String.lt_trans before (first entry later)
      · next notBefore =>
        refine List.pairwise_cons.2 ⟨fun entry member => ?_, ih tail⟩
        rcases mem_insert member with rfl | later
        · have atMost : k ≤ key := String.not_lt.1 notBefore
          exact String.not_le.1 fun above => different (String.le_antisymm atMost above)
        · exact first entry later

/-- Inserts pairs one after the other. -/
def insertAll (start : Entries α) (pairs : List (String × α)) : Entries α :=
  pairs.foldl (fun m pair => insert pair.1 pair.2 m) start

theorem ofList_eq_insertAll (pairs : List (String × α)) : ofList pairs = insertAll [] pairs :=
  rfl

theorem insertAll_cons (start : Entries α) (pair : String × α) (rest : List (String × α)) :
    insertAll start (pair :: rest) = insertAll (insert pair.1 pair.2 start) rest :=
  rfl

/-- Setting several values keeps the keys in order. -/
theorem ascending_insertAll {start : Entries α} (pairs : List (String × α))
    (ascending : Ascending start) : Ascending (insertAll start pairs) := by
  induction pairs generalizing start with
  | nil => exact ascending
  | cons pair rest ih => exact ih (ascending_insert pair.1 pair.2 ascending)

/-- The dictionary of any list of pairs has its keys in order. -/
theorem ascending_ofList (pairs : List (String × α)) : Ascending (ofList pairs) :=
  ascending_insertAll pairs .nil

/-- A key above all others goes to the end. -/
theorem insert_eq_append (above : ∀ entry ∈ m, entry.1 < key) :
    insert key value m = m ++ [(key, value)] := by
  induction m with
  | nil => rfl
  | cons head rest ih =>
    obtain ⟨k, v⟩ := head
    have before : k < key := above (k, v) (by simp)
    have different : ¬k = key := fun same => String.lt_irrefl _ (same ▸ before)
    rw [insert, if_neg different, if_neg (String.lt_asymm before),
      ih fun entry member => above entry (List.mem_cons_of_mem _ member), List.cons_append]

/-- Entries that come behind all others are set at the end. -/
theorem insertAll_eq_append {start : Entries α} (ascending : Ascending (start ++ m)) :
    insertAll start m = start ++ m := by
  induction m generalizing start with
  | nil => exact (List.append_nil start).symm
  | cons entry rest ih =>
    have above : ∀ other ∈ start, other.1 < entry.1 := fun other member =>
      (List.pairwise_append.1 ascending).2.2 other member entry List.mem_cons_self
    rw [List.append_cons start entry rest] at ascending ⊢
    rw [insertAll_cons, insert_eq_append above]
    exact ih ascending

/-- A dictionary in order is its own dictionary. -/
theorem ofList_of_ascending (ascending : Ascending m) : ofList m = m :=
  insertAll_eq_append (show Ascending ([] ++ m) from ascending)

/-- Setting a value changes what is found at its key, and nothing else. -/
theorem get?_insert (key other : String) (value : α) (m : Entries α) :
    get? (insert key value m) other = if other = key then some value else get? m other := by
  split
  · next same =>
    subst same
    exact get?_insert_self other value m
  · next different => exact get?_insert_of_ne different value m

theorem mem_insertAll {start : Entries α} {pairs : List (String × α)} {entry : String × α}
    (member : entry ∈ insertAll start pairs) : entry ∈ start ∨ entry ∈ pairs := by
  induction pairs generalizing start with
  | nil => exact .inl member
  | cons pair rest ih =>
    rcases ih member with early | later
    · rcases mem_insert early with rfl | before
      · exact .inr List.mem_cons_self
      · exact .inl before
    · exact .inr (List.mem_cons_of_mem _ later)

/-- The dictionary of a list of pairs has no other entries. -/
theorem mem_of_mem_ofList {pairs : List (String × α)} {entry : String × α}
    (member : entry ∈ ofList pairs) : entry ∈ pairs :=
  (mem_insertAll member).resolve_left List.not_mem_nil

theorem hasKey_insertAll {start : Entries α} {pairs : List (String × α)} :
    hasKey (insertAll start pairs) key = true ↔ hasKey start key = true ∨ key ∈ keys pairs := by
  induction pairs generalizing start with
  | nil => simp [insertAll, keys]
  | cons pair rest ih =>
    obtain ⟨k, v⟩ := pair
    rw [insertAll_cons, ih, hasKey, get?_insert]
    by_cases same : key = k
    · simp [same, keys]
    · simp [same, keys, hasKey]

/-- The dictionary of a list of pairs has the keys of the pairs. -/
theorem hasKey_ofList {pairs : List (String × α)} :
    hasKey (ofList pairs) key = true ↔ key ∈ keys pairs := by
  rw [ofList_eq_insertAll, hasKey_insertAll]
  simp [hasKey, get?]

/-- A dictionary that gives names their values under a function has just these. -/
theorem mem_ofList_map {names : List String} {f : String → α} {entry : String × α} :
    entry ∈ ofList (names.map fun name => (name, f name)) ↔
      entry.1 ∈ names ∧ entry.2 = f entry.1 := by
  have given {entry : String × α} (member : entry ∈ ofList (names.map fun name => (name, f name))) :
      entry.1 ∈ names ∧ entry.2 = f entry.1 := by
    obtain ⟨name, held, rfl⟩ := List.mem_map.1 (mem_of_mem_ofList member)
    exact ⟨held, rfl⟩
  refine ⟨given, fun ⟨held, same⟩ => ?_⟩
  have isKey : entry.1 ∈ keys (names.map fun name => (name, f name)) :=
    List.mem_map.2 ⟨_, List.mem_map_of_mem held, rfl⟩
  obtain ⟨value, found⟩ := hasKey_iff_exists.1 (hasKey_ofList.2 isKey)
  have isValue : value = entry.2 := (given (mem_of_get? found)).2.trans same.symm
  rw [isValue] at found
  exact mem_of_get? found

/-- Of several values that are set at different keys, each is found at its own. -/
theorem get?_insertAll {start : Entries α} {pairs : List (String × α)}
    (distinct : (keys pairs).Nodup) (key : String) :
    get? (insertAll start pairs) key = (get? pairs key).or (get? start key) := by
  induction pairs generalizing start with
  | nil => rfl
  | cons pair rest ih =>
    obtain ⟨k, v⟩ := pair
    obtain ⟨fresh, distinct⟩ := List.nodup_cons.1 distinct
    rw [insertAll_cons, ih distinct, get?_insert]
    by_cases same : key = k
    · subst same
      have absent : get? rest key = none := get?_eq_none_iff.2 fresh
      simp [get?, absent]
    · simp [get?, same, Ne.symm same]

/-- A look-up in a dictionary that is made of pairs with distinct keys is one among the pairs. -/
theorem get?_ofList {pairs : List (String × α)} (distinct : (keys pairs).Nodup) (key : String) :
    get? (ofList pairs) key = get? pairs key := by
  rw [ofList_eq_insertAll, get?_insertAll distinct]
  exact Option.or_none

/-- Pairs of different keys are just the entries of their dictionary. -/
theorem mem_ofList_iff {pairs : List (String × α)} (distinct : (keys pairs).Nodup)
    {entry : String × α} : entry ∈ ofList pairs ↔ entry ∈ pairs := by
  refine ⟨mem_of_mem_ofList, fun member => ?_⟩
  apply mem_of_get?
  rw [get?_ofList distinct]
  exact get?_of_mem distinct member

/-- The keys of a dictionary that is made of pairs are those of the pairs, each once. -/
theorem perm_keys_ofList (pairs : List (String × α)) :
    (keys (ofList pairs)).Perm (keys pairs).dedup := by
  refine (List.perm_ext_iff_of_nodup (ascending_ofList pairs).nodup_keys
    (List.nodup_dedup _)).2 fun key => ?_
  rw [List.mem_dedup, ← hasKey_iff_mem, hasKey_ofList]

/-- Every pair has an entry of its own exactly if no two pairs have the same key. -/
theorem length_ofList_eq_iff {pairs : List (String × α)} :
    (ofList pairs).length = pairs.length ↔ (keys pairs).Nodup := by
  have size : (ofList pairs).length = (keys pairs).dedup.length := by
    rw [← (perm_keys_ofList pairs).length_eq, keys, List.length_map]
  have all : pairs.length = (keys pairs).length := by rw [keys, List.length_map]
  rw [size, all, ← List.dedup_eq_self]
  exact ⟨(List.dedup_sublist _).eq_of_length, congrArg List.length⟩

/-! ## Removal -/

/-- Taking a key out changes what is found there, and nothing else. -/
theorem get?_erase (key other : String) (m : Entries α) :
    get? (erase key m) other = if other = key then none else get? m other := by
  split
  · next same =>
    subst same
    exact get?_erase_self other m
  · next different => exact get?_erase_of_ne different m

/-- Taking a key out keeps the order of the others. -/
theorem erase_sublist (key : String) (m : Entries α) : (erase key m).Sublist m := by
  induction m with
  | nil => exact .slnil
  | cons entry rest ih =>
    obtain ⟨k, v⟩ := entry
    by_cases same : k = key
    · rw [erase, if_pos same]
      exact ih.cons _
    · rw [erase, if_neg same]
      exact ih.cons_cons _

theorem ascending_erase (key : String) (ascending : Ascending m) : Ascending (erase key m) :=
  List.Pairwise.sublist (erase_sublist key m) ascending

/-! ## Equality -/

/-- Two dictionaries in order are equal if the same is found in them at every key. -/
theorem eq_of_get?_eq {a b : Entries α} (left : Ascending a) (right : Ascending b)
    (same : ∀ key, get? a key = get? b key) : a = b := by
  have forward : ∀ entry ∈ a, entry ∈ b := fun entry member =>
    mem_of_get? ((same _).symm.trans (left.get?_of_mem member))
  have backward : ∀ entry ∈ b, entry ∈ a := fun entry member =>
    mem_of_get? ((same _).trans (right.get?_of_mem member))
  refine List.Perm.eq_of_pairwise (fun x y _ _ before after => ?_) left right ?_
  · exact absurd after (String.lt_asymm before)
  · refine (List.perm_ext_iff_of_nodup ?_ ?_).2 fun entry => ⟨forward entry, backward entry⟩
    · exact left.imp fun before equal => String.ne_of_lt before (congrArg Prod.fst equal)
    · exact right.imp fun before equal => String.ne_of_lt before (congrArg Prod.fst equal)

/-- Where a key is present, its value is set in its place. -/
theorem replace_eq_insert (ascending : Ascending m) {former : α} (found : get? m key = some former)
    (value : α) : replace key value m = insert key value m := by
  induction m with
  | nil => cases found
  | cons entry rest ih =>
    obtain ⟨k, v⟩ := entry
    obtain ⟨before, ascending⟩ := List.pairwise_cons.1 ascending
    by_cases same : k = key
    · rw [replace, insert, if_pos same, if_pos same, same]
    · rw [get?, if_neg same] at found
      have later : k < key := before (key, former) (mem_of_get? found)
      rw [replace, insert, if_neg same, if_neg same, if_neg (String.lt_asymm later),
        ih ascending found]

/-- Setting a value at a new key is undone by taking the key out. -/
theorem erase_insert (ascending : Ascending m) (fresh : get? m key = none) :
    erase key (insert key value m) = m := by
  refine eq_of_get?_eq (ascending_erase key (ascending_insert key value ascending)) ascending
    fun other => ?_
  rw [get?_erase, get?_insert]
  split
  · next same => rw [same, fresh]
  · rfl

/-- Taking a key out is undone by setting its value again. -/
theorem insert_erase (ascending : Ascending m) (found : get? m key = some value) :
    insert key value (erase key m) = m := by
  refine eq_of_get?_eq (ascending_insert key value (ascending_erase key ascending)) ascending
    fun other => ?_
  rw [get?_insert, get?_erase]
  split
  · next same => rw [same, found]
  · rfl

/-- Setting a key that is present changes no key. -/
theorem keys_insert (ascending : Ascending m) (present : hasKey m key = true) (value : α) :
    keys (insert key value m) = keys m := by
  induction m with
  | nil => cases present
  | cons head rest ih =>
    obtain ⟨k, v⟩ := head
    obtain ⟨first, tail⟩ := List.pairwise_cons.1 ascending
    by_cases same : k = key
    · simp [insert, keys, same]
    · have later : hasKey rest key = true := by simpa [hasKey, get?, same] using present
      obtain ⟨found, held⟩ := hasKey_iff_exists.1 later
      have before : k < key := first _ (mem_of_get? held)
      rw [insert, if_neg same, if_neg (String.lt_asymm before)]
      simpa [keys] using ih tail later

end DocumentSchema.Entries

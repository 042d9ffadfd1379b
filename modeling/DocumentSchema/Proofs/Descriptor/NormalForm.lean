import DocumentSchema.Proofs.Descriptor.Reading
import DocumentSchema.Proofs.Numeric.Order
import DocumentSchema.Proofs.Range.Bound

/-!
The normal form of records.

Many records are read as the same descriptor: a field may be absent, null or in its empty form, a
numeric bound may be an integer, and an offset may have zeros in front. `Record.normal` takes these
liberties out of a record at every depth and changes nothing else. It says what is kept of a record
without mention of descriptors. What `Args` reads of an argument is written in the normal form of
that argument (`Args.normal_of_numericBounds` and its companions).
-/

namespace DocumentSchema

namespace Record

/-! ## The normal form -/

/-- What a field or an argument holds, as far as its normal form depends on it. -/
inductive Form where
  | kept
  | numericRanges
  | temporalRanges
  | record
  | records
  | fields
  | args (kind : Kind)

/-- The empty forms of the arguments of a kind that may be absent. -/
def emptyArgs : Kind → Document
  | .int => [("ranges", .list [])]
  | .float => [("ranges", .list [])]
  | .date => [("ranges", .list [])]
  | .time => [("ranges", .list [])]
  | .dateTime => [("ranges", .list [])]
  | .str => [("pattern", .null)]
  | .email =>
    [("allowed_domains", .list []), ("disallowed_domains", .list []),
      ("strict_matching", .bool false)]
  | .webUri =>
    [("allowed_domains", .list []), ("disallowed_domains", .list []),
      ("strict_matching", .bool false)]
  | .mailUri => [("allowed_domains", .list []), ("disallowed_domains", .list [])]
  | .telUri => [("allowed_codes", .list []), ("disallowed_codes", .list [])]
  | .phone => [("codes", .list [])]
  | .literal => [("literal", .list [])]
  | .list => [("len_range", .null)]
  | .dict => [("len_range", .null), ("req", .list [])]
  | _ => []

/-- What an argument of a kind holds. -/
def argForm (kind : Kind) (name : String) : Form :=
  match kind, name with
  | .int, "ranges" => .numericRanges
  | .float, "ranges" => .numericRanges
  | .date, "ranges" => .temporalRanges
  | .time, "ranges" => .temporalRanges
  | .dateTime, "ranges" => .temporalRanges
  | .list, "list" => .records
  | .union, "union" => .records
  | .dict, "key" => .record
  | .dict, "val" => .record
  | .record, "dict" => .fields
  | _, _ => .kept

/-- The empty forms of the fields of a record that may be absent. -/
def emptyFields (kind : Kind) : Document :=
  [("allow_none", .bool false), ("args", .map (emptyArgs kind)), ("default", .null)]

/-- What a field of a record holds. -/
def fieldForm (kind : Kind) (name : String) : Form :=
  if name = "args" then .args kind else .kept

/-- Entries with the empty forms of those that are absent or null. -/
def complete (empties m : Document) : Document :=
  empties.foldl
    (fun done entry =>
      if (Entries.get? done entry.1).all Value.isNull then Entries.insert entry.1 entry.2 done
      else done) m

/-- A numeric bound as a float, or as the name of an infinity. -/
def normalNumber : Value → Value
  | .int n => .float (Binary64.ofInt n.toInt)
  | .float x =>
    if x = .infinity then .str "inf" else if x = .negInfinity then .str "-inf" else .float x
  | v => v

/-- The text that bounds dates or times in its normal form. -/
def normalText : Value → Value
  | .str text => .str (Bound.normalText text)
  | v => v

/-- Both bounds of every range in a list of them. -/
def mapBounds (normal : Value → Value) : Value → Value
  | .list ranges =>
    .list <| ranges.map fun range =>
      match range with
      | .list bounds => .list (bounds.map normal)
      | other => other
  | v => v

/-- The kind of a record, if it names one. -/
def kind? (m : Document) : Option Kind :=
  ((Entries.get? m "kind").bind Value.str?).bind Kind.ofTag?

mutual

/-- The normal form of a value of a form. -/
def normalAs (form : Form) (v : Value) : Value :=
  match v, form with
  | .map m, .record =>
    match kind? m with
    | some kind => .map (complete (emptyFields kind) (normalEntries (fieldForm kind) m))
    | none => .map m
  | .map m, .args kind => .map (complete (emptyArgs kind) (normalEntries (argForm kind) m))
  | .map m, .fields => .map (normalEntries (fun _ => .record) m)
  | .list items, .records => .list (normalItems items)
  | v, .numericRanges => mapBounds normalNumber v
  | v, .temporalRanges => mapBounds normalText v
  | v, _ => v
termination_by structural v

/-- The normal forms of records in a list. -/
def normalItems (items : List Value) : List Value :=
  match items with
  | [] => []
  | item :: rest => normalAs .record item :: normalItems rest
termination_by structural items

/-- The normal forms of entries, each of a form that depends on its name. -/
def normalEntries (form : String → Form) (m : List (String × Value)) : List (String × Value) :=
  match m with
  | [] => []
  | (name, v) :: rest => (name, normalAs (form name) v) :: normalEntries form rest
termination_by structural m

end

/-- The normal form of a record: every field and argument that is absent or null is filled in with
its empty form, every numeric bound is a float or the name of an infinity, every offset has a sign
and no leading zeros, at every depth, and nothing else is changed. -/
def normal (r : Value) : Value :=
  normalAs .record r

theorem normalItems_eq (items : List Value) : normalItems items = items.map normal := by
  induction items with
  | nil => rfl
  | cons item rest ih =>
    rw [normalItems, ih]
    rfl

theorem normalEntries_eq (form : String → Form) (m : Document) :
    normalEntries form m = m.map fun entry => (entry.1, normalAs (form entry.1) entry.2) := by
  induction m with
  | nil => rfl
  | cons entry rest ih => rw [normalEntries, ih, List.map_cons]

/-! ## Completion -/

/-- What is kept of a value, or else the value, is the value. -/
theorem filter_or_self {α : Type} (keep : α → Bool) (x : Option α) :
    (x.filter keep).or x = x := by
  cases x with
  | none => rfl
  | some v => cases kept : keep v <;> simp [Option.filter, kept]

/-- What is there stays, unless it is null and has an empty form. -/
theorem get?_complete {empties m : Document} (distinct : (Entries.keys empties).Nodup)
    (key : String) :
    Entries.get? (complete empties m) key =
      ((Entries.get? m key).filter fun v => !v.isNull).or
        ((Entries.get? empties key).or (Entries.get? m key)) := by
  induction empties generalizing m with
  | nil => exact (filter_or_self _ _).symm
  | cons entry rest ih =>
    obtain ⟨name, empty⟩ := entry
    obtain ⟨fresh, distinct⟩ := List.nodup_cons.1 distinct
    rw [complete, List.foldl_cons]
    dsimp only
    rw [← complete, ih distinct]
    by_cases same : name = key
    · subst same
      have none : Entries.get? rest name = none := Entries.get?_eq_none_iff.2 fresh
      have found : Entries.get? ((name, empty) :: rest) name = some empty := if_pos rfl
      rw [none, found, Option.none_or, filter_or_self]
      split
      · next absent =>
        have missing : (Entries.get? m name).filter (fun v => !v.isNull) = .none := by
          cases held : Entries.get? m name with
          | none => rfl
          | some v => simpa [held] using absent
        rw [Entries.get?_insert_self, missing]
        rfl
      · next present =>
        cases held : Entries.get? m name with
        | none => simp [held] at present
        | some v =>
          have filled : v.isNull = false := by simpa [held] using present
          simp [Option.filter, filled]
    · have kept : ∀ m' : Document, Entries.get? (if (Entries.get? m name).all Value.isNull = true
          then Entries.insert name empty m' else m') key = Entries.get? m' key := by
        intro m'
        split
        · exact Entries.get?_insert_of_ne (Ne.symm same) empty m'
        · rfl
      rw [kept, Entries.get?_cons_of_ne same]

/-- Completing arguments keeps their order. -/
theorem ascending_complete {empties m : Document} (ascending : Entries.Ascending m) :
    Entries.Ascending (complete empties m) := by
  induction empties generalizing m with
  | nil => exact ascending
  | cons entry rest ih =>
    rw [complete, List.foldl_cons, ← complete]
    apply ih
    split
    · exact Entries.ascending_insert entry.1 entry.2 ascending
    · exact ascending

/-- Null has itself as its normal form, and nothing else has. -/
theorem isNull_normalAs (form : Form) (v : Value) : (normalAs form v).isNull = v.isNull := by
  cases v with
  | map m =>
    cases form with
    | record =>
      rw [normalAs]
      cases kind? m <;> rfl
    | _ => rfl
  | list items => cases form <;> rfl
  | _ => cases form <;> rfl

theorem normalAs_empty (form : Form) : normalAs form (.list []) = .list [] := by
  cases form <;> rfl

/-- Normal forms of arguments stay in order. -/
theorem ascending_normalEntries (form : String → Form) {m : Document}
    (ascending : Entries.Ascending m) : Entries.Ascending (normalEntries form m) := by
  refine ascending.of_keys_eq ?_
  rw [normalEntries_eq, Entries.keys, Entries.keys, List.map_map]
  rfl

/-- An argument is found in its normal form. -/
theorem get?_normalEntries (form : String → Form) (m : Document) (key : String) :
    Entries.get? (normalEntries form m) key =
      (Entries.get? m key).map (normalAs (form key)) := by
  rw [normalEntries_eq]
  exact Entries.get?_map (fun name => normalAs (form name)) m key

section Completed

variable {empties m : Document} {form : String → Form} {key : String} {v empty : Value}

/-- What is found in completed arguments. -/
theorem get?_completed (form : String → Form) (m : Document)
    (distinct : (Entries.keys empties).Nodup) (key : String) :
    Entries.get? (complete empties (normalEntries form m)) key =
      (((Entries.get? m key).filter fun v => !v.isNull).map (normalAs (form key))).or
        ((Entries.get? empties key).or ((Entries.get? m key).map (normalAs (form key)))) := by
  rw [get?_complete distinct, get?_normalEntries]
  cases Entries.get? m key with
  | none => rfl
  | some v => cases null : v.isNull <;> simp [Option.filter, isNull_normalAs, null]

/-- An argument that is given is found in its normal form. -/
theorem get?_completed_of_some (distinct : (Entries.keys empties).Nodup)
    (held : (Entries.get? m key).filter (fun v => !v.isNull) = some v) :
    Entries.get? (complete empties (normalEntries form m)) key =
      some (normalAs (form key) v) := by
  rw [get?_completed form m distinct, held]
  rfl

/-- An argument that is not given is found empty. -/
theorem get?_completed_of_none (distinct : (Entries.keys empties).Nodup)
    (absent : (Entries.get? m key).filter (fun v => !v.isNull) = none)
    (filled : Entries.get? empties key = some empty) :
    Entries.get? (complete empties (normalEntries form m)) key = some empty := by
  rw [get?_completed form m distinct, absent, filled]
  rfl

/-- What has a list of names, with all empty forms in it, is found name by name. -/
theorem completed_eq {names : List String} {m' : Document} (distinct : (Entries.keys empties).Nodup)
    (filled : ∀ key ∈ Entries.keys empties, key ∈ names) (ascending : Entries.Ascending m)
    (known : ∀ key ∈ Entries.keys m, key ∈ names) (ascending' : Entries.Ascending m')
    (known' : ∀ key ∈ Entries.keys m', key ∈ names)
    (each : ∀ key ∈ names,
      Entries.get? (complete empties (normalEntries form m)) key = Entries.get? m' key) :
    complete empties (normalEntries form m) = m' := by
  refine Entries.eq_of_get?_eq
    (ascending_complete (ascending_normalEntries form ascending)) ascending' fun key => ?_
  by_cases member : key ∈ names
  · exact each key member
  · have absent : Entries.get? m key = none :=
      Entries.get?_eq_none_iff.2 fun held => member (known key held)
    have noEmpty : Entries.get? empties key = none :=
      Entries.get?_eq_none_iff.2 fun held => member (filled key held)
    have absent' : Entries.get? m' key = none :=
      Entries.get?_eq_none_iff.2 fun held => member (known' key held)
    rw [get?_completed form m distinct, absent, noEmpty, absent']
    rfl

end Completed

end Record

/-! ## Arguments in their normal form -/

/-- The fields of a record of a kind in their normal form. -/
def Record.normalFields (kind : Kind) (m : Document) : Document :=
  complete (emptyFields kind) (normalEntries (fieldForm kind) m)

namespace Args

variable {args : Args} {key : String} {v empty : Value}

/-- The arguments in their normal form. -/
def normal (args : Args) : Document :=
  Record.complete (Record.emptyArgs args.kind)
    (Record.normalEntries (Record.argForm args.kind) args.entries)

theorem nodup_keys_emptyArgs (kind : Kind) : (Entries.keys (Record.emptyArgs kind)).Nodup := by
  cases kind <;> decide

/-- Only arguments of the kind are filled in. -/
theorem names_of_emptyArgs (kind : Kind) :
    ∀ key ∈ Entries.keys (Record.emptyArgs kind), key ∈ names kind := by
  cases kind <;> decide

/-- An argument that is given is found in its normal form. -/
theorem get?_normal_of_some (held : args.get? key = some v) :
    Entries.get? args.normal key = some (Record.normalAs (Record.argForm args.kind key) v) :=
  Record.get?_completed_of_some (nodup_keys_emptyArgs args.kind) held

/-- An argument that is not given is found empty. -/
theorem get?_normal_of_none (absent : args.get? key = none)
    (filled : Entries.get? (Record.emptyArgs args.kind) key = some empty) :
    Entries.get? args.normal key = some empty :=
  Record.get?_completed_of_none (nodup_keys_emptyArgs args.kind) absent filled

/-- The entries ascend, and all are arguments that the kind knows. -/
structure Sound (args : Args) : Prop where
  ascending : Entries.Ascending args.entries
  known : ∀ key ∈ Entries.keys args.entries, key ∈ names args.kind

/-! ## Single arguments -/

/-- The normal form of a list that is read. -/
theorem normal_of_list {items : List Value} (read : args.list key = .ok items)
    (filled : Entries.get? (Record.emptyArgs args.kind) key = some (.list [])) :
    Entries.get? args.normal key =
      some (Record.normalAs (Record.argForm args.kind key) (.list items)) := by
  unfold list at read
  split at read
  · next absent =>
    cases read
    rw [get?_normal_of_none absent filled, Record.normalAs_empty]
  · next held =>
    cases read
    exact get?_normal_of_some held
  · cases read

/-- Texts are in normal form. -/
theorem normal_of_texts {texts : List String} (read : args.texts key = .ok texts)
    (filled : Entries.get? (Record.emptyArgs args.kind) key = some (.list []))
    (kept : Record.argForm args.kind key = .kept) :
    Entries.get? args.normal key = some (Value.ofTexts texts) := by
  obtain ⟨items, list, each⟩ := except_bind_eq_ok_iff.1 read
  have same : items = texts.map .str := by
    have pairs := except_mapM_eq_ok_iff.1 each
    rw [← List.forall₂_eq_eq_eq, List.forall₂_map_right_iff]
    refine pairs.imp fun item text held => ?_
    split at held <;> cases held
    rfl
  rw [normal_of_list list filled, kept, same]
  rfl

/-- Flags are in normal form. -/
theorem normal_of_flag {flag : Bool} (read : args.flag key = .ok flag)
    (filled : Entries.get? (Record.emptyArgs args.kind) key = some (.bool false)) :
    Entries.get? args.normal key = some (.bool flag) := by
  unfold Args.flag at read
  split at read
  · next absent =>
    cases read
    exact get?_normal_of_none absent filled
  · next held =>
    cases read
    rw [get?_normal_of_some held]
    cases Record.argForm args.kind key <;> rfl
  · cases read

/-- An integer is a float that is no infinity. -/
theorem normalNumber_of_bound {x : Binary64} (read : args.bound v = .ok x) :
    Record.normalNumber v = Record.ofBound x := by
  unfold Record.ofBound
  simp only [Binary64.eqNumber_infinity_iff, Binary64.eqNumber_negInfinity_iff]
  unfold bound at read
  split at read
  · next n =>
    cases read
    have finite := Binary64.isFinite_ofInt n
    have noInfinity : Binary64.ofInt n.toInt ≠ .infinity := by
      intro same
      rw [same, Binary64.isFinite_infinity] at finite
      cases finite
    have noNegInfinity : Binary64.ofInt n.toInt ≠ .negInfinity := by
      intro same
      rw [same, Binary64.isFinite_negInfinity] at finite
      cases finite
    rw [if_neg noInfinity, if_neg noNegInfinity, Record.normalNumber]
  · cases read
    rfl
  · split at read
    · next same =>
      cases read
      rw [same]
      rfl
    · split at read
      · next same =>
        cases read
        rw [same]
        rfl
      · cases read
  · cases read

/-- The normal form of numeric ranges is their record. -/
theorem normal_of_numericBounds {bounds : List (Binary64 × Binary64)} {ranges : List NumericRange}
    (read : args.numericBounds = .ok bounds) (made : numericRanges bounds = .ok ranges)
    (filled : Entries.get? (Record.emptyArgs args.kind) "ranges" = some (.list []))
    (form : Record.argForm args.kind "ranges" = .numericRanges) :
    Entries.get? args.normal "ranges" = some (Record.ofNumericRanges ranges) := by
  obtain ⟨items, list, each⟩ := except_bind_eq_ok_iff.1 read
  rw [normal_of_list list filled, form]
  refine congrArg (fun items => some (Value.list items)) (map_eq_map_of_forall₂ ?_)
  refine forall₂_trans (except_mapM_eq_ok_iff.1 each) (numericRanges_eq_ok_iff.1 made) ?_
  intro item pair range held checked
  split at held
  · obtain ⟨lo, lower, held⟩ := except_bind_eq_ok_iff.1 held
    obtain ⟨hi, upper, held⟩ := except_bind_eq_ok_iff.1 held
    cases held
    rw [NumericRange.eq_of_make checked]
    dsimp only
    rw [← normalNumber_of_bound lower, ← normalNumber_of_bound upper]
    rfl
  · cases held

/-- The normal form of ranges of times is their record. -/
theorem normal_of_temporalBounds {kind : TemporalKind} {bounds : List (String × String)}
    {ranges : List TemporalRange} (read : args.temporalBounds = .ok bounds)
    (made : temporalRanges kind bounds = .ok ranges)
    (filled : Entries.get? (Record.emptyArgs args.kind) "ranges" = some (.list []))
    (form : Record.argForm args.kind "ranges" = .temporalRanges) :
    Entries.get? args.normal "ranges" = some (Record.ofTemporalRanges ranges) := by
  obtain ⟨items, list, each⟩ := except_bind_eq_ok_iff.1 read
  rw [normal_of_list list filled, form]
  refine congrArg (fun items => some (Value.list items)) (map_eq_map_of_forall₂ ?_)
  refine forall₂_trans (except_mapM_eq_ok_iff.1 each) (temporalRanges_eq_ok_iff.1 made) ?_
  intro item pair range held parsed
  obtain ⟨lower, upper⟩ := TemporalRange.parse_eq_ok_iff.1 parsed
  split at held
  · cases held
    rw [Bound.text_of_parse lower, Bound.text_of_parse upper]
    rfl
  · cases held

/-- The normal form of lists of domains is their record. -/
theorem normal_of_domains {filter : DomainFilter} (read : args.domains = .ok filter)
    (kind : args.kind = .email ∨ args.kind = .webUri ∨ args.kind = .mailUri) :
    Entries.get? args.normal "allowed_domains" = some (Value.ofTexts filter.allowed) ∧
      Entries.get? args.normal "disallowed_domains" = some (Value.ofTexts filter.refused) ∧
        (args.kind ≠ .mailUri →
          Entries.get? args.normal "strict_matching" = some (.bool filter.strict)) := by
  obtain ⟨allowed, heldAllowed, read⟩ := except_bind_eq_ok_iff.1 read
  obtain ⟨refused, heldRefused, read⟩ := except_bind_eq_ok_iff.1 read
  obtain ⟨strict, heldStrict, read⟩ := except_bind_eq_ok_iff.1 read
  cases read
  refine ⟨normal_of_texts heldAllowed ?_ ?_, normal_of_texts heldRefused ?_ ?_,
    fun flagged => normal_of_flag heldStrict ?_⟩
  all_goals rcases kind with same | same | same <;> rw [same]
  all_goals first | rfl | exact absurd same flagged

/-- The normal form of lists of dial codes is their record. -/
theorem normal_of_codes {filter : CodeFilter} (read : args.codes = .ok filter)
    (kind : args.kind = .telUri) :
    Entries.get? args.normal "allowed_codes" = some (Value.ofTexts filter.allowed) ∧
      Entries.get? args.normal "disallowed_codes" = some (Value.ofTexts filter.refused) := by
  obtain ⟨allowed, heldAllowed, read⟩ := except_bind_eq_ok_iff.1 read
  obtain ⟨refused, heldRefused, read⟩ := except_bind_eq_ok_iff.1 read
  cases read
  constructor
  · exact normal_of_texts heldAllowed (by rw [kind]; rfl) (by rw [kind]; rfl)
  · exact normal_of_texts heldRefused (by rw [kind]; rfl) (by rw [kind]; rfl)

/-- A length that is read is written as it was. -/
theorem ofLength_of_length? {n : Nat} (read : length? v = some n) : Record.ofLength n = v := by
  unfold length? at read
  split at read
  · next number =>
    split at read
    · cases read
    · next positive =>
      cases read
      have least : 0 ≤ number.toInt := by
        rw [Int64.lt_iff_toInt_lt] at positive
        exact Int.not_lt.1 positive
      rw [Record.ofLength, Int.toNat_of_nonneg least, Int64.ofInt_toInt]
  · cases read

/-- A range of lengths is in normal form. -/
theorem normal_of_lengthRange {length : Option LengthRange} (read : args.lengthRange = .ok length)
    (filled : Entries.get? (Record.emptyArgs args.kind) "len_range" = some .null)
    (kept : Record.argForm args.kind "len_range" = .kept) :
    Entries.get? args.normal "len_range" = some (Record.ofLengthRange length) := by
  rcases lengthRange_cases read with ⟨absent, rfl⟩ | ⟨first, least, held, lower, rfl⟩ |
    ⟨first, second, least, most, range, held, lower, upper, made, rfl⟩
  · exact get?_normal_of_none absent filled
  · rw [get?_normal_of_some held, kept, ← ofLength_of_length? lower]
    rfl
  · obtain ⟨-, rfl⟩ := LengthRange.make_eq_ok_iff.1 made
    rw [get?_normal_of_some held, kept, ← ofLength_of_length? lower, ← ofLength_of_length? upper]
    rfl

end Args

end DocumentSchema

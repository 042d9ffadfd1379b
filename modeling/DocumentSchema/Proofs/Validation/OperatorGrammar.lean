import DocumentSchema.Proofs.Validation.Operators

/-!
The grammar of update operators.

`UpdateOperator.IsRequest` says which maps are requests, without mention of how they are read: one
reserved key, the key that may stand beside it, and what may stand at both. These are the maps that
are read as requests (`UpdateOperator.exists_ofMap?_iff`). The canonical form of the request adds at
most the other key to such a map (`UpdateOperator.completes_of_ofMap?`), and so writing what is read
changes nothing the second time. `UpdateOperator.grammar_lawful` puts this together.
-/

namespace DocumentSchema

/-! ## The grammar -/

/-- A key that may stand beside a reserved key. -/
inductive OperatorKey.Beside : OperatorKey → String → Prop
  | add : Beside .add "$field"
  | multiply : Beside .multiply "$field"
  | append : Beside .append "$unique"
  | setIndex : Beside .setIndex "$index"

namespace UpdateOperator

/-- A map that is a request of a reserved key. It has that one alone of all reserved keys, and no
other key but one that may stand beside it. A field is null or named by a string, a flag is null or
a boolean, an index is there and an integer; what to delete is given as the list of the values, or
as a position or a key. -/
structure IsRequest (entries : Document) (key : OperatorKey) : Prop where
  sole : ∀ other : OperatorKey, other.text ∈ Entries.keys entries ↔ other = key
  beside : ∀ other ∈ Entries.keys entries, other = key.text ∨ key.Beside other
  field : ∀ v, Entries.get? entries "$field" = some v → v = .null ∨ ∃ name, v = .str name
  unique : ∀ v, Entries.get? entries "$unique" = some v → v = .null ∨ ∃ flag, v = .bool flag
  index : key = .setIndex → ∃ i, Entries.get? entries "$index" = some (.int i)
  values : key = .deleteValues → ∃ values, Entries.get? entries "$del_val" = some (.list values)
  target : key = .deleteIndex → (∃ i, Entries.get? entries "$del_index" = some (.int i)) ∨
    ∃ name, Entries.get? entries "$del_index" = some (.str name)

variable {entries canonical : Document} {key : OperatorKey} {payload v : Value}
  {operator : UpdateOperator} {text : String}

theorem beside_field_iff : key.Beside "$field" ↔ key = .add ∨ key = .multiply := by
  constructor
  · intro stands
    generalize other : "$field" = text at stands
    cases stands with
    | add => exact .inl rfl
    | multiply => exact .inr rfl
    | append => exact absurd other (by decide)
    | setIndex => exact absurd other (by decide)
  · intro either
    rcases either with rfl | rfl
    · exact .add
    · exact .multiply

theorem beside_unique_iff : key.Beside "$unique" ↔ key = .append := by
  constructor
  · intro stands
    generalize other : "$unique" = text at stands
    cases stands with
    | append => rfl
    | _ => exact absurd other (by decide)
  · intro same
    rw [same]
    exact .append

theorem contains_auxiliaries_iff : key.auxiliaries.contains text = true ↔ key.Beside text := by
  rw [List.contains_iff_mem]
  constructor
  · intro member
    cases key with
    | add => exact List.mem_singleton.1 member ▸ .add
    | multiply => exact List.mem_singleton.1 member ▸ .multiply
    | append => exact List.mem_singleton.1 member ▸ .append
    | setIndex => exact List.mem_singleton.1 member ▸ .setIndex
    | deleteValues => exact (List.not_mem_nil member).elim
    | deleteIndex => exact (List.not_mem_nil member).elim
  · intro stands
    cases stands <;> exact List.mem_cons_self

/-! ## Reading -/

theorem field?_eq_some_iff {field : Option String} : field? entries = some field ↔
    (field = none ∧ Entries.get? entries "$field" = none) ∨
      Entries.get? entries "$field" = some (field.elim .null .str) := by
  unfold field?
  split
  · next absent => cases field <;> simp [absent]
  · next null => cases field <;> simp [null]
  · next name named => cases field <;> simp [named]
  · next v notNull notText held =>
    cases field with
    | none => simpa [held] using notNull
    | some name => simpa [held] using notText name

theorem unique?_eq_some_iff {flag : Bool} : unique? entries = some flag ↔
    (flag = false ∧ (Entries.get? entries "$unique" = none ∨
        Entries.get? entries "$unique" = some .null)) ∨
      Entries.get? entries "$unique" = some (.bool flag) := by
  unfold unique?
  split
  · next absent => simp [absent, eq_comm]
  · next null => simp [null, eq_comm]
  · next given held => simp [held]
  · next v notNull notFlag held =>
    rw [held]
    refine iff_of_false (by simp) ?_
    intro given
    rcases given with ⟨-, absent | null⟩ | given
    · cases absent
    · exact notNull (Option.some.inj null)
    · exact notFlag flag (Option.some.inj given)

/-- The reserved keys of a map are one, if that one is there and no other is. -/
theorem reserved_eq_singleton_iff (ascending : Entries.Ascending entries) :
    (Entries.keys entries).filterMap OperatorKey.ofText? = [key] ↔
      ∀ other : OperatorKey, other.text ∈ Entries.keys entries ↔ other = key := by
  have listed (other : OperatorKey) :
      other ∈ (Entries.keys entries).filterMap OperatorKey.ofText? ↔
        other.text ∈ Entries.keys entries := by
    simp [List.mem_filterMap, OperatorKey.ofText?_eq_some_iff]
  constructor
  · intro reserved other
    rw [← listed, reserved, List.mem_singleton]
  · intro sole
    have distinct : ((Entries.keys entries).filterMap OperatorKey.ofText?).Nodup := by
      refine ascending.nodup_keys.filterMap fun a b key ofFirst ofSecond => ?_
      rw [OperatorKey.ofText?_eq_some_iff.1 ofFirst, OperatorKey.ofText?_eq_some_iff.1 ofSecond]
    refine List.perm_singleton.1 ((List.perm_ext_iff_of_nodup distinct
      (List.nodup_singleton key)).2 fun other => ?_)
    rw [listed, sole, List.mem_singleton]

/-- A map is read as a request exactly if one reserved key is there, no key that does not belong to
it, and its payload gives the request. -/
theorem ofMap?_eq_some_iff (ascending : Entries.Ascending entries) :
    ofMap? entries = some operator ↔ ∃ key payload,
      (∀ other : OperatorKey, other.text ∈ Entries.keys entries ↔ other = key) ∧
      (∀ other ∈ Entries.keys entries, other = key.text ∨ key.Beside other) ∧
      Entries.get? entries key.text = some payload ∧
      ofPayload? entries payload key = some operator := by
  have belong (key : OperatorKey) : ((Entries.keys entries).all fun k =>
      k == key.text || key.auxiliaries.contains k) = true ↔
        ∀ other ∈ Entries.keys entries, other = key.text ∨ key.Beside other := by
    simp only [List.all_eq_true, Bool.or_eq_true, beq_iff_eq, contains_auxiliaries_iff]
  constructor
  · intro read
    unfold ofMap? at read
    split at read
    · next key reserved =>
      split at read
      · next beside =>
        obtain ⟨payload, found, made⟩ := Option.bind_eq_some_iff.1 read
        exact ⟨key, payload, (reserved_eq_singleton_iff ascending).1 reserved,
          (belong key).1 beside, found, made⟩
      · cases read
    · cases read
  · intro parts
    obtain ⟨key, payload, sole, beside, found, made⟩ := parts
    simp only [ofMap?, (reserved_eq_singleton_iff ascending).2 sole, (belong key).2 beside, found,
      if_true, Option.bind_some, made]

theorem exists_field?_iff : (∃ field, field? entries = some field) ↔
    ∀ v, Entries.get? entries "$field" = some v → v = .null ∨ ∃ name, v = .str name := by
  constructor
  · intro read v held
    obtain ⟨field, read⟩ := read
    rcases field?_eq_some_iff.1 read with ⟨-, absent⟩ | given
    · cases absent.symm.trans held
    · cases given.symm.trans held
      cases field with
      | none => exact .inl rfl
      | some name => exact .inr ⟨name, rfl⟩
  · intro form
    cases held : Entries.get? entries "$field" with
    | none => exact ⟨none, field?_eq_some_iff.2 (.inl ⟨rfl, held⟩)⟩
    | some v =>
      rcases form v held with rfl | ⟨name, rfl⟩
      · exact ⟨none, field?_eq_some_iff.2 (.inr held)⟩
      · exact ⟨some name, field?_eq_some_iff.2 (.inr held)⟩

theorem exists_unique?_iff : (∃ flag, unique? entries = some flag) ↔
    ∀ v, Entries.get? entries "$unique" = some v → v = .null ∨ ∃ flag, v = .bool flag := by
  constructor
  · intro read v held
    obtain ⟨flag, read⟩ := read
    rcases unique?_eq_some_iff.1 read with ⟨-, absent | null⟩ | given
    · cases absent.symm.trans held
    · cases null.symm.trans held
      exact .inl rfl
    · cases given.symm.trans held
      exact .inr ⟨flag, rfl⟩
  · intro form
    cases held : Entries.get? entries "$unique" with
    | none => exact ⟨false, unique?_eq_some_iff.2 (.inl ⟨rfl, .inl held⟩)⟩
    | some v =>
      rcases form v held with rfl | ⟨flag, rfl⟩
      · exact ⟨false, unique?_eq_some_iff.2 (.inl ⟨rfl, .inr held⟩)⟩
      · exact ⟨flag, unique?_eq_some_iff.2 (.inr held)⟩

/-- A key that is there and is not reserved stands beside the reserved one. -/
theorem beside_of_get?
    (beside : ∀ other ∈ Entries.keys entries, other = key.text ∨ key.Beside other)
    (held : Entries.get? entries text = some v) (free : OperatorKey.ofText? text = none) :
    key.Beside text := by
  refine (beside text (Entries.mem_keys_of_get? held)).resolve_left ?_
  rintro rfl
  cases (OperatorKey.ofText?_text key).symm.trans free

/-- The maps that are read as requests are those of the grammar. -/
theorem exists_ofMap?_iff (ascending : Entries.Ascending entries) :
    (∃ operator, ofMap? entries = some operator) ↔ ∃ key, IsRequest entries key := by
  constructor
  · intro read
    obtain ⟨operator, read⟩ := read
    obtain ⟨key, payload, sole, beside, found, made⟩ := (ofMap?_eq_some_iff ascending).1 read
    refine ⟨key, sole, beside, fun v held => ?_, fun v held => ?_, ?_, ?_, ?_⟩
    · rcases beside_field_iff.1 (beside_of_get? beside held rfl) with rfl | rfl <;>
        obtain ⟨field, given, -⟩ := Option.map_eq_some_iff.1 made <;>
        exact exists_field?_iff.1 ⟨field, given⟩ v held
    · cases beside_unique_iff.1 (beside_of_get? beside held rfl)
      obtain ⟨flag, given, -⟩ := Option.map_eq_some_iff.1 made
      exact exists_unique?_iff.1 ⟨flag, given⟩ v held
    · intro isSetIndex
      subst isSetIndex
      obtain ⟨i, given, -⟩ := Option.map_eq_some_iff.1 made
      obtain ⟨v, held, number⟩ := Option.bind_eq_some_iff.1 given
      cases v <;> cases number
      exact ⟨i, held⟩
    · intro isDeleteValues
      subst isDeleteValues
      obtain ⟨values, given, -⟩ := Option.map_eq_some_iff.1 made
      cases payload <;> cases given
      exact ⟨values, found⟩
    · intro isDeleteIndex
      subst isDeleteIndex
      cases payload with
      | int i => exact .inl ⟨i, found⟩
      | str name => exact .inr ⟨name, found⟩
      | _ => cases made
  · intro request
    obtain ⟨key, request⟩ := request
    obtain ⟨payload, found⟩ := Entries.hasKey_iff_exists.1
      (Entries.hasKey_iff_mem.2 ((request.sole key).2 rfl))
    suffices ∃ operator, ofPayload? entries payload key = some operator from
      this.imp fun operator made => (ofMap?_eq_some_iff ascending).2
        ⟨key, payload, request.sole, request.beside, found, made⟩
    cases key with
    | add =>
      obtain ⟨field, given⟩ := exists_field?_iff.2 request.field
      exact ⟨.add payload field, by rw [ofPayload?, given]; rfl⟩
    | multiply =>
      obtain ⟨field, given⟩ := exists_field?_iff.2 request.field
      exact ⟨.multiply payload field, by rw [ofPayload?, given]; rfl⟩
    | append =>
      obtain ⟨flag, given⟩ := exists_unique?_iff.2 request.unique
      exact ⟨.append payload flag, by rw [ofPayload?, given]; rfl⟩
    | setIndex =>
      obtain ⟨i, given⟩ := request.index rfl
      exact ⟨.setIndex payload i, by rw [ofPayload?, given]; rfl⟩
    | deleteValues =>
      obtain ⟨values, given⟩ := request.values rfl
      cases found.symm.trans given
      exact ⟨.deleteValues values, rfl⟩
    | deleteIndex =>
      rcases request.target rfl with ⟨i, given⟩ | ⟨name, given⟩
      · cases found.symm.trans given
        exact ⟨.deleteIndex (.position i), rfl⟩
      · cases found.symm.trans given
        exact ⟨.deleteIndex (.key name), rfl⟩

/-! ## Writing -/

/-- A canonical form has what a map has, but false for a flag that is null, and no further key but
one that may stand beside the reserved key. -/
structure Completes (operator : UpdateOperator) (entries canonical : Document) : Prop where
  written : operator.toValue = .map canonical
  ascending : Entries.Ascending canonical
  kept : ∀ text v, Entries.get? entries text = some v → ¬(text = "$unique" ∧ v = .null) →
    Entries.get? canonical text = some v
  noFlag : Entries.get? entries "$unique" = some .null →
    Entries.get? canonical "$unique" = some (.bool false)
  added : ∀ text ∈ Entries.keys canonical, text ∉ Entries.keys entries → operator.key.Beside text

/-- A canonical form has no keys but the reserved one and those beside it. -/
theorem keys_of_toValue (written : operator.toValue = .map canonical) :
    ∀ text ∈ Entries.keys canonical, text = operator.key.text ∨ operator.key.Beside text := by
  cases operator with
  | add value field =>
    cases written
    exact List.forall_mem_cons.2 ⟨.inl rfl, List.forall_mem_singleton.2 (.inr .add)⟩
  | multiply value field =>
    cases written
    exact List.forall_mem_cons.2 ⟨.inr .multiply, List.forall_mem_singleton.2 (.inl rfl)⟩
  | append value flag =>
    cases written
    exact List.forall_mem_cons.2 ⟨.inl rfl, List.forall_mem_singleton.2 (.inr .append)⟩
  | setIndex value i =>
    cases written
    exact List.forall_mem_cons.2 ⟨.inr .setIndex, List.forall_mem_singleton.2 (.inl rfl)⟩
  | deleteValues values =>
    cases written
    exact List.forall_mem_singleton.2 (.inl rfl)
  | deleteIndex target =>
    cases target <;> cases written <;> exact List.forall_mem_singleton.2 (.inl rfl)

theorem ascending_of_toValue (written : operator.toValue = .map canonical) :
    Entries.Ascending canonical := by
  cases operator with
  | add value field =>
    cases written
    exact List.pairwise_pair.2 (show "$add" < "$field" by decide)
  | multiply value field =>
    cases written
    exact List.pairwise_pair.2 (show "$field" < "$multiply" by decide)
  | append value flag =>
    cases written
    exact List.pairwise_pair.2 (show "$append" < "$unique" by decide)
  | setIndex value i =>
    cases written
    exact List.pairwise_pair.2 (show "$index" < "$set_index" by decide)
  | deleteValues values =>
    cases written
    exact List.pairwise_singleton _ _
  | deleteIndex target => cases target <;> cases written <;> exact List.pairwise_singleton _ _

/-- For a canonical form to complete a map it is enough to look at the reserved key and at those
beside it. -/
theorem completes_of (read : operator.key = key) (written : operator.toValue = .map canonical)
    (beside : ∀ other ∈ Entries.keys entries, other = key.text ∨ key.Beside other)
    (found : Entries.get? entries key.text = some payload)
    (same : Entries.get? canonical key.text = some payload)
    (kept : ∀ text v, key.Beside text → Entries.get? entries text = some v →
      ¬(text = "$unique" ∧ v = .null) → Entries.get? canonical text = some v)
    (noFlag : key = .append → Entries.get? entries "$unique" = some .null →
      Entries.get? canonical "$unique" = some (.bool false)) :
    Completes operator entries canonical where
  written := written
  ascending := ascending_of_toValue written
  kept := by
    intro text v held other
    rcases beside text (Entries.mem_keys_of_get? held) with rfl | stands
    · rw [same, ← found, held]
    · exact kept text v stands held other
  noFlag := fun null => noFlag (beside_unique_iff.1 (beside_of_get? beside null rfl)) null
  added := by
    intro text member fresh
    refine (keys_of_toValue written text member).resolve_left ?_
    rintro rfl
    exact fresh (Entries.mem_keys_of_get? (read ▸ found))

/-- The canonical form of what is read completes the map. -/
theorem completes_of_ofMap? (ascending : Entries.Ascending entries)
    (read : ofMap? entries = some operator) :
    ∃ canonical, Completes operator entries canonical := by
  obtain ⟨key, payload, -, beside, found, made⟩ := (ofMap?_eq_some_iff ascending).1 read
  have fieldKept {field : Option String} (given : field? entries = some field) {v : Value}
      (held : Entries.get? entries "$field" = some v) : v = field.elim .null .str := by
    rcases field?_eq_some_iff.1 given with ⟨-, absent⟩ | present
    · cases absent.symm.trans held
    · exact Option.some.inj (held.symm.trans present)
  cases key with
  | add =>
    obtain ⟨field, given, rfl⟩ := Option.map_eq_some_iff.1 made
    refine ⟨_, completes_of rfl rfl beside found rfl ?_ nofun⟩
    intro text v stands held _
    cases stands
    rw [fieldKept given held]
    rfl
  | multiply =>
    obtain ⟨field, given, rfl⟩ := Option.map_eq_some_iff.1 made
    refine ⟨_, completes_of rfl rfl beside found rfl ?_ nofun⟩
    intro text v stands held _
    cases stands
    rw [fieldKept given held]
    rfl
  | append =>
    obtain ⟨flag, given, rfl⟩ := Option.map_eq_some_iff.1 made
    refine ⟨_, completes_of rfl rfl beside found rfl ?_ fun _ null => ?_⟩
    · intro text v stands held other
      cases stands
      rcases unique?_eq_some_iff.1 given with ⟨-, absent | null⟩ | present
      · cases absent.symm.trans held
      · exact absurd ⟨rfl, Option.some.inj (held.symm.trans null)⟩ other
      · exact present.symm.trans held
    · rcases unique?_eq_some_iff.1 given with ⟨rfl, -⟩ | present
      · rfl
      · cases present.symm.trans null
  | setIndex =>
    obtain ⟨i, given, rfl⟩ := Option.map_eq_some_iff.1 made
    obtain ⟨number, present, isNumber⟩ := Option.bind_eq_some_iff.1 given
    cases number <;> cases isNumber
    refine ⟨_, completes_of rfl rfl beside found rfl ?_ nofun⟩
    intro text v stands held _
    cases stands
    exact present.symm.trans held
  | deleteValues =>
    obtain ⟨values, given, rfl⟩ := Option.map_eq_some_iff.1 made
    cases payload <;> cases given
    exact ⟨_, completes_of rfl rfl beside found rfl nofun nofun⟩
  | deleteIndex =>
    cases payload with
    | int i =>
      cases made
      exact ⟨_, completes_of rfl rfl beside found rfl nofun nofun⟩
    | str name =>
      cases made
      exact ⟨_, completes_of rfl rfl beside found rfl nofun nofun⟩
    | _ => cases made

/-- The canonical form of a value that writes a request. -/
def canonicalForm? (value : Value) : Option Value :=
  (ofValue? value).map toValue

theorem canonicalForm?_again {value form : Value} (made : canonicalForm? value = some form) :
    canonicalForm? form = some form := by
  obtain ⟨operator, -, rfl⟩ := Option.map_eq_some_iff.1 made
  rw [canonicalForm?, ofValue?_toValue, Option.map_some]

/-- A map is read as a request exactly if it is one of the grammar; what is written for a request is
read as it; and what is written for the request that is read of a map completes the map. Writing
what is read therefore changes nothing the second time. -/
theorem grammar_lawful (ascending : Entries.Ascending entries) :
    ((∃ operator, ofMap? entries = some operator) ↔ ∃ key, IsRequest entries key) ∧
      (∀ operator : UpdateOperator, ofValue? operator.toValue = some operator) ∧
      (∀ operator, ofMap? entries = some operator →
        ∃ canonical, Completes operator entries canonical ∧ ofMap? canonical = some operator) ∧
      ∀ value form, canonicalForm? value = some form → canonicalForm? form = some form := by
  refine ⟨exists_ofMap?_iff ascending, ofValue?_toValue, fun operator read => ?_,
    fun value form => canonicalForm?_again⟩
  obtain ⟨canonical, completes⟩ := completes_of_ofMap? ascending read
  have again := ofValue?_toValue operator
  rw [completes.written] at again
  exact ⟨canonical, completes, again⟩

/-- A flag that is null is written as false. -/
theorem grammar_lawful_append :
    Entries.Ascending [("$append", Value.int 3), ("$unique", Value.null)] ∧
      IsRequest [("$append", .int 3), ("$unique", .null)] .append ∧
      Completes (.append (.int 3) false) [("$append", .int 3), ("$unique", .null)]
        [("$append", .int 3), ("$unique", .bool false)] := by
  have ascending : Entries.Ascending [("$append", Value.int 3), ("$unique", Value.null)] :=
    List.pairwise_pair.2 (by decide)
  obtain ⟨grammar, -, completes, -⟩ := grammar_lawful ascending
  obtain ⟨canonical, whole, -⟩ := completes (.append (.int 3) false) rfl
  obtain ⟨key, request⟩ := grammar.1 ⟨.append (.int 3) false, rfl⟩
  cases (request.sole .append).1 List.mem_cons_self
  cases whole.written
  exact ⟨ascending, request, whole⟩

end UpdateOperator

end DocumentSchema

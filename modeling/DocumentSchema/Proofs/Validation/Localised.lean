import DocumentSchema.Proofs.Traversal
import DocumentSchema.Proofs.Value.Dictionary
import DocumentSchema.Validation.Locale

/-!
Canonical localised texts.

A canonical localised text holds every registered locale and no other (`Localised.Canonical`). That
is what validation answers, and under the strategies that need no callback it accepts such a text as
it is.
-/

namespace DocumentSchema

namespace Localised

variable {config : Config} {registry : Registry} {entries given : Document} {v c : Value}

/-- The canonical localised texts: all registered locales with a text each, but for what the
strategy puts in the place of one that is not given. -/
def Canonical (config : Config) (registry : Registry) (entries : Document) : Prop :=
  Entries.Ascending entries ∧
    (∀ locale, Entries.hasKey entries locale = true ↔ locale ∈ config.locales) ∧
    (∃ text, Entries.get? entries config.primary = some (.str text)) ∧
    ∀ locale value, Entries.get? entries locale = some value →
      (∃ text, value = .str text) ∨
      (config.strategy = .noneValue ∧ value = .null) ∨
      ∃ name fallback given, config.strategy = .fallback name ∧
        registry.fallback? name = some fallback ∧ value = fallback given locale

/-! ## Given texts -/

/-- What may stand for a locale: a text, or null where the strategy writes it. -/
def MayStand (config : Config) (entry : String × Value) : Prop :=
  entry.1 ∈ config.locales ∧
    ((∃ text, entry.2 = .str text) ∨
      entry.2 = .null ∧ entry.1 ≠ config.primary ∧ config.strategy = .noneValue)

/-- The entries other than those with null. -/
def withoutNulls (entries : Document) : Document :=
  entries.filter fun entry => !entry.2.isNull

theorem mem_withoutNulls {entry : String × Value} :
    entry ∈ withoutNulls entries ↔ entry ∈ entries ∧ entry.2.isNull = false := by
  simp [withoutNulls]

theorem given?_eq_some_iff :
    given? config entries = some given ↔
      (∀ entry ∈ entries, MayStand config entry) ∧ given = withoutNulls entries := by
  induction entries generalizing given with
  | nil => simp [given?, withoutNulls, eq_comm]
  | cons entry rest ih =>
    obtain ⟨locale, value⟩ := entry
    have registered : config.isRegistered locale = true ↔ locale ∈ config.locales := by
      simp [Config.isRegistered]
    have each : (∀ entry ∈ (locale, value) :: rest, MayStand config entry) ↔
        MayStand config (locale, value) ∧ ∀ entry ∈ rest, MayStand config entry :=
      List.forall_mem_cons
    rw [each]
    cases value with
    | str text =>
      simp only [given?, Option.bind_eq_bind, Option.bind_eq_some_iff, guard_eq_some_iff,
        Option.pure_def, Option.some.injEq, ih, registered]
      constructor
      · intro h
        obtain ⟨-, member, others, ⟨stand, rfl⟩, rfl⟩ := h
        exact ⟨⟨⟨member, .inl ⟨text, rfl⟩⟩, stand⟩, rfl⟩
      · intro h
        obtain ⟨⟨⟨member, -⟩, stand⟩, rfl⟩ := h
        exact ⟨(), member, _, ⟨stand, rfl⟩, rfl⟩
    | null =>
      simp only [given?, Option.bind_eq_bind, Option.bind_eq_some_iff, guard_eq_some_iff, ih,
        registered]
      constructor
      · intro h
        obtain ⟨-, member, -, ⟨other, strategy⟩, stand, rfl⟩ := h
        exact ⟨⟨⟨member, .inr ⟨rfl, other, strategy⟩⟩, stand⟩, rfl⟩
      · intro h
        rcases h with ⟨⟨⟨member, ⟨text, ⟨⟩⟩ | ⟨-, other, strategy⟩⟩, stand⟩, rfl⟩
        exact ⟨(), member, (), ⟨other, strategy⟩, stand, rfl⟩
    | _ => simp [given?, MayStand]

/-- What is left of given entries without the nulls are texts of registered locales. -/
theorem text_of_get?_withoutNulls (stand : ∀ entry ∈ entries, MayStand config entry)
    {locale : String} (held : Entries.get? (withoutNulls entries) locale = some v) :
    locale ∈ config.locales ∧ ∃ text, v = .str text := by
  obtain ⟨member, notNull⟩ := mem_withoutNulls.1 (Entries.mem_of_get? held)
  rcases stand _ member with ⟨registered, isText | ⟨isNull, -⟩⟩
  · exact ⟨registered, isText⟩
  · rw [isNull] at notNull
    cases notNull

theorem get?_withoutNulls_of_str (ascending : Entries.Ascending entries) {locale text : String}
    (held : Entries.get? entries locale = some (.str text)) :
    Entries.get? (withoutNulls entries) locale = some (.str text) := by
  have kept : Entries.Ascending (withoutNulls entries) := ascending.sublist List.filter_sublist
  exact kept.get?_of_mem (mem_withoutNulls.2 ⟨Entries.mem_of_get? held, rfl⟩)

theorem get?_withoutNulls_of_null (ascending : Entries.Ascending entries) {locale : String}
    (held : Entries.get? entries locale = some .null) :
    Entries.get? (withoutNulls entries) locale = none := by
  rw [Option.eq_none_iff_forall_ne_some]
  intro value present
  obtain ⟨member, notNull⟩ := mem_withoutNulls.1 (Entries.mem_of_get? present)
  rw [ascending.get?_of_mem member] at held
  cases held
  cases notNull

/-! ## Acceptance -/

theorem forall₂_named_iff (named : String → Value → Prop) {names : List String}
    {pairs : List (String × Value)} :
    List.Forall₂ (fun name pair => named name pair.2 ∧ (name, pair.2) = pair) names pairs ↔
      Entries.keys pairs = names ∧ ∀ pair ∈ pairs, named pair.1 pair.2 := by
  induction pairs generalizing names with
  | nil => cases names <;> simp [Entries.keys]
  | cons pair rest ih =>
    obtain ⟨name, value⟩ := pair
    cases names with
    | nil => simp [Entries.keys]
    | cons first others =>
      simp only [List.forall₂_cons, ih, Entries.keys, List.map_cons, List.cons.injEq,
        List.forall_mem_cons, Prod.mk.injEq, and_true]
      constructor
      · intro h
        obtain ⟨⟨held, rfl⟩, rfl, each⟩ := h
        exact ⟨⟨rfl, rfl⟩, held, each⟩
      · intro h
        obtain ⟨⟨rfl, rfl⟩, held, each⟩ := h
        exact ⟨⟨held, rfl⟩, rfl, each⟩

/-- Names that each have a value are the names of pairs. -/
theorem exists_named (named : String → Value → Prop) {names : List String}
    (each : ∀ name ∈ names, ∃ value, named name value) :
    ∃ pairs : List (String × Value), Entries.keys pairs = names ∧
      ∀ pair ∈ pairs, named pair.1 pair.2 := by
  obtain ⟨pairs, matching⟩ := exists_forall₂
    (r := fun name (pair : String × Value) => named name pair.2 ∧ (name, pair.2) = pair)
    fun name member => by
      obtain ⟨value, held⟩ := each name member
      exact ⟨(name, value), held, rfl⟩
  exact ⟨pairs, (forall₂_named_iff named).1 matching⟩

theorem accept_eq_some_iff :
    accept config registry v = some c ↔
      ∃ entries given pairs, v = .map entries ∧ given? config entries = some given ∧
        Entries.hasKey given config.primary = true ∧ c = .map (Entries.ofList pairs) ∧
        Entries.keys pairs = config.locales ∧
        ∀ pair ∈ pairs, localeValue? config registry given pair.1 = some pair.2 := by
  rw [accept]
  cases v with
  | map entries =>
    simp only [Value.map?, Option.bind_eq_bind, Option.bind_some, Option.bind_eq_some_iff,
      guard_eq_some_iff, Option.pure_def, Option.some.injEq, Value.map.injEq,
      option_mapM_eq_some_iff]
    have pairwise (given : Document) (locale : String) (pair : String × Value) :
        (∃ text, localeValue? config registry given locale = some text ∧ (locale, text) = pair) ↔
          localeValue? config registry given locale = some pair.2 ∧ (locale, pair.2) = pair := by
      constructor
      · intro h
        obtain ⟨text, found, rfl⟩ := h
        exact ⟨found, rfl⟩
      · intro h
        obtain ⟨found, same⟩ := h
        exact ⟨_, found, same⟩
    simp only [pairwise]
    constructor
    · intro h
      obtain ⟨given, found, -, present, pairs, each, rfl⟩ := h
      exact ⟨entries, given, pairs, rfl, found, present, rfl,
        (forall₂_named_iff fun locale value =>
          localeValue? config registry given locale = some value).1 each⟩
    · intro h
      obtain ⟨_, given, pairs, rfl, found, present, rfl, each⟩ := h
      exact ⟨given, found, (), present, pairs,
        (forall₂_named_iff fun locale value =>
          localeValue? config registry given locale = some value).2 each, rfl⟩
  | _ => simp [Value.map?]

/-- Where no callback fills in locales, every locale has a value beside a given primary text. -/
theorem exists_localeValue (noFallback : ∀ name, config.strategy ≠ .fallback name)
    (present : Entries.hasKey given config.primary = true) (locale : String) :
    ∃ value, localeValue? config registry given locale = some value := by
  unfold localeValue? fill?
  split
  · next text _ => exact ⟨text, rfl⟩
  · split
    · exact ⟨.null, rfl⟩
    · exact Entries.hasKey_iff_exists.1 present
    · next name strategy => exact absurd strategy (noFallback name)

/-- A localised text stays one when a registered locale gets another text. -/
theorem accept_insert (noFallback : ∀ name, config.strategy ≠ .fallback name)
    (accepted : accept config registry (.map entries) = some c) {locale : String}
    (registered : locale ∈ config.locales) (text : String) :
    ∃ c', accept config registry (.map (Entries.insert locale (.str text) entries)) = some c' := by
  obtain ⟨_, given, _, ⟨⟩, found, present, -⟩ := accept_eq_some_iff.1 accepted
  obtain ⟨stand, rfl⟩ := given?_eq_some_iff.1 found
  let changed := Entries.insert locale (.str text) entries
  have stand' : ∀ entry ∈ changed, MayStand config entry := by
    intro entry member
    rcases Entries.mem_insert member with rfl | before
    · exact ⟨registered, .inl ⟨text, rfl⟩⟩
    · exact stand entry before
  have present' : Entries.hasKey (withoutNulls changed) config.primary = true := by
    rw [Entries.hasKey_iff_mem]
    by_cases same : config.primary = locale
    · have inserted := Entries.mem_of_get? (Entries.get?_insert_self locale (.str text) entries)
      exact List.mem_map.2 ⟨_, mem_withoutNulls.2 ⟨inserted, rfl⟩, same.symm⟩
    · obtain ⟨entry, member, key⟩ := List.mem_map.1 (Entries.hasKey_iff_mem.1 present)
      obtain ⟨held, notNull⟩ := mem_withoutNulls.1 member
      have kept : entry ∈ changed := Entries.mem_insert_of_ne held (key.symm ▸ same)
      exact List.mem_map.2 ⟨entry, mem_withoutNulls.2 ⟨kept, notNull⟩, key⟩
  obtain ⟨pairs, named⟩ := exists_named
    (fun locale value => localeValue? config registry (withoutNulls changed) locale = some value)
    fun locale (_ : locale ∈ config.locales) => exists_localeValue noFallback present' locale
  exact ⟨_, accept_eq_some_iff.2 ⟨changed, _, pairs, rfl, given?_eq_some_iff.2 ⟨stand', rfl⟩,
    present', rfl, named⟩⟩

/-! ## Canonical texts -/

/-- What stands for a locale is a given value, or what the strategy puts in its place. -/
theorem get?_or_of_localeValue? {locale : String}
    (standing : localeValue? config registry given locale = some v) :
    (∃ source, Entries.get? given source = some v) ∨
      (config.strategy = .noneValue ∧ v = .null) ∨
      ∃ name fallback, config.strategy = .fallback name ∧
        registry.fallback? name = some fallback ∧ v = fallback given locale := by
  unfold localeValue? at standing
  split at standing
  · next text isGiven =>
    cases standing
    exact .inl ⟨locale, isGiven⟩
  · unfold fill? at standing
    split at standing
    · next strategy =>
      cases standing
      exact .inr (.inl ⟨strategy, rfl⟩)
    · exact .inl ⟨config.primary, standing⟩
    · next name strategy =>
      obtain ⟨fallback, registered, rfl⟩ := Option.map_eq_some_iff.1 standing
      exact .inr (.inr ⟨name, fallback, strategy, registered, rfl⟩)

theorem canonical_of_accept (accepted : accept config registry v = some c) :
    ∃ entries, c = .map entries ∧ Canonical config registry entries := by
  obtain ⟨entries, given, pairs, rfl, found, present, rfl, names, each⟩ :=
    accept_eq_some_iff.1 accepted
  obtain ⟨stand, rfl⟩ := given?_eq_some_iff.1 found
  have standing {locale : String} {value : Value}
      (held : Entries.get? (Entries.ofList pairs) locale = some value) :
      localeValue? config registry (withoutNulls entries) locale = some value :=
    each _ (Entries.mem_of_mem_ofList (Entries.mem_of_get? held))
  have hasKey (locale : String) :
      Entries.hasKey (Entries.ofList pairs) locale = true ↔ locale ∈ config.locales := by
    rw [Entries.hasKey_ofList, names]
  refine ⟨_, rfl, Entries.ascending_ofList pairs, hasKey, ?_, ?_⟩
  · obtain ⟨value, primary⟩ := Entries.hasKey_iff_exists.1 present
    obtain ⟨registered, text, rfl⟩ := text_of_get?_withoutNulls stand primary
    obtain ⟨value, held⟩ := Entries.hasKey_iff_exists.1 ((hasKey _).2 registered)
    have ofPrimary := standing held
    rw [localeValue?, primary] at ofPrimary
    cases ofPrimary
    exact ⟨text, held⟩
  · intro locale value held
    rcases get?_or_of_localeValue? (standing held) with ⟨_, isGiven⟩ | isNull | isFallback
    · exact .inl (text_of_get?_withoutNulls stand isGiven).2
    · exact .inr (.inl isNull)
    · obtain ⟨name, fallback, strategy, registered, same⟩ := isFallback
      exact .inr (.inr ⟨name, fallback, _, strategy, registered, same⟩)

namespace Canonical

/-- The entries of a canonical localised text may all be given. -/
theorem mayStand (canonical : Canonical config registry entries)
    (noFallback : ∀ name, config.strategy ≠ .fallback name) :
    ∀ entry ∈ entries, MayStand config entry := by
  obtain ⟨ascending, hasKey, ⟨primaryText, primary⟩, each⟩ := canonical
  intro entry member
  obtain ⟨locale, value⟩ := entry
  have held := ascending.get?_of_mem member
  refine ⟨(hasKey locale).1 (Entries.hasKey_iff_exists.2 ⟨value, held⟩), ?_⟩
  rcases each locale value held with isText | ⟨strategy, rfl⟩ | ⟨name, _, _, fallback, -⟩
  · exact .inl isText
  · refine .inr ⟨rfl, ?_, strategy⟩
    intro same
    subst same
    rw [primary] at held
    cases held
  · exact absurd fallback (noFallback name)

/-- The value of a locale in a canonical localised text is what stands for that locale. -/
theorem localeValue?_eq (canonical : Canonical config registry entries)
    (noFallback : ∀ name, config.strategy ≠ .fallback name) {locale : String}
    (held : Entries.get? entries locale = some v) :
    localeValue? config registry (withoutNulls entries) locale = some v := by
  obtain ⟨ascending, -, -, each⟩ := canonical
  unfold localeValue?
  rcases each locale v held with ⟨text, rfl⟩ | ⟨strategy, rfl⟩ | ⟨name, _, _, fallback, -⟩
  · rw [get?_withoutNulls_of_str ascending held]
  · rw [get?_withoutNulls_of_null ascending held, fill?, strategy]
  · exact absurd fallback (noFallback name)

end Canonical

/-- Where no callback fills in locales, a canonical localised text is accepted as it is. -/
theorem accept_of_canonical (noFallback : ∀ name, config.strategy ≠ .fallback name)
    (canonical : Canonical config registry entries) :
    accept config registry (.map entries) = some (.map entries) := by
  have stand := canonical.mayStand noFallback
  have standing {locale : String} {value : Value}
      (held : Entries.get? entries locale = some value) :
      localeValue? config registry (withoutNulls entries) locale = some value :=
    canonical.localeValue?_eq noFallback held
  obtain ⟨ascending, hasKey, ⟨primaryText, primary⟩, -⟩ := canonical
  obtain ⟨pairs, names, found⟩ := exists_named
    (fun locale value => Entries.get? entries locale = some value)
    fun locale (registered : locale ∈ config.locales) =>
      Entries.hasKey_iff_exists.1 ((hasKey locale).2 registered)
  refine accept_eq_some_iff.2 ⟨entries, _, pairs, rfl, given?_eq_some_iff.2 ⟨stand, rfl⟩,
    Entries.hasKey_iff_exists.2 ⟨_, get?_withoutNulls_of_str ascending primary⟩, ?_, names,
    fun pair member => standing (found pair member)⟩
  congr 1
  apply Entries.eq_of_get?_eq ascending (Entries.ascending_ofList pairs)
  intro locale
  cases held : Entries.get? (Entries.ofList pairs) locale with
  | some value => exact found _ (Entries.mem_of_mem_ofList (Entries.mem_of_get? held))
  | none =>
    rw [Entries.get?_eq_none_iff, ← Entries.hasKey_iff_mem, Entries.hasKey_ofList, names] at held
    rw [Entries.get?_eq_none_iff, ← Entries.hasKey_iff_mem, hasKey]
    exact held

end Localised

end DocumentSchema

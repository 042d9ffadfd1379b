import DocumentSchema.Proofs.Validation.Localised
import DocumentSchema.Proofs.Value.Order

/-!
How localised texts are filled in.

A map is a localised text when its keys are registered locales with a text each, the primary locale
among them, but for nulls where the strategy writes nulls (`Localised.IsLocalised`). It is filled in
from the given texts alone: each registered locale gets what stands for it
(`Localised.StandsFor`), whatever is put in the place of other locales and in whatever order the
locales are registered. A filled text is filled in already (`Localised.accept_lawful`).
-/

namespace DocumentSchema.Localised

variable {config : Config} {registry : Registry} {entries filled : Document} {locale : String}
  {v c a b : Value}

/-! ## What is accepted and what it becomes -/

/-- A text is given for a locale. -/
def Given (entries : Document) (locale : String) : Prop :=
  ∃ text, Entries.get? entries locale = some (.str text)

/-- The maps that are localised texts. Where a callback fills in locales, it is registered or has
nothing to do. -/
structure IsLocalised (config : Config) (registry : Registry) (entries : Document) : Prop where
  registered : ∀ locale, Entries.hasKey entries locale = true → locale ∈ config.locales
  primary : Given entries config.primary
  others : ∀ locale value, Entries.get? entries locale = some value →
    (∃ text, value = .str text) ∨ config.strategy = .noneValue ∧ value = .null
  callback : ∀ name, config.strategy = .fallback name →
    (∃ fallback, registry.fallback? name = some fallback) ∨
      ∀ locale ∈ config.locales, Given entries locale

/-- What stands for a locale in the canonical form: the given text, or what the strategy makes of
the given texts. -/
inductive StandsFor (config : Config) (registry : Registry) (entries : Document)
    (locale : String) : Value → Prop
  | given {text : String} : Entries.get? entries locale = some (.str text) →
    StandsFor config registry entries locale (.str text)
  | null : ¬Given entries locale → config.strategy = .noneValue →
    StandsFor config registry entries locale .null
  | primary {text : String} : ¬Given entries locale → config.strategy = .primaryLocale →
    Entries.get? entries config.primary = some (.str text) →
    StandsFor config registry entries locale (.str text)
  | callback {name : String} {fallback : Fallback} : ¬Given entries locale →
    config.strategy = .fallback name → registry.fallback? name = some fallback →
    StandsFor config registry entries locale (fallback entries locale)

/-- The canonical form of a localised text: exactly the registered locales, each with what stands
for it. -/
structure Fills (config : Config) (registry : Registry) (entries filled : Document) : Prop where
  ascending : Entries.Ascending filled
  keys : ∀ locale, Entries.hasKey filled locale = true ↔ locale ∈ config.locales
  stands : ∀ locale value, Entries.get? filled locale = some value →
    StandsFor config registry entries locale value

theorem StandsFor.unique (left : StandsFor config registry entries locale a)
    (right : StandsFor config registry entries locale b) : a = b := by
  cases left with
  | given held =>
    cases right with
    | given held' => exact Option.some.inj (held.symm.trans held')
    | null missing => exact absurd ⟨_, held⟩ missing
    | primary missing => exact absurd ⟨_, held⟩ missing
    | callback missing => exact absurd ⟨_, held⟩ missing
  | null missing strategy =>
    cases right with
    | given held => exact absurd ⟨_, held⟩ missing
    | null => rfl
    | primary _ strategy' => cases strategy.symm.trans strategy'
    | callback _ strategy' => cases strategy.symm.trans strategy'
  | primary missing strategy held =>
    cases right with
    | given held => exact absurd ⟨_, held⟩ missing
    | null _ strategy' => cases strategy.symm.trans strategy'
    | primary _ _ held' => exact Option.some.inj (held.symm.trans held')
    | callback _ strategy' => cases strategy.symm.trans strategy'
  | callback missing strategy found =>
    cases right with
    | given held => exact absurd ⟨_, held⟩ missing
    | null _ strategy' => cases strategy.symm.trans strategy'
    | primary _ strategy' => cases strategy.symm.trans strategy'
    | callback _ strategy' found' =>
      cases strategy.symm.trans strategy'
      cases found.symm.trans found'
      rfl

/-- There is one canonical form. -/
theorem Fills.unique {other : Document} (left : Fills config registry entries filled)
    (right : Fills config registry entries other) : filled = other := by
  apply Entries.eq_of_get?_eq left.ascending right.ascending
  intro locale
  have keys : Entries.hasKey filled locale = Entries.hasKey other locale := by
    rw [Bool.eq_iff_iff, left.keys, right.keys]
  cases held : Entries.get? filled locale with
  | none =>
    rw [Entries.hasKey, held, Entries.hasKey] at keys
    exact (Option.isNone_iff_eq_none.1 (by simpa using keys)).symm
  | some value =>
    obtain ⟨value', held'⟩ : ∃ value', Entries.get? other locale = some value' :=
      Entries.hasKey_iff_exists.1 (keys ▸ Entries.hasKey_iff_exists.2 ⟨value, held⟩)
    rw [held', (left.stands _ _ held).unique (right.stands _ _ held')]

/-! ## The checks -/

section Given

variable (ascending : Entries.Ascending entries)
include ascending

theorem get?_withoutNulls_eq_some_iff (stand : ∀ entry ∈ entries, MayStand config entry) :
    Entries.get? (withoutNulls entries) locale = some v ↔
      ∃ text, v = .str text ∧ Entries.get? entries locale = some (.str text) := by
  constructor
  · intro held
    obtain ⟨-, text, rfl⟩ := text_of_get?_withoutNulls stand held
    have member := (mem_withoutNulls.1 (Entries.mem_of_get? held)).1
    exact ⟨text, rfl, ascending.get?_of_mem member⟩
  · rintro ⟨text, rfl, held⟩
    exact get?_withoutNulls_of_str ascending held

/-- A map passes the checks of its entries exactly if they are what may stand in a localised text,
with a text for the primary locale. -/
theorem mayStand_iff :
    (∀ entry ∈ entries, MayStand config entry) ∧
        Entries.hasKey (withoutNulls entries) config.primary = true ↔
      (∀ locale, Entries.hasKey entries locale = true → locale ∈ config.locales) ∧
        Given entries config.primary ∧
        ∀ locale value, Entries.get? entries locale = some value →
          (∃ text, value = .str text) ∨ config.strategy = .noneValue ∧ value = .null := by
  constructor
  · rintro ⟨stand, present⟩
    refine ⟨fun locale held => ?_, ?_, fun locale value held => ?_⟩
    · obtain ⟨value, held⟩ := Entries.hasKey_iff_exists.1 held
      exact (stand _ (Entries.mem_of_get? held)).1
    · obtain ⟨value, held⟩ := Entries.hasKey_iff_exists.1 present
      obtain ⟨text, rfl, given⟩ := (get?_withoutNulls_eq_some_iff ascending stand).1 held
      exact ⟨text, given⟩
    · rcases (stand _ (Entries.mem_of_get? held)).2 with isText | ⟨isNull, -, strategy⟩
      · exact .inl isText
      · exact .inr ⟨strategy, isNull⟩
  · rintro ⟨registered, ⟨text, primary⟩, others⟩
    refine ⟨fun entry member => ?_, ?_⟩
    · have held := ascending.get?_of_mem member
      refine ⟨registered _ (Entries.hasKey_iff_exists.2 ⟨_, held⟩), ?_⟩
      rcases others _ _ held with isText | ⟨strategy, isNull⟩
      · exact .inl isText
      · refine .inr ⟨isNull, fun same => ?_, strategy⟩
        rw [same, primary, isNull] at held
        cases held
    · exact Entries.hasKey_iff_exists.2 ⟨_, get?_withoutNulls_of_str ascending primary⟩

/-- The value of a locale is what stands for it. -/
theorem localeValue?_eq_some_iff (stand : ∀ entry ∈ entries, MayStand config entry) :
    localeValue? config registry (withoutNulls entries) locale = some v ↔
      StandsFor config registry entries locale v := by
  have missing (none : Entries.get? (withoutNulls entries) locale = none) :
      ¬Given entries locale := by
    rintro ⟨text, held⟩
    rw [get?_withoutNulls_of_str ascending held] at none
    cases none
  -- without nulls to leave out, a callback is given the map as it is
  have whole {name : String} (strategy : config.strategy = .fallback name) :
      withoutNulls entries = entries := by
    refine List.filter_eq_self.2 fun entry member => ?_
    rcases (stand entry member).2 with ⟨text, isText⟩ | ⟨-, -, noneValue⟩
    · rw [isText]
      rfl
    · cases strategy.symm.trans noneValue
  constructor
  · intro found
    unfold localeValue? at found
    split at found
    · next value kept =>
      cases found
      obtain ⟨text, rfl, held⟩ := (get?_withoutNulls_eq_some_iff ascending stand).1 kept
      exact .given held
    · next none =>
      unfold fill? at found
      split at found
      · next strategy =>
        cases found
        exact .null (missing none) strategy
      · next strategy =>
        obtain ⟨text, rfl, held⟩ := (get?_withoutNulls_eq_some_iff ascending stand).1 found
        exact .primary (missing none) strategy held
      · next name strategy =>
        obtain ⟨fallback, callback, rfl⟩ := Option.map_eq_some_iff.1 found
        rw [whole strategy]
        exact .callback (missing none) strategy callback
  · intro stands
    have absent (missing : ¬Given entries locale) :
        Entries.get? (withoutNulls entries) locale = none := by
      rw [Option.eq_none_iff_forall_ne_some]
      intro value held
      obtain ⟨text, -, held⟩ := (get?_withoutNulls_eq_some_iff ascending stand).1 held
      exact missing ⟨text, held⟩
    cases stands with
    | given held => rw [localeValue?, get?_withoutNulls_of_str ascending held]
    | null missing strategy => rw [localeValue?, absent missing, fill?, strategy]
    | primary missing strategy held =>
      rw [localeValue?, absent missing, fill?, strategy]
      exact get?_withoutNulls_of_str ascending held
    | callback missing strategy callback =>
      rw [localeValue?, absent missing, fill?, strategy]
      simp only [callback, Option.map_some, whole strategy]

end Given

/-- A localised text has something to stand for each registered locale. -/
theorem IsLocalised.exists_standsFor (localised : IsLocalised config registry entries)
    (member : locale ∈ config.locales) :
    ∃ value, StandsFor config registry entries locale value := by
  by_cases given : Given entries locale
  · obtain ⟨text, held⟩ := given
    exact ⟨.str text, .given held⟩
  · cases strategy : config.strategy with
    | noneValue => exact ⟨.null, .null given strategy⟩
    | primaryLocale =>
      obtain ⟨text, held⟩ := localised.primary
      exact ⟨.str text, .primary given strategy held⟩
    | fallback name =>
      rcases localised.callback name strategy with ⟨fallback, callback⟩ | all
      · exact ⟨_, .callback given strategy callback⟩
      · exact absurd (all locale member) given

/-- A localised text has a canonical form. -/
theorem IsLocalised.exists_fills (localised : IsLocalised config registry entries) :
    ∃ filled, Fills config registry entries filled := by
  obtain ⟨pairs, names, each⟩ := exists_named (StandsFor config registry entries)
    fun locale (member : locale ∈ config.locales) => localised.exists_standsFor member
  exact ⟨Entries.ofList pairs, Entries.ascending_ofList pairs,
    fun locale => by rw [Entries.hasKey_ofList, names],
    fun locale value held => each _ (Entries.mem_of_mem_ofList (Entries.mem_of_get? held))⟩

/-- Exactly the localised texts are accepted, each as its canonical form. -/
theorem accept_map_eq_some_iff (ascending : Entries.Ascending entries) :
    accept config registry (.map entries) = some c ↔
      IsLocalised config registry entries ∧
        ∃ filled, c = .map filled ∧ Fills config registry entries filled := by
  rw [accept_eq_some_iff]
  constructor
  · rintro ⟨_, given, pairs, ⟨⟩, found, present, rfl, names, each⟩
    obtain ⟨stand, rfl⟩ := given?_eq_some_iff.1 found
    obtain ⟨registered, primary, others⟩ := (mayStand_iff ascending).1 ⟨stand, present⟩
    have keys (locale : String) :
        Entries.hasKey (Entries.ofList pairs) locale = true ↔ locale ∈ config.locales := by
      rw [Entries.hasKey_ofList, names]
    have stands (locale : String) (value : Value)
        (held : Entries.get? (Entries.ofList pairs) locale = some value) :
        StandsFor config registry entries locale value :=
      (localeValue?_eq_some_iff ascending stand).1
        (each _ (Entries.mem_of_mem_ofList (Entries.mem_of_get? held)))
    refine ⟨⟨registered, primary, others, fun name strategy => ?_⟩, _, rfl,
      Entries.ascending_ofList pairs, keys, stands⟩
    by_cases callback : ∃ fallback, registry.fallback? name = some fallback
    · exact .inl callback
    · refine .inr fun locale member => ?_
      obtain ⟨value, held⟩ := Entries.hasKey_iff_exists.1 ((keys locale).2 member)
      cases stands locale value held with
      | given given => exact ⟨_, given⟩
      | null _ strategy' => cases strategy.symm.trans strategy'
      | primary _ strategy' => cases strategy.symm.trans strategy'
      | callback _ strategy' found =>
        cases strategy.symm.trans strategy'
        exact absurd ⟨_, found⟩ callback
  · rintro ⟨localised, filled, rfl, fills⟩
    obtain ⟨stand, present⟩ := (mayStand_iff ascending).2
      ⟨localised.registered, localised.primary, localised.others⟩
    obtain ⟨pairs, names, each⟩ := exists_named (StandsFor config registry entries)
      fun locale (member : locale ∈ config.locales) => localised.exists_standsFor member
    have same : Fills config registry entries (Entries.ofList pairs) :=
      ⟨Entries.ascending_ofList pairs, fun locale => by rw [Entries.hasKey_ofList, names],
        fun locale value held => each _ (Entries.mem_of_mem_ofList (Entries.mem_of_get? held))⟩
    exact ⟨entries, _, pairs, rfl, given?_eq_some_iff.2 ⟨stand, rfl⟩, present,
      congrArg Value.map (fills.unique same), names, fun pair member =>
        (localeValue?_eq_some_iff ascending stand).2 (each pair member)⟩

/-! ## Laws -/

/-- What stands for a locale does not depend on which locales are registered. -/
theorem standsFor_of_locales (locales : List String)
    (stands : StandsFor config registry entries locale v) :
    StandsFor { config with locales } registry entries locale v := by
  cases stands with
  | given held => exact .given held
  | null missing strategy => exact .null missing strategy
  | primary missing strategy held => exact .primary missing strategy held
  | callback missing strategy found => exact .callback missing strategy found

/-- A map stays a localised text with the same canonical form when its locales are registered in
another order. -/
theorem accept_of_same_locales (config : Config) {locales : List String}
    (same : ∀ locale, locale ∈ locales ↔ locale ∈ config.locales) (ordered : v.Ordered)
    (accepted : accept config registry v = some c) :
    accept { config with locales } registry v = some c := by
  obtain ⟨entries, -, -, rfl, -⟩ := accept_eq_some_iff.1 accepted
  obtain ⟨localised, filled, rfl, fills⟩ := (accept_map_eq_some_iff ordered.ascending).1 accepted
  refine (accept_map_eq_some_iff ordered.ascending).2 ⟨⟨fun locale held => ?_, localised.primary,
    localised.others, fun name strategy => ?_⟩, filled, rfl, fills.ascending, fun locale => ?_,
    fun locale value held => standsFor_of_locales locales (fills.stands locale value held)⟩
  · exact (same locale).2 (localised.registered locale held)
  · exact (localised.callback name strategy).imp_right fun all locale member =>
      all locale ((same locale).1 member)
  · rw [fills.keys]
    exact (same locale).symm

/-- A canonical form is a localised text, and its own canonical form, as long as callbacks make
texts. -/
theorem accept_of_fills (localised : IsLocalised config registry entries)
    (fills : Fills config registry entries filled)
    (texts : ∀ name fallback, config.strategy = .fallback name →
      registry.fallback? name = some fallback → ∀ given locale, ∃ text,
        fallback given locale = .str text) :
    accept config registry (.map filled) = some (.map filled) := by
  have text (locale : String) (value : Value) (held : Entries.get? filled locale = some value) :
      (∃ text, value = .str text) ∨ config.strategy = .noneValue ∧ value = .null := by
    cases fills.stands locale value held with
    | given => exact .inl ⟨_, rfl⟩
    | null _ strategy => exact .inr ⟨strategy, rfl⟩
    | primary => exact .inl ⟨_, rfl⟩
    | callback _ strategy found => exact .inl (texts _ _ strategy found _ _)
  obtain ⟨primaryText, primary⟩ := localised.primary
  have registered := localised.registered _ (Entries.hasKey_iff_exists.2 ⟨_, primary⟩)
  obtain ⟨value, held⟩ := Entries.hasKey_iff_exists.1 ((fills.keys _).2 registered)
  cases (fills.stands _ _ held).unique (.given primary)
  refine (accept_map_eq_some_iff fills.ascending).2 ⟨⟨fun locale => (fills.keys locale).1,
    ⟨primaryText, held⟩, text, fun name strategy => .inr fun locale member => ?_⟩,
    filled, rfl, fills.ascending, fills.keys, fun locale value held => ?_⟩
  · obtain ⟨value, held⟩ := Entries.hasKey_iff_exists.1 ((fills.keys locale).2 member)
    rcases text locale value held with ⟨text, rfl⟩ | ⟨strategy', -⟩
    · exact ⟨text, held⟩
    · cases strategy.symm.trans strategy'
  · rcases text locale value held with ⟨text, rfl⟩ | ⟨strategy, rfl⟩
    · exact .given held
    · refine .null (fun given => ?_) strategy
      obtain ⟨text, held'⟩ := given
      cases held.symm.trans held'

/-- Exactly the maps that are localised texts are accepted. The canonical form has exactly the
registered locales, each with what stands for it; the order in which they are registered makes no
difference; and it is its own canonical form, as long as callbacks make texts. -/
theorem accept_lawful (config : Config) (registry : Registry) (ordered : v.Ordered) :
    ((∃ c, accept config registry v = some c) ↔
      ∃ entries, v = .map entries ∧ IsLocalised config registry entries) ∧
    (∀ c, accept config registry v = some c →
      ∃ entries filled, v = .map entries ∧ c = .map filled ∧
        Fills config registry entries filled) ∧
    (∀ locales, (∀ locale, locale ∈ locales ↔ locale ∈ config.locales) →
      accept { config with locales } registry v = accept config registry v) ∧
    ((∀ name fallback, config.strategy = .fallback name →
      registry.fallback? name = some fallback → ∀ given locale, ∃ text,
        fallback given locale = .str text) →
      ∀ c, accept config registry v = some c → accept config registry c = some c) := by
  have ofAccept {c : Value} (accepted : accept config registry v = some c) :
      ∃ entries filled, v = .map entries ∧ c = .map filled ∧
        IsLocalised config registry entries ∧ Fills config registry entries filled := by
    obtain ⟨entries, -, -, rfl, -⟩ := accept_eq_some_iff.1 accepted
    obtain ⟨localised, filled, rfl, fills⟩ :=
      (accept_map_eq_some_iff ordered.ascending).1 accepted
    exact ⟨entries, filled, rfl, rfl, localised, fills⟩
  refine ⟨⟨?_, ?_⟩, fun c accepted => ?_, fun locales same => ?_, fun texts c accepted => ?_⟩
  · rintro ⟨c, accepted⟩
    obtain ⟨entries, -, isMap, -, localised, -⟩ := ofAccept accepted
    exact ⟨entries, isMap, localised⟩
  · rintro ⟨entries, rfl, localised⟩
    obtain ⟨filled, fills⟩ := localised.exists_fills
    exact ⟨_, (accept_map_eq_some_iff ordered.ascending).2 ⟨localised, filled, rfl, fills⟩⟩
  · obtain ⟨entries, filled, isMap, isFilled, -, fills⟩ := ofAccept accepted
    exact ⟨entries, filled, isMap, isFilled, fills⟩
  · ext c
    have back (locale : String) : locale ∈ config.locales ↔ locale ∈ locales :=
      (same locale).symm
    exact ⟨accept_of_same_locales { config with locales } back ordered,
      accept_of_same_locales config same ordered⟩
  · obtain ⟨entries, filled, rfl, rfl, localised, fills⟩ := ofAccept accepted
    exact accept_of_fills localised fills texts

/-- Greetings in three languages, of which the callback `"tagged"` makes those that are missing. -/
def greetings : Config :=
  ⟨["en", "fr", "ar"], "en", .fallback "tagged"⟩

/-- The callback writes the code of the language in front of the English text. -/
def tagging : Registry :=
  { Registry.empty with fallbacks := [("tagged", fun given locale =>
      .str (locale ++ ": " ++ ((Entries.get? given "en").bind Value.str?).getD ""))] }

/-- Missing greetings are made from the English one, and those that are made stay. -/
theorem accept_lawful_greetings :
    (Value.map [("en", .str "hi")]).Ordered ∧
      IsLocalised greetings tagging [("en", .str "hi")] ∧
      accept greetings tagging (.map [("en", .str "hi")]) =
        some (.map [("ar", .str "ar: hi"), ("en", .str "hi"), ("fr", .str "fr: hi")]) ∧
      accept ⟨["fr", "ar", "en"], "en", .fallback "tagged"⟩ tagging (.map [("en", .str "hi")]) =
        some (.map [("ar", .str "ar: hi"), ("en", .str "hi"), ("fr", .str "fr: hi")]) ∧
      accept greetings tagging
          (.map [("ar", .str "ar: hi"), ("en", .str "hi"), ("fr", .str "fr: hi")]) =
        some (.map [("ar", .str "ar: hi"), ("en", .str "hi"), ("fr", .str "fr: hi")]) := by
  have ordered : (Value.map [("en", .str "hi")]).Ordered := by
    simp [Value.Ordered, Value.OrderedEntries, Entries.Ascending]
  have accepted : accept greetings tagging (.map [("en", .str "hi")]) =
      some (.map [("ar", .str "ar: hi"), ("en", .str "hi"), ("fr", .str "fr: hi")]) := by
    rfl
  obtain ⟨accepts, -, anyOrder, again⟩ := accept_lawful greetings tagging ordered
  obtain ⟨_, ⟨⟩, localised⟩ := accepts.1 ⟨_, accepted⟩
  have texts : ∀ name fallback, greetings.strategy = .fallback name →
      tagging.fallback? name = some fallback → ∀ given locale, ∃ text,
        fallback given locale = .str text := by
    rintro _ fallback ⟨⟩ ⟨⟩ given locale
    exact ⟨_, rfl⟩
  have same : ∀ locale, locale ∈ ["fr", "ar", "en"] ↔ locale ∈ greetings.locales := by
    intro locale
    simp only [greetings, List.mem_cons, List.not_mem_nil, or_false]
    tauto
  exact ⟨ordered, localised, accepted, (anyOrder _ same).trans accepted, again texts _ accepted⟩

end DocumentSchema.Localised

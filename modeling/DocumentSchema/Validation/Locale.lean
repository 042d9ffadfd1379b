import DocumentSchema.Schema.Registry

/-!
Localised texts.

A localised text is a map from registered locales to texts, the primary locale among them. Its
canonical form has every registered locale; those that were not given are filled in from the given
texts alone, as the configuration says.
-/

namespace DocumentSchema.Localised

/-- The given texts. Null stands for a locale that is not given, but for the primary one and under
the other strategies it is an error, as is a locale that is not registered. -/
def given? (config : Config) : Document → Option Document
  | [] => some []
  | (locale, value) :: rest => do
    guard (config.isRegistered locale)
    match value with
    | .str text => return (locale, .str text) :: (← given? config rest)
    | .null =>
      guard (locale ≠ config.primary ∧ config.strategy = .noneValue)
      given? config rest
    | _ => none

/-- The value of a locale that is not given. -/
def fill? (config : Config) (registry : Registry) (given : Document) (locale : String) :
    Option Value :=
  match config.strategy with
  | .noneValue => some .null
  | .primaryLocale => Entries.get? given config.primary
  | .fallback name => (registry.fallback? name).map fun fallback => fallback given locale

/-- The value of a locale: the given text, or else what fills it in. -/
def localeValue? (config : Config) (registry : Registry) (given : Document) (locale : String) :
    Option Value :=
  match Entries.get? given locale with
  | some text => some text
  | none => fill? config registry given locale

/-- The canonical form of a localised text. -/
def accept (config : Config) (registry : Registry) (value : Value) : Option Value := do
  let entries ← value.map?
  let given ← given? config entries
  guard (Entries.hasKey given config.primary)
  let pairs ← config.locales.mapM fun locale => do
    let text ← localeValue? config registry given locale
    return (locale, text)
  return .map (Entries.ofList pairs)

end DocumentSchema.Localised

import DocumentSchema.Json.Reader

/-!
Configuration of locales.

A configuration names the registered locales, the primary one among them, and the strategy that
fills in locales which a localised text lacks. `Config.ofText` reads the stored form, an object or
an array of its three parts, of which each has a default; `Config.validated` checks a configuration
and drops repeated locales.
-/

namespace DocumentSchema

/-- How locales that a localised text lacks are filled in: with null, with the text of the primary
locale, or by a registered callback. -/
inductive LocaleStrategy where
  | noneValue
  | primaryLocale
  | fallback (name : String)
  deriving DecidableEq

/-- A configuration: the registered locales, the primary one, and the strategy. -/
structure Config where
  locales : List String
  primary : String
  strategy : LocaleStrategy
  deriving DecidableEq

/-- What is wrong with a configuration. -/
inductive ConfigFlaw where
  | noLocales
  | badLocale (code : String)
  | unregisteredPrimary (code : String)
  | emptyFallback
  deriving DecidableEq

/-- Why a configuration cannot be used: its file cannot be read, its text has not the stored form,
or it makes no sense. -/
inductive ConfigError where
  | read
  | parse
  | invalid (flaw : ConfigFlaw)
  deriving DecidableEq

/-- The wording of a flaw. -/
def ConfigFlaw.text : ConfigFlaw → String
  | noLocales => "locales must not be empty"
  | badLocale code => "locale code '" ++ code ++ "' must be non-empty and contain no '.'"
  | unregisteredPrimary code => "primary locale '" ++ code ++ "' is not in locales"
  | emptyFallback => "empty locale fallback name"

/-- The wording of an error, without details of unreadable files and texts. -/
def ConfigError.message : ConfigError → String
  | read => "Failed to read config: no access"
  | parse => "Invalid config JSON: not the form of a configuration"
  | invalid flaw => "Invalid config: " ++ flaw.text

namespace Config

/-- The configuration used where none is given. -/
def initial : Config :=
  ⟨["en"], "en", .primaryLocale⟩

/-- Whether a locale is registered. -/
def isRegistered (config : Config) (locale : String) : Bool :=
  config.locales.contains locale

/-- Refuses a configuration without locales, with a code that is empty or holds a dot, with a
primary locale that is not registered, or with an empty name of a callback. -/
def validate (config : Config) : Except ConfigError Unit :=
  if config.locales.isEmpty then .error (.invalid .noLocales)
  else match config.locales.find? fun code => code.isEmpty || code.contains '.' with
    | some code => .error (.invalid (.badLocale code))
    | none =>
      if !config.isRegistered config.primary then
        .error (.invalid (.unregisteredPrimary config.primary))
      else if config.strategy = .fallback "" then .error (.invalid .emptyFallback)
      else .ok ()

/-- Each text once, where it occurs first. -/
def firstOccurrences (seen : List String) : List String → List String
  | [] => []
  | text :: rest =>
    if seen.contains text then firstOccurrences seen rest
    else text :: firstOccurrences (text :: seen) rest

/-- The configuration, if it makes sense, without repeated locales. -/
def validated (config : Config) : Except ConfigError Config := do
  config.validate
  return { config with locales := firstOccurrences [] config.locales }

/-- The configuration of some locales, the first being the primary one. -/
def ofLocales (locales : List String) : Except ConfigError Config :=
  match locales with
  | [] => .error (.invalid .noLocales)
  | first :: _ => validated ⟨locales, first, .primaryLocale⟩

/-- The same locales under another strategy. -/
def withStrategy (config : Config) (strategy : LocaleStrategy) : Config :=
  { config with strategy }

/-! ## Stored form -/

/-- The stored form of a strategy. -/
def strategyJson : LocaleStrategy → Json
  | .noneValue => .str "none_value"
  | .primaryLocale => .str "primary_locale"
  | .fallback name => .object [("fallback", .str name)]

/-- The stored form of a configuration, its parts in their usual order. -/
def toJson (config : Config) : Json :=
  .object [("locales", .array (config.locales.map .str)), ("locale", .str config.primary),
    ("locale_strategy", strategyJson config.strategy)]

/-- The text of a string. -/
def readText? : Json.Tree → Option String
  | .scalar (some (.str text)) => some text
  | _ => none

/-- The texts of an array of strings. -/
def readTexts? : Json.Tree → Option (List String)
  | .array items => items.mapM readText?
  | _ => none

/-- A strategy: its name, or an object with its name as the only member, whose value is null where
the strategy needs none. -/
def readStrategy? : Json.Tree → Option LocaleStrategy
  | .scalar (some (.str name)) =>
    if name = "none_value" then some .noneValue
    else if name = "primary_locale" then some .primaryLocale
    else none
  | .object [(some name, value)] =>
    match value with
    | .scalar (some .null) =>
      if name = "none_value" then some .noneValue
      else if name = "primary_locale" then some .primaryLocale
      else none
    | _ => if name = "fallback" then (readText? value).map .fallback else none
  | _ => none

/-- The parts of a stored configuration that are there. -/
structure Parts where
  locales : Option (List String)
  primary : Option String
  strategy : Option LocaleStrategy

namespace Parts

/-- The configuration of parts, defaults standing in for those that are not there. -/
def config (parts : Parts) : Config :=
  ⟨parts.locales.getD Config.initial.locales, parts.primary.getD Config.initial.primary,
    parts.strategy.getD Config.initial.strategy⟩

/-- Adds a member of an object: each part at most once, and other members without effect. -/
def addMember? (parts : Parts) (member : Option String × Json.Tree) : Option Parts := do
  let name ← member.1
  if name = "locales" then
    guard parts.locales.isNone
    return { parts with locales := some (← readTexts? member.2) }
  else if name = "locale" then
    guard parts.primary.isNone
    return { parts with primary := some (← readText? member.2) }
  else if name = "locale_strategy" then
    guard parts.strategy.isNone
    return { parts with strategy := some (← readStrategy? member.2) }
  else return parts

/-- The parts in the order of an array, which may end early. -/
def ofItems? : List Json.Tree → Option Parts
  | [] => some ⟨none, none, none⟩
  | [locales] => return ⟨some (← readTexts? locales), none, none⟩
  | [locales, primary] =>
    return ⟨some (← readTexts? locales), some (← readText? primary), none⟩
  | [locales, primary, strategy] =>
    return ⟨some (← readTexts? locales), some (← readText? primary),
      some (← readStrategy? strategy)⟩
  | _ => none

end Parts

/-- The configuration of a JSON text, not yet checked. -/
def ofTree? (tree : Json.Tree) : Option Config :=
  match tree with
  | .object members =>
    (members.foldlM Parts.addMember? ⟨none, none, none⟩).map Parts.config
  | .array items => (Parts.ofItems? items).map Parts.config
  | .scalar _ => none

/-- The checked configuration of the content of a file; `none` stands for a file that cannot be
read. -/
def ofText (content : Option String) : Except ConfigError Config := do
  let some text := content | .error .read
  let some tree := Json.treeOfText? text | .error .parse
  let some config := ofTree? tree | .error .parse
  config.validated

end Config

end DocumentSchema

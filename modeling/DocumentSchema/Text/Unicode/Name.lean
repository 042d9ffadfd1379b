import DocumentSchema.Text.Unicode.Age
import DocumentSchema.Text.Unicode.Script
import DocumentSchema.Text.Unicode.Segment

/-!
Sets of characters by name.

A set is named by a property, a category or a script, as in `Greek`, or as the characters that have
a value of some property, as in `Script=Greek`. Names are compared without regard to capitals,
blanks, hyphens and underscores, and a leading `is` does not count.
-/

namespace DocumentSchema.Text.Unicode

/-- The properties that have named values, by their own names. -/
def valuedProperties : List (List String × (String → Option CharSet)) :=
  [(["gc", "generalcategory"], category?),
    (["sc", "script"], script?),
    (["scx", "scriptextensions"], scriptExtension?),
    (["age"], age?),
    (["gcb", "graphemeclusterbreak"], graphemeBreak?),
    (["wb", "wordbreak"], wordBreak?),
    (["sb", "sentencebreak"], sentenceBreak?)]

/-- A name without capitals, blanks, hyphens, underscores and characters beyond ASCII. -/
def looseName (cs : List Char) : List Char :=
  (cs.filter fun c => c != ' ' && c != '_' && c != '-' && c.toNat < 0x80).map Char.toLower

/-- A name in the form in which it is compared: loose, and without a leading `is`. The name `isc`
keeps its `is`, as it is none of the category of other characters. -/
def comparedName (name : String) : String :=
  match name.toList with
  | a :: b :: rest =>
    if a.toLower = 'i' ∧ b.toLower = 's' then
      let rest := looseName rest
      String.ofList (if rest = ['c'] then ['i', 's', 'c'] else rest)
    else String.ofList (looseName (a :: b :: rest))
  | cs => String.ofList (looseName cs)

/-- The characters that a single name stands for: those of a property, else of a category, else of
a script. -/
def named? (name : String) : Option CharSet :=
  let name := comparedName name
  (lookUp? properties name).orElse fun _ => (category? name).orElse fun _ => script? name

/-- The characters for which a property has a value. -/
def valued? (property value : String) : Option CharSet := do
  let property := comparedName property
  let (_, find) ← valuedProperties.find? fun entry => entry.1.contains property
  find (comparedName value)

end DocumentSchema.Text.Unicode

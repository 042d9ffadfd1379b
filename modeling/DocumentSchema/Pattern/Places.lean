import DocumentSchema.Numeric.Power
import DocumentSchema.Pattern.Regex

/-!
Finding what an expression matches.

The places of a text are the gaps between its characters, from the one ahead of the first to the one
behind the last. `Route.reach` follows an expression from all places of a set at once and gives the
places at which its matches end, so that the work depends on the size of the expression and of the
text but not on the number of ways to match. `Regex.matchesWithin` decides with it whether some
stretch of a text matches.
-/

namespace DocumentSchema

/-- A set of places: the place behind `i` characters is in the set when bit `i` is one. -/
abbrev Places := Nat

namespace Places

/-- The places behind at most `count` characters. -/
def behindAtMost (count : Nat) : Places :=
  2 ^ (count + 1) - 1

/-- The places that are in the first set but not in the second. -/
def without (places others : Places) : Places :=
  places ^^^ (places &&& others)

/-- The places of a text at which the characters before and after pass a test. -/
def ofTest (test : Option Char → Option Char → Bool) (text : List Char) : Places :=
  go none 0 0 text
where
  /-- Goes on behind `count` characters with the places found until there. -/
  go (before : Option Char) (count : Nat) (found : Places) : List Char → Places
    | [] => if test before none then found ||| 1 <<< count else found
    | c :: rest =>
      go (some c) (count + 1) (if test before (some c) then found ||| 1 <<< count else found) rest

/-! ## Steps -/

/-- The places that are reached by exactly `count` steps. Where a step changes nothing, no further
one does. -/
def exactly (step : Places → Places) : Nat → Places → Places
  | 0, places => places
  | count + 1, places =>
    let next := step places
    if next = places then places else exactly step count next

/-- The places that are reached by at most `count` steps: `reached` are those found until now, and
`fresh` those among them from which no step was taken. -/
def atMost (step : Places → Places) : Nat → Places → Places → Places
  | 0, reached, _ => reached
  | count + 1, reached, fresh =>
    if fresh = 0 then reached
    else
      let next := step fresh
      atMost step count (reached ||| next) (next.without reached)

end Places

/-- An expression with the places of one text at which its parts apply. -/
inductive Route where
  | stay
  | take (places : Places)
  | check (places : Places)
  | seq (first second : Route)
  | alt (left right : Route)
  | repeat (body : Route) (least : Nat) (most : Option Nat)
  deriving DecidableEq, Repr

/-- The places at which matches end that begin at one of the given places, in a text that has at
most `count` places. Nothing is repeated between bounds that cross. -/
def Route.reach (count : Nat) : Route → Places → Places
  | .stay, places => places
  | .take allowed, places => (places &&& allowed) <<< 1
  | .check allowed, places => places &&& allowed
  | .seq r s, places => s.reach count (r.reach count places)
  | .alt r s, places => r.reach count places ||| s.reach count places
  | .repeat body least most, places =>
    if most.any (· < least) then 0
    else
      let start := Places.exactly (body.reach count) least places
      Places.atMost (body.reach count) (most.elim count (· - least)) start start

namespace Regex

/-- The route of an expression in a text. -/
def route (text : List Char) : Regex → Route
  | .epsilon => .stay
  | .chars set => .take (Places.ofTest (fun _ after => after.any set.contains) text)
  | .anchor assertion => .check (Places.ofTest assertion.holds text)
  | .seq r s => .seq (r.route text) (s.route text)
  | .alt r s => .alt (r.route text) (s.route text)
  | .repeat r least most => .repeat (r.route text) least most

/-- Whether some stretch of a text matches. -/
def matchesWithin (r : Regex) (text : String) : Bool :=
  let cs := text.toList
  (r.route cs).reach (cs.length + 1) (.behindAtMost cs.length) != 0

end Regex

end DocumentSchema

import DocumentSchema.Pattern.Fault
import DocumentSchema.Pattern.Form
import DocumentSchema.Text.Utf8
import Std.Data.HashMap

/-!
The room that a matching machine takes.

A form is matched by a machine that reads the bytes of a text from one state to the next. `Machine`
counts what such a machine consists of, and `Form.build` adds to it what a form needs. Parts of sets
beyond ASCII are shared between their sequences of bytes, but only as far as a table of limited size
remembers them, so the numbers of states count along with how many there are. Two machines are
built for a pattern, one that reads forwards and one that reads backwards, and a pattern is accepted
if both are small enough. Building stops as soon as a machine is too large.
-/

namespace DocumentSchema.Pattern

open Text (CharSet)

/-- What a machine consists of: states, the links of states that branch without reading, and the
transitions of states that read one of several byte ranges. -/
structure Machine where
  states : Nat
  links : Nat
  transitions : Nat
  deriving DecidableEq, Repr

namespace Machine

/-- The machine of which nothing is built yet. -/
def bare : Machine := ⟨0, 0, 0⟩

/-- The bytes that a machine takes. -/
def size (machine : Machine) : Nat :=
  32 * machine.states + 4 * machine.links + 8 * machine.transitions

/-- How a part of a machine is left: from a state that leads to one other, or from one that branches
and takes a link more for it. -/
inductive Exit where
  | single
  | branching
  deriving DecidableEq, Repr

/-- The machine with more states, links and transitions, unless it is too large then. -/
def add? (machine : Machine) (states links transitions : Nat) : Option Machine :=
  let machine : Machine :=
    ⟨machine.states + states, machine.links + links, machine.transitions + transitions⟩
  if machine.size ≤ maxMachineSize then some machine else none

/-- The machine with one link or none to what follows a part. -/
def leave? (machine : Machine) (exit : Exit) : Option Machine :=
  match exit with
  | .single => some machine
  | .branching => machine.add? 0 1 0

/-! ## Sets beyond ASCII -/

/-- Reading a byte of a range and going on to a numbered state. -/
structure Transition where
  range : Nat × Nat
  target : Nat
  deriving DecidableEq, Repr

/-- A number in which all that is mixed into it leaves a trace. -/
def mix (h : UInt64) (n : Nat) : UInt64 :=
  (h ^^^ UInt64.ofNat n) * 1099511628211

/-- The number into which nothing is mixed yet. -/
def unmixed : UInt64 := 14695981039346656037

/-- States under the places where they are remembered, with what they were built from. A state
displaces another at its place. -/
abbrev Memory (α : Type) := Std.HashMap Nat (α × Nat)

/-- The state that was built from something, if it is still remembered. -/
def remembered? [BEq α] (memory : Memory α) (place : Nat) (source : α) : Option Nat :=
  match memory[place]? with
  | some (other, state) => if other == source then some state else none
  | none => none

/-- Sequences of byte ranges that share their beginnings. A branch is a range with the sequences
behind it, and the branches ahead of it; the last branch comes first. -/
inductive RangeTree where
  | leaf
  | branch (range : Nat × Nat) (behind ahead : RangeTree)

/-- The tree with a sequence more, which shares its beginning with the last one only. -/
def RangeTree.insert : List (Nat × Nat) → RangeTree → RangeTree
  | [], tree => tree
  | range :: rest, .leaf => .branch range (insert rest .leaf) .leaf
  | range :: rest, .branch last behind ahead =>
    if range = last then .branch last (insert rest behind) ahead
    else .branch range (insert rest .leaf) (.branch last behind ahead)

/-- The tree of the characters of a set. -/
def RangeTree.ofSet (set : CharSet) : RangeTree :=
  (set.ranges.flatMap Text.Utf8.sequences).foldl (fun tree ranges => tree.insert ranges) .leaf

/-- The number of places in the memory of a set that is read forwards. -/
def forwardPlaces : UInt64 := 10000

/-- The place of a state with the given transitions, the last of which comes first. -/
def placeOf (transitions : List Transition) : Nat :=
  let h := transitions.foldr (fun t h => mix (mix (mix h t.range.1) t.range.2) t.target) unmixed
  (h % forwardPlaces).toNat

/-- A state with the given transitions: one that is remembered or a new one. -/
def shared? (machine : Machine) (memory : Memory (List Transition))
    (transitions : List Transition) : Option (Nat × Machine × Memory (List Transition)) :=
  let place := placeOf transitions
  match remembered? memory place transitions with
  | some state => some (state, machine, memory)
  | none => do
    let state := machine.states
    let machine ← machine.add? 1 0 transitions.length
    return (state, machine, memory.insert place (transitions, state))

/-- Adds states for a tree, those further on first. The answer holds the transitions of the tree's
own state, which is yet to be added; sequences end in the state `target`. -/
def addTree? (target : Nat) (machine : Machine) (memory : Memory (List Transition)) :
    RangeTree → Option (List Transition × Machine × Memory (List Transition))
  | .leaf => some ([], machine, memory)
  | .branch range behind ahead => do
    let (transitions, machine, memory) ← addTree? target machine memory ahead
    let (further, machine, memory) ← addTree? target machine memory behind
    let (state, machine, memory) ←
      if further.isEmpty then some (target, machine, memory) else shared? machine memory further
    return (⟨range, state⟩ :: transitions, machine, memory)

/-- Adds the states of a set that is read forwards. -/
def addForward? (machine : Machine) (set : CharSet) : Option (Exit × Machine) := do
  let target := machine.states
  let machine ← machine.add? 1 0 0
  let (transitions, machine, memory) ← addTree? target machine ∅ (.ofSet set)
  let (_, machine, _) ← shared? machine memory transitions
  return (.single, machine)

/-- The number of places in the memory of a set that is read backwards. -/
def backwardPlaces : UInt64 := 1000

/-- Adds states for a sequence of byte ranges that is read backwards, from its first range on. -/
def addSequence? (state : Nat) (machine : Machine) (memory : Memory Transition) :
    List (Nat × Nat) → Option (Machine × Memory Transition)
  | [] => some (machine, memory)
  | range :: rest =>
    let h := mix (mix (mix unmixed state) range.1) range.2
    let place := (h % backwardPlaces).toNat
    match remembered? memory place ⟨range, state⟩ with
    | some next => addSequence? next machine memory rest
    | none => do
      let next := machine.states
      let machine ← machine.add? 1 0 0
      addSequence? next machine (memory.insert place (⟨range, state⟩, next)) rest

/-- Adds the states of a set that is read backwards. -/
def addBackward? (machine : Machine) (set : CharSet) : Option (Exit × Machine) := do
  let target := machine.states + 1
  let machine ← machine.add? 2 0 0
  let (machine, _) ← (set.ranges.flatMap Text.Utf8.sequences).foldlM
    (fun (machine, memory) ranges => do
      let (machine, memory) ← addSequence? target machine memory ranges
      return (← machine.add? 0 1 0, memory))
    (machine, ∅)
  return (.single, machine)

/-- Adds the states of a set. An ASCII set takes a single state that reads. -/
def addSet? (backward : Bool) (set : CharSet) (machine : Machine) : Option (Exit × Machine) :=
  if set.isAscii then (machine.add? 2 0 set.ranges.length).map (.single, ·)
  else if backward then addBackward? machine set
  else addForward? machine set

/-! ## Choices between literals -/

/-- Texts that share their beginnings, byte by byte. The places where texts end divide the branches
of a node, so that the order of the texts is kept. -/
inductive ByteTree where
  | leaf
  | ended (ahead : ByteTree)
  | branch (byte : Nat) (behind ahead : ByteTree)

namespace ByteTree

/-- Whether some text goes on. -/
def continues : ByteTree → Bool
  | .leaf => false
  | .ended ahead => ahead.continues
  | .branch _ _ _ => true

/-- The tree with a text more that ends here. -/
def finish : ByteTree → ByteTree
  | .ended .leaf => .ended .leaf
  | tree => .ended tree

/-- Changes what stands behind a byte, among the branches since a text ended last. -/
def update (byte : Nat) (change : ByteTree → ByteTree) : ByteTree → ByteTree
  | .branch other behind ahead =>
    if other = byte then .branch other (change behind) ahead
    else .branch other behind (update byte change ahead)
  | tree => .branch byte (change .leaf) tree

/-- The tree with a text more. -/
def insert : List Nat → ByteTree → ByteTree
  | [], tree => tree.finish
  | byte :: rest, tree => tree.update byte (insert rest)

/-- Adds the states of a tree: one for each division that has branches, and one that links them and
the ends between them. `width` branches of the division are passed already and `links` links. -/
def addTo? (machine : Machine) (width links : Nat) : ByteTree → Option Machine
  | .leaf => do
    let (machine, links) ← close machine width links
    machine.add? 1 links 0
  | .ended ahead => do
    let (machine, links) ← close machine width links
    addTo? machine 0 (links + 1) ahead
  | .branch _ behind ahead => do
    let machine ← if behind.continues then addTo? machine 0 0 behind else some machine
    addTo? machine (width + 1) links ahead
where
  /-- Ends a division. -/
  close (machine : Machine) (width links : Nat) : Option (Machine × Nat) :=
    if width = 0 then some (machine, links)
    else (machine.add? 1 0 (if width = 1 then 0 else width)).map (·, links + 1)

end ByteTree

/-- The bytes of a text. -/
def bytesOf (text : List Char) : List Nat :=
  text.flatMap fun c => Text.Utf8.bytes c.toNat

/-- Adds the states of a choice between texts. -/
def addTexts? (backward : Bool) (texts : List (List Char)) (machine : Machine) :
    Option (Exit × Machine) := do
  let machine ← machine.add? 1 0 0
  let tree := texts.foldl
    (fun tree text =>
      tree.insert (if backward then (bytesOf text).reverse else bytesOf text))
    ByteTree.leaf
  let machine ← ByteTree.addTo? machine 0 0 tree
  return (.single, machine)

/-! ## Repetitions -/

/-- What a part of a pattern adds to a machine. -/
abbrev Step := Machine → Option (Exit × Machine)

/-- Adds a part some number of times. -/
def addCopies? (part : Step) : Nat → Step
  | 0, machine => (machine.add? 1 0 0).map (.single, ·)
  | 1, machine => part machine
  | count + 2, machine =>
    match part machine with
    | none => none
    | some (exit, machine) =>
      match machine.leave? exit with
      | none => none
      | some machine => addCopies? part (count + 1) machine

/-- Adds a part some number of times, each of which may be the end. -/
def addOptional? (part : Step) (exit : Exit) : Nat → Step
  | 0, machine => (machine.leave? exit).map (.single, ·)
  | count + 1, machine =>
    match (machine.leave? exit).bind (·.add? 1 2 0) with
    | none => none
    | some machine =>
      match part machine with
      | none => none
      | some (exit, machine) => addOptional? part exit count machine

/-- Adds a part that is repeated. One that may match without taking a character is repeated through
a state of its own. -/
def addRepeated? (part : Step) (takesSome : Bool) (least : Nat) (most : Option Nat) : Step :=
  fun machine =>
    match least, most with
    | 0, some 1 => do
      let machine ← machine.add? 1 2 0
      let (exit, machine) ← part machine
      let machine ← machine.leave? exit
      return (.single, ← machine.add? 1 0 0)
    | 0, none =>
      if takesSome then do
        let machine ← machine.add? 1 1 0
        let (exit, machine) ← part machine
        return (.branching, ← machine.leave? exit)
      else do
        let (exit, machine) ← part machine
        let machine ← machine.leave? exit
        return (.single, ← machine.add? 3 4 0)
    | least, none => do
      let (exit, machine) ← addCopies? part least machine
      let machine ← machine.leave? exit
      return (.branching, ← machine.add? 1 1 0)
    | least, some most => do
      let (exit, machine) ← addCopies? part least machine
      if least = most then return (exit, machine)
      else
        let machine ← machine.add? 1 0 0
        addOptional? part exit (most - least) machine

end Machine

namespace Form

open Machine

/-- The text of a literal. -/
def text? : Form → Option (List Char)
  | .literal text => some text
  | _ => none

mutual

/-- Adds the states of a form. Groups capture in machines that read forwards only. -/
def build? (backward : Bool) : Form → Step
  | .empty, machine => (machine.add? 1 0 0).map (.single, ·)
  | .literal text, machine => (machine.add? (bytesOf text).length 0 0).map (.single, ·)
  | .chars set _, machine => addSet? backward set machine
  | .anchor _, machine => (machine.add? 1 0 0).map (.single, ·)
  | .repeat body bounds, machine =>
    addRepeated? (body.build? backward) body.takesSome bounds.least bounds.most machine
  | .capture body, machine =>
    if backward then body.build? backward machine
    else do
      let machine ← machine.add? 1 0 0
      let (exit, machine) ← body.build? backward machine
      let machine ← machine.leave? exit
      return (.single, ← machine.add? 1 0 0)
  | .concat parts, machine => buildParts? backward parts machine
  | .alternation branches, machine =>
    match branches.mapM text? with
    | some texts => addTexts? backward texts machine
    | none => do
      let machine ← buildBranches? backward 0 branches machine
      return (.single, machine)
termination_by structural form => form

/-- Adds the states of forms one behind another, in the order in which they are read. -/
def buildParts? (backward : Bool) : List Form → Step
  | [], machine => (machine.add? 1 0 0).map (.single, ·)
  | [part], machine => part.build? backward machine
  | part :: rest, machine =>
    if backward then do
      let (exit, machine) ← buildParts? backward rest machine
      part.build? backward (← machine.leave? exit)
    else do
      let (exit, machine) ← part.build? backward machine
      buildParts? backward rest (← machine.leave? exit)
termination_by structural parts => parts

/-- Adds the states of the branches of a choice, with a link to each. The states around them follow
the second branch. -/
def buildBranches? (backward : Bool) (done : Nat) : List Form → Machine → Option Machine
  | [], machine => some machine
  | branch :: rest, machine => do
    let (exit, machine) ← branch.build? backward machine
    let machine ← machine.leave? exit
    let machine ← machine.add? (if done = 1 then 2 else 0) 1 0
    buildBranches? backward (done + 1) rest machine
termination_by structural branches => branches

end

/-- The machine that finds a form in a text, if it is small enough. A form that may begin anywhere,
in the order of reading, has states ahead of it that skip what stands before. -/
def machine? (backward : Bool) (form : Form) : Option Machine := do
  let anchored := if backward then form.endsText else form.startsText
  let machine ← if anchored then Machine.bare.add? 1 0 0 else Machine.bare.add? 3 2 1
  let (exit, machine) ← (capture form).build? backward machine
  (← machine.leave? exit).add? 1 0 0

/-- Whether the machines of a form are small enough. -/
def isSmall (form : Form) : Bool :=
  (form.machine? false).isSome && (form.machine? true).isSome

end Form

end DocumentSchema.Pattern

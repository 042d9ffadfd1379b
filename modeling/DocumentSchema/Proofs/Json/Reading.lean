import DocumentSchema.Json.Reader
import DocumentSchema.Proofs.Json.Exchange

/-!
What is read from JSON text.

Every scalar that a text spells is a value of JSON text: an integer of 64 bits or a finite float.
The reader keeps that of all trees at hand (`Json.ReadState.Spelled`), and so what is read from a
text is well formed at every depth (`Json.wellFormed_of_ofText?`).
-/

namespace DocumentSchema

/-! ## Floats that are read -/

namespace Binary64

variable {x y : Binary64}

/-- The negative of a finite float is finite. -/
theorem isFinite_neg (finite : x.isFinite = true) : x.neg.isFinite = true :=
  isFinite_ofParts (of_decide_eq_true finite)

/-- A quotient by a number from one on is finite. -/
theorem isFinite_div (finite : x.isFinite = true) (large : unitsOfOne ≤ y.units.natAbs) :
    (x.div y).isFinite = true := by
  have within : x.units.natAbs * 2 ^ 1074 ≤ y.units.natAbs * unitsOfBits x.magnitudeBits := by
    rw [natAbs_units x, Nat.mul_comm]
    exact Nat.mul_le_mul_right _ large
  have bounded := roundUnits_le_of_le (Nat.lt_of_lt_of_le unitsOfOne_pos large) within
  exact isFinite_ofParts (Nat.lt_of_le_of_lt bounded (of_decide_eq_true finite))

end Binary64

namespace Json

open Binary64

/-- Powers of ten are at least one. -/
theorem unitsOfOne_le_powerOfTen (n : Nat) : unitsOfOne ≤ (powerOfTen n).units.natAbs := by
  have positive : 0 < 10 ^ n := Nat.pow_pos (by decide)
  have sign : decide (((10 ^ n : Nat) : Int) < 0) = false := decide_eq_false (by omega)
  have same : powerOfTen n = ofInt (10 ^ n : Nat) := by
    rw [ofInt, sign, Int.natAbs_natCast, powerOfTen]
  have one := units_ofInt_scaled (m := 1) (by decide) (e := 0) (by decide)
  rw [Nat.pow_zero, Nat.cast_one, Int.mul_one, unitsOfInt, Int.one_mul] at one
  have reached : (ofInt 1).units ≤ unitsOfInt (10 ^ n : Nat) := by
    rw [one, unitsOfInt]
    exact le_mul_of_one_le_left (Int.natCast_nonneg _) (by omega)
  have above := (units_ofInt_bounds _ (isNaN_ofInt 1)).1 reached
  rw [← same, one] at above
  omega

/-- Scaling that succeeds gives a finite float. -/
theorem isFinite_of_scale {x y : Binary64} {exponent : Int} (finite : x.isFinite = true)
    (scaled : scale x exponent = some y) : y.isFinite = true := by
  induction x, exponent using scale.induct with
  | case1 x exponent small positive product inRange =>
    rw [scale, if_pos small, if_pos positive] at scaled
    change (if product.isFinite then some product else none) = some y at scaled
    rw [if_pos inRange] at scaled
    exact Option.some.inj scaled ▸ inRange
  | case2 x exponent small positive product infinite =>
    rw [scale, if_pos small, if_pos positive] at scaled
    change (if product.isFinite then some product else none) = some y at scaled
    rw [if_neg infinite] at scaled
    cases scaled
  | case3 x exponent small negative =>
    rw [scale, if_pos small, if_neg negative] at scaled
    cases scaled
    exact isFinite_div finite (unitsOfOne_le_powerOfTen _)
  | case4 x exponent large zero =>
    rw [scale, if_neg large, if_pos zero] at scaled
    cases scaled
    exact finite
  | case5 x exponent large nonzero positive =>
    rw [scale, if_neg large, if_neg nonzero, dif_pos positive] at scaled
    cases scaled
  | case6 x exponent large nonzero negative ih =>
    rw [scale, if_neg large, if_neg nonzero, dif_neg negative] at scaled
    exact ih (isFinite_div finite (unitsOfOne_le_powerOfTen _)) scaled

/-! ## Numbers -/

/-- A significand that is read fits. -/
theorem readSignificand_le {n : Nat} (small : n ≤ maxSignificand) (ds : List Char) :
    (readSignificand n ds).1 ≤ maxSignificand := by
  induction ds generalizing n with
  | nil => exact small
  | cons c ds ih =>
    rw [readSignificand]
    split
    · next fits => exact ih fits
    · exact small

/-- A float that is read is finite. -/
theorem isFinite_of_floatOfParts {negative : Bool} {significand : Nat} {exponent : Int}
    {x : Binary64} (small : significand ≤ maxSignificand)
    (read : floatOfParts negative significand exponent = some x) : x.isFinite = true := by
  have bounded : (maxSignificand : Nat) < 2 ^ 64 := by decide
  obtain ⟨y, scaled, rfl⟩ := Option.map_eq_some_iff.1 read
  have finite := isFinite_of_scale (isFinite_ofInt_of_lt (by omega)) scaled
  split
  · exact isFinite_neg finite
  · exact finite

/-- A value without parts is well formed if it can stand in a text. -/
theorem wellFormed_of_leaf {j : Json} (leaf : j.parts = []) (inText : j.InText) : j.WellFormed :=
  wellFormed_iff.2 ⟨inText, fun part member => by rw [leaf] at member; cases member⟩

/-- The text of a number writes an integer of 64 bits or a finite float. -/
theorem wellFormed_of_value? {parts : NumberParts} {j : Json} (read : parts.value? = some j) :
    j.WellFormed := by
  have float {negative : Bool} {significand : Nat} {exponent : Int}
      (small : significand ≤ maxSignificand)
      (read : (floatOfParts negative significand exponent).map Json.float = some j) :
      j.WellFormed := by
    obtain ⟨x, held, rfl⟩ := Option.map_eq_some_iff.1 read
    exact wellFormed_of_leaf rfl (isFinite_of_floatOfParts small held)
  have leading := readSignificand_le (Nat.zero_le _) parts.whole
  have further (ds : List Char) := readSignificand_le leading ds
  have bounded : (maxSignificand : Nat) < 2 ^ 64 := by decide
  unfold NumberParts.value? at read
  dsimp only at read
  split at read
  · -- neither a fraction nor an exponent
    split at read
    · exact float leading read
    split at read
    · cases read
      exact wellFormed_of_leaf rfl ⟨by omega, by omega⟩
    split at read
    · cases read
      exact wellFormed_of_leaf rfl (isFinite_neg (isFinite_ofInt_of_lt (by omega)))
    · cases read
      exact wellFormed_of_leaf rfl ⟨by omega, by omega⟩
  · split at read
    · exact float (further _) read
    split at read
    · split at read
      · cases read
      · cases read
        refine wellFormed_of_leaf rfl ?_
        split
        · exact isFinite_neg (by decide)
        · exact (by decide : zero.isFinite = true)
    · exact float (further _) read

/-! ## Trees -/

namespace Tree

mutual

/-- All scalars of a tree that have a value have one that JSON text writes. -/
def Spelled : Tree → Prop
  | .scalar value => ∀ j, value = some j → j.WellFormed
  | .array items => ItemsSpelled items
  | .object members => MembersSpelled members
termination_by structural x => x

/-- Item by item. -/
def ItemsSpelled : List Tree → Prop
  | [] => True
  | item :: rest => Spelled item ∧ ItemsSpelled rest
termination_by structural x => x

/-- Member by member. -/
def MembersSpelled : List (Option String × Tree) → Prop
  | [] => True
  | (_, member) :: rest => Spelled member ∧ MembersSpelled rest
termination_by structural x => x

end

theorem itemsSpelled_iff {items : List Tree} :
    ItemsSpelled items ↔ ∀ item ∈ items, item.Spelled := by
  induction items with
  | nil => simp [ItemsSpelled]
  | cons item rest ih => simp [ItemsSpelled, ih]

theorem membersSpelled_iff {members : List (Option String × Tree)} :
    MembersSpelled members ↔ ∀ member ∈ members, member.2.Spelled := by
  induction members with
  | nil => simp [MembersSpelled]
  | cons member rest ih => simp [MembersSpelled, ih]

end Tree

/-- An array of well-formed items is well formed. -/
theorem wellFormed_array {items : List Json} (each : ∀ item ∈ items, item.WellFormed) :
    (array items).WellFormed :=
  wellFormed_iff.2 ⟨trivial, each⟩

/-- An object of well-formed members in order is well formed. -/
theorem wellFormed_object {members : List (String × Json)} (ascending : Entries.Ascending members)
    (each : ∀ member ∈ members, member.2.WellFormed) : (object members).WellFormed :=
  wellFormed_iff.2 ⟨ascending, List.forall_mem_map.2 each⟩

mutual

/-- The value of a tree is well formed, if the scalars of the tree are. -/
theorem wellFormed_of_tree {limit : Nat} (tree : Tree) (spelled : tree.Spelled) {j : Json}
    (read : Tree.value? limit tree = some j) : j.WellFormed := by
  match tree with
  | .scalar value => exact spelled j read
  | .array items =>
    cases limit with
    | zero => cases read
    | succ limit =>
      obtain ⟨js, values, rfl⟩ := Option.map_eq_some_iff.1 read
      exact wellFormed_array (wellFormed_of_items items spelled values)
  | .object members =>
    cases limit with
    | zero => cases read
    | succ limit =>
      obtain ⟨pairs, values, rfl⟩ := Option.map_eq_some_iff.1 read
      have each := wellFormed_of_members members spelled values
      exact wellFormed_object (Entries.ascending_ofList pairs) fun member held =>
        each member (Entries.mem_of_mem_ofList held)

/-- Items that are read are well formed. -/
theorem wellFormed_of_items {limit : Nat} (items : List Tree) (spelled : Tree.ItemsSpelled items)
    {js : List Json} (read : Tree.values? limit items = some js) : ∀ j ∈ js, j.WellFormed := by
  match items with
  | [] =>
    cases read
    exact List.forall_mem_nil _
  | item :: rest =>
    simp only [Tree.values?, Option.bind_eq_bind, Option.bind_eq_some_iff, Option.pure_def,
      Option.some.injEq] at read
    obtain ⟨first, value, others, values, rfl⟩ := read
    exact List.forall_mem_cons.2 ⟨wellFormed_of_tree item spelled.1 value,
      wellFormed_of_items rest spelled.2 values⟩

/-- Members that are read are well formed. -/
theorem wellFormed_of_members {limit : Nat} (members : List (Option String × Tree))
    (spelled : Tree.MembersSpelled members) {pairs : List (String × Json)}
    (read : Tree.members? limit members = some pairs) : ∀ pair ∈ pairs, pair.2.WellFormed := by
  match members with
  | [] =>
    cases read
    exact List.forall_mem_nil _
  | (name, member) :: rest =>
    simp only [Tree.members?, Option.bind_eq_bind, Option.bind_eq_some_iff, Option.pure_def,
      Option.some.injEq] at read
    obtain ⟨text, -, first, value, others, values, rfl⟩ := read
    exact List.forall_mem_cons.2 ⟨wellFormed_of_tree member spelled.1 value,
      wellFormed_of_members rest spelled.2 values⟩

end

/-! ## The reader -/

/-- The trees of an open bracket are spelled. -/
def Frame.Spelled : Frame → Prop
  | .items reversed => ∀ item ∈ reversed, item.Spelled
  | .members reversed _ => ∀ member ∈ reversed, member.2.Spelled

/-- The trees that stand before what may follow are spelled. -/
def Expect.Spelled : Expect → Prop
  | .nameOrClose reversed => ∀ member ∈ reversed, member.2.Spelled
  | .name reversed => ∀ member ∈ reversed, member.2.Spelled
  | .colon reversed _ => ∀ member ∈ reversed, member.2.Spelled
  | .memberEnd reversed => ∀ member ∈ reversed, member.2.Spelled
  | .finish tree => tree.Spelled
  | _ => True

/-- All trees at hand are spelled. -/
structure ReadState.Spelled (state : ReadState) : Prop where
  frames : ∀ frame ∈ state.frames, frame.Spelled
  expect : state.expect.Spelled

variable {frames : List Frame} {lexeme : Lexeme} {state next : ReadState}

/-- A value that is delivered to its frame keeps the state spelled. -/
theorem spelled_deliver {tree : Tree} (outer : ∀ frame ∈ frames, frame.Spelled)
    (spelled : tree.Spelled) : (deliver frames tree).Spelled := by
  cases frames with
  | nil => exact ⟨outer, spelled⟩
  | cons frame rest =>
    obtain ⟨here, others⟩ := List.forall_mem_cons.1 outer
    cases frame with
    | items reversed =>
      exact ⟨List.forall_mem_cons.2 ⟨List.forall_mem_cons.2 ⟨spelled, here⟩, others⟩, trivial⟩
    | members reversed name => exact ⟨others, List.forall_mem_cons.2 ⟨spelled, here⟩⟩

/-- A word is spelled by what it is read from. -/
theorem spelled_of_wordTree? {content : List Char} {tree : Tree}
    (read : wordTree? content = some tree) : tree.Spelled := by
  have scalar {j : Json} (wellFormed : j.WellFormed) : (Tree.scalar (some j)).Spelled := by
    rintro _ ⟨⟩
    exact wellFormed
  unfold wordTree? at read
  split at read
  · cases read
    exact scalar (wellFormed_of_leaf rfl trivial)
  split at read
  · cases read
    exact scalar (wellFormed_of_leaf rfl trivial)
  split at read
  · cases read
    exact scalar (wellFormed_of_leaf rfl trivial)
  · obtain ⟨parts, -, rfl⟩ := Option.map_eq_some_iff.1 read
    exact fun j value => wellFormed_of_value? value

/-- Reading a value keeps the state spelled. -/
theorem spelled_of_readValue? (outer : ∀ frame ∈ frames, frame.Spelled)
    (read : readValue? frames lexeme = some next) : next.Spelled := by
  cases lexeme with
  | word content =>
    obtain ⟨tree, word, rfl⟩ := Option.map_eq_some_iff.1 read
    exact spelled_deliver outer (spelled_of_wordTree? word)
  | quoted content =>
    obtain ⟨text, -, rfl⟩ := Option.map_eq_some_iff.1 read
    refine spelled_deliver outer fun j same => ?_
    obtain ⟨text, -, rfl⟩ := Option.map_eq_some_iff.1 same
    exact wellFormed_of_leaf rfl trivial
  | mark c =>
    rw [readValue?] at read
    split at read
    · cases read
      exact ⟨List.forall_mem_cons.2 ⟨List.forall_mem_nil _, outer⟩, trivial⟩
    · split at read
      · cases read
        exact ⟨outer, List.forall_mem_nil _⟩
      · cases read

/-- Closing an array keeps the state spelled. -/
theorem spelled_of_closeItems? (outer : ∀ frame ∈ frames, frame.Spelled)
    (read : closeItems? frames = some next) : next.Spelled := by
  unfold closeItems? at read
  split at read
  · next reversed rest =>
    cases read
    obtain ⟨here, others⟩ := List.forall_mem_cons.1 outer
    refine spelled_deliver others (Tree.itemsSpelled_iff.2 fun item member => ?_)
    exact here item (List.mem_reverse.1 member)
  · cases read

/-- Reading a name keeps the state spelled. -/
theorem spelled_of_readName? {reversed : List (Option String × Tree)}
    (outer : ∀ frame ∈ frames, frame.Spelled) (earlier : ∀ member ∈ reversed, member.2.Spelled)
    (read : readName? frames reversed lexeme = some next) : next.Spelled := by
  cases lexeme with
  | quoted content =>
    obtain ⟨name, -, rfl⟩ := Option.map_eq_some_iff.1 read
    exact ⟨outer, earlier⟩
  | _ => cases read

/-- Closing an object keeps the state spelled. -/
theorem spelled_closeMembers {reversed : List (Option String × Tree)}
    (outer : ∀ frame ∈ frames, frame.Spelled) (earlier : ∀ member ∈ reversed, member.2.Spelled) :
    (deliver frames (.object reversed.reverse)).Spelled :=
  spelled_deliver outer (Tree.membersSpelled_iff.2 fun member held =>
    earlier member (List.mem_reverse.1 held))

/-- Each piece of the text keeps all trees spelled. -/
theorem spelled_of_readStep? (spelled : state.Spelled) (read : readStep? state lexeme = some next) :
    next.Spelled := by
  obtain ⟨outer, expected⟩ := spelled
  unfold readStep? at read
  split at read
  case h_1 => exact spelled_of_readValue? outer read
  case h_2 =>
    split at read
    · exact spelled_of_closeItems? outer read
    · exact spelled_of_readValue? outer read
  case h_3 =>
    split at read
    · cases read
      exact ⟨outer, trivial⟩
    split at read
    · exact spelled_of_closeItems? outer read
    · cases read
  case h_4 reversed same =>
    rw [same] at expected
    split at read
    · cases read
      exact spelled_closeMembers outer expected
    · exact spelled_of_readName? outer expected read
  case h_5 reversed same =>
    rw [same] at expected
    exact spelled_of_readName? outer expected read
  case h_6 reversed name same =>
    rw [same] at expected
    split at read
    · cases read
      exact ⟨List.forall_mem_cons.2 ⟨expected, outer⟩, trivial⟩
    · cases read
  case h_7 reversed same =>
    rw [same] at expected
    split at read
    · cases read
      exact ⟨outer, expected⟩
    split at read
    · cases read
      exact spelled_closeMembers outer expected
    · cases read
  case h_8 => cases read

/-- Reading any pieces keeps the state spelled. -/
theorem spelled_of_foldlM {lexemes : List Lexeme} (spelled : state.Spelled)
    (read : lexemes.foldlM readStep? state = some next) : next.Spelled := by
  induction lexemes generalizing state with
  | nil =>
    cases read
    exact spelled
  | cons lexeme rest ih =>
    rw [List.foldlM_cons] at read
    obtain ⟨between, step, later⟩ := Option.bind_eq_some_iff.1 read
    exact ih (spelled_of_readStep? spelled step) later

/-- What a JSON text writes is well formed. -/
theorem wellFormed_of_ofText? {text : String} {j : Json} (read : ofText? text = some j) :
    j.WellFormed := by
  obtain ⟨tree, parsed, value⟩ := Option.bind_eq_some_iff.1 read
  refine wellFormed_of_tree tree ?_ value
  unfold treeOfText? at parsed
  obtain ⟨lexemes, -, parsed⟩ := Option.bind_eq_some_iff.1 parsed
  obtain ⟨final, folded, parsed⟩ := Option.bind_eq_some_iff.1 parsed
  have begun : ReadState.Spelled ⟨[], .value⟩ := ⟨List.forall_mem_nil _, trivial⟩
  have spelled := (spelled_of_foldlM begun folded).expect
  split at parsed
  · next result same =>
    cases parsed
    rwa [same] at spelled
  · cases parsed

end Json

end DocumentSchema

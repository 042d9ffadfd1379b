import DocumentSchema.Pattern.Places
import DocumentSchema.Proofs.Pattern.Matching
import Mathlib.Data.List.Basic
import Mathlib.Data.Nat.Bitwise

/-!
Finding what an expression matches.

`Regex.Leads` says that an expression matches the stretch between two places of a text. By
`Regex.takes_reach`, the places that a route reaches from a set of places are exactly those to which
the expression leads from one of them. Repetitions are where work is saved: a set that a step leaves
as it is stays as it is, and only places that were not reached before are stepped from. No more
steps are needed than there are places, as steps never go back. So `Regex.matchesWithin` finds a
stretch that matches whenever there is one (`Regex.matchesWithin_iff`).
-/

namespace DocumentSchema

namespace Places

variable {step : Nat → Nat → Prop} {f : Places → Places} {places reached fresh : Places}
  {length count i j k m n : Nat}

/-! ## Steps between places -/

/-- A number of steps one after another. -/
def Chain (step : Nat → Nat → Prop) : Nat → Nat → Nat → Prop
  | 0, i, j => i = j
  | count + 1, i, j => ∃ k, step i k ∧ Chain step count k j

/-- A chain of steps can be cut anywhere. -/
theorem chain_add : Chain step (m + n) i j ↔ ∃ k, Chain step m i k ∧ Chain step n k j := by
  induction m generalizing i with
  | zero => simp [Chain]
  | succ m ih =>
    rw [Nat.succ_add, Chain]
    simp only [ih]
    constructor
    · rintro ⟨k, first, l, others, last⟩
      exact ⟨l, ⟨k, first, others⟩, last⟩
    · rintro ⟨l, ⟨k, first, others⟩, last⟩
      exact ⟨k, first, l, others, last⟩

/-- Steps that go on within a text or stay. -/
def Forward (length : Nat) (step : Nat → Nat → Prop) : Prop :=
  ∀ i j, step i j → i ≤ j ∧ j ≤ length

/-- Steps that stay can be left out, so that no more steps are needed than places are passed. -/
theorem Forward.exists_short (forward : Forward length step) (chain : Chain step count i j)
    (inside : i ≤ length) : i ≤ j ∧ j ≤ length ∧ ∃ short, short ≤ j - i ∧ Chain step short i j := by
  induction count generalizing i with
  | zero =>
    cases chain
    exact ⟨le_refl _, inside, 0, Nat.zero_le _, rfl⟩
  | succ count ih =>
    obtain ⟨k, first, others⟩ := chain
    obtain ⟨onward, within⟩ := forward i k first
    obtain ⟨later, end_, short, few, chain⟩ := ih others within
    refine ⟨onward.trans later, end_, ?_⟩
    rcases onward.eq_or_lt with rfl | further
    · exact ⟨short, few, chain⟩
    · exact ⟨short + 1, by omega, k, first, chain⟩

/-- The places of a set are places of a text. -/
def Within (length : Nat) (places : Places) : Prop :=
  ∀ i, places.testBit i = true → i ≤ length

/-- A function that takes a set of places to those to which a step leads from one of them. -/
def Takes (length : Nat) (f : Places → Places) (step : Nat → Nat → Prop) : Prop :=
  ∀ places, Within length places →
    ∀ j, (f places).testBit j = true ↔ ∃ i, places.testBit i = true ∧ step i j

section Takes

variable (takes : Takes length f step)
include takes

/-- Steps lead to no place beyond the text. -/
theorem Takes.within (forward : Forward length step) (inside : Within length places) :
    Within length (f places) := by
  intro j reached
  obtain ⟨i, -, here⟩ := (takes places inside j).1 reached
  exact (forward i j here).2

/-- One step more is a step from the places and then the others. -/
theorem Takes.chain_succ (inside : Within length places) :
    (∃ i, places.testBit i = true ∧ Chain step (count + 1) i j) ↔
      ∃ i, (f places).testBit i = true ∧ Chain step count i j := by
  constructor
  · rintro ⟨i, member, k, first, others⟩
    exact ⟨k, (takes places inside k).2 ⟨i, member, first⟩, others⟩
  · rintro ⟨k, member, others⟩
    obtain ⟨i, member, first⟩ := (takes places inside k).1 member
    exact ⟨i, member, k, first, others⟩

/-- A set that a step leaves as it is stays as it is. -/
theorem Takes.chain_of_fixed (inside : Within length places) (fixed : f places = places) :
    (∃ i, places.testBit i = true ∧ Chain step count i j) ↔ places.testBit j = true := by
  induction count with
  | zero => simp [Chain]
  | succ count ih => rw [takes.chain_succ inside, fixed, ih]

/-- The places that a number of steps lead to. -/
theorem Takes.testBit_exactly (forward : Forward length step) (inside : Within length places) :
    (exactly f count places).testBit j = true ↔
      ∃ i, places.testBit i = true ∧ Chain step count i j := by
  induction count generalizing places with
  | zero => simp [exactly, Chain]
  | succ count ih =>
    rw [exactly]
    split
    · next fixed => exact (takes.chain_of_fixed inside fixed).symm
    · rw [ih (takes.within forward inside), takes.chain_succ inside]

/-- The places that are there already or one step away. -/
theorem Takes.testBit_or_iff (inside : Within length fresh) :
    (reached ||| f fresh).testBit j = true ↔
      reached.testBit j = true ∨ ∃ i, fresh.testBit i = true ∧ step i j := by
  rw [Nat.testBit_or, Bool.or_eq_true, takes fresh inside j]

end Takes

/-- The places that were not reached before. -/
theorem testBit_without_iff :
    (places.without reached).testBit i = true ↔
      places.testBit i = true ∧ reached.testBit i = false := by
  rw [without, Nat.testBit_xor, Nat.testBit_and]
  cases places.testBit i <;> cases reached.testBit i <;> decide

/-- What is reached may be left only by a step from a place that is fresh, as the others have been
stepped from. -/
structure Frontier (step : Nat → Nat → Prop) (reached fresh : Places) : Prop where
  fresh_reached {i : Nat} (isFresh : fresh.testBit i = true) : reached.testBit i = true
  stepped {i j : Nat} (member : reached.testBit i = true) (old : fresh.testBit i = false)
    (first : step i j) : reached.testBit j = true

namespace Frontier

variable (takes : Takes length f step)

/-- At first all places are new. -/
theorem start : Frontier step reached reached where
  fresh_reached := id
  stepped member old := by
    rw [member] at old
    cases old

/-- Where nothing is fresh, no steps leave what is reached. -/
theorem testBit_of_chain (frontier : Frontier step reached 0) (member : reached.testBit i = true)
    (chain : Chain step count i j) : reached.testBit j = true := by
  induction count generalizing i with
  | zero =>
    cases chain
    exact member
  | succ count ih =>
    obtain ⟨k, first, others⟩ := chain
    exact ih (frontier.stepped member (Nat.zero_testBit i) first) others

include takes

/-- A step from what is reached leads to what is reached next. -/
theorem testBit_next (frontier : Frontier step reached fresh) (inside : Within length fresh)
    (member : reached.testBit i = true) (first : step i j) :
    (reached ||| f fresh).testBit j = true := by
  refine (takes.testBit_or_iff inside).2 ?_
  cases isFresh : fresh.testBit i with
  | false => exact .inl (frontier.stepped member isFresh first)
  | true => exact .inr ⟨i, isFresh, first⟩

/-- Next, those places are fresh that are reached for the first time. -/
theorem next (frontier : Frontier step reached fresh) (inside : Within length fresh) :
    Frontier step (reached ||| f fresh) ((f fresh).without reached) where
  fresh_reached {i} isFresh := by
    rw [Nat.testBit_or, (testBit_without_iff.1 isFresh).1, Bool.or_true]
  stepped {i j} member old first := by
    refine frontier.testBit_next takes inside ?_ first
    rw [Nat.testBit_or, Bool.or_eq_true] at member
    rcases member with before | isNext
    · exact before
    · by_contra unreached
      rw [testBit_without_iff.2 ⟨isNext, Bool.not_eq_true _ ▸ unreached⟩] at old
      cases old

end Frontier

/-- Stepping only from the places that are fresh reaches all places. -/
theorem Takes.testBit_atMost (takes : Takes length f step) (forward : Forward length step)
    (inside : Within length reached) (frontier : Frontier step reached fresh) :
    (atMost f count reached fresh).testBit j = true ↔
      ∃ short, short ≤ count ∧ ∃ i, reached.testBit i = true ∧ Chain step short i j := by
  induction count generalizing reached fresh with
  | zero => simp [atMost, Chain]
  | succ count ih =>
    have freshInside : Within length fresh := fun i isFresh =>
      inside i (frontier.fresh_reached isFresh)
    rw [atMost]
    split
    · next none =>
      subst none
      constructor
      · exact fun member => ⟨0, Nat.zero_le _, j, member, rfl⟩
      · rintro ⟨short, -, i, member, chain⟩
        exact frontier.testBit_of_chain member chain
    · dsimp only
      have nextInside : Within length (reached ||| f fresh) := by
        intro i member
        rcases (takes.testBit_or_iff freshInside).1 member with before | ⟨k, -, first⟩
        · exact inside i before
        · exact (forward k i first).2
      rw [ih nextInside (frontier.next takes freshInside)]
      constructor
      · rintro ⟨short, few, i, member, chain⟩
        rcases (takes.testBit_or_iff freshInside).1 member with before | ⟨k, isFresh, first⟩
        · exact ⟨short, by omega, i, before, chain⟩
        · exact ⟨short + 1, by omega, k, frontier.fresh_reached isFresh, i, first, chain⟩
      · rintro ⟨- | short, few, i, member, chain⟩
        · refine ⟨0, Nat.zero_le _, i, ?_, chain⟩
          exact (takes.testBit_or_iff freshInside).2 (.inl member)
        · obtain ⟨k, first, others⟩ := chain
          exact ⟨short, by omega, k, frontier.testBit_next takes freshInside member first, others⟩

/-! ## Sets of places -/

theorem ne_zero_iff : places ≠ 0 ↔ ∃ i, places.testBit i = true := by
  constructor
  · intro nonzero
    by_contra none
    exact nonzero (Nat.zero_of_testBit_eq_false fun i => Bool.not_eq_true _ ▸ not_exists.1 none i)
  · rintro ⟨i, member⟩ rfl
    rw [Nat.zero_testBit] at member
    cases member

theorem testBit_behindAtMost : (behindAtMost count).testBit i = true ↔ i ≤ count := by
  rw [behindAtMost, Nat.testBit_two_pow_sub_one, decide_eq_true_iff, Nat.lt_succ_iff]

/-- A place is added where a condition holds. -/
theorem testBit_insert_iff {holds : Prop} [Decidable holds] :
    (if holds then places ||| 1 <<< count else places).testBit i = true ↔
      places.testBit i = true ∨ count = i ∧ holds := by
  by_cases holding : holds
  · simp [holding, Nat.testBit_or, Nat.one_shiftLeft, Nat.testBit_two_pow]
  · simp [holding]

/-- The places at which a test holds, from some place on. -/
theorem testBit_ofTest_go {test : Option Char → Option Char → Bool} {before rest : List Char} :
    (ofTest.go test before.head? count places rest).testBit i = true ↔
      places.testBit i = true ∨ ∃ seen after, rest = seen ++ after ∧ count + seen.length = i ∧
        test (seen.reverse ++ before).head? after.head? = true := by
  induction rest generalizing before count places with
  | nil =>
    rw [ofTest.go, testBit_insert_iff]
    refine or_congr_right ⟨fun ⟨place, holds⟩ => ⟨[], [], rfl, place, holds⟩, ?_⟩
    rintro ⟨seen, after, nothing, place, holds⟩
    obtain ⟨rfl, rfl⟩ := List.append_eq_nil_iff.1 nothing.symm
    exact ⟨place, holds⟩
  | cons c rest ih =>
    rw [ofTest.go]
    refine Iff.trans (@ih _ (count + 1) (c :: before)) ?_
    rw [testBit_insert_iff, or_assoc]
    refine or_congr_right ⟨?_, ?_⟩
    · rintro (⟨place, holds⟩ | ⟨seen, after, rfl, place, holds⟩)
      · exact ⟨[], c :: rest, rfl, place, holds⟩
      · refine ⟨c :: seen, after, rfl, by simp only [List.length_cons]; omega, ?_⟩
        rwa [List.reverse_cons, List.append_assoc]
    · rintro ⟨- | ⟨d, seen⟩, after, cut, place, holds⟩
      · obtain rfl := cut
        exact .inl ⟨place, holds⟩
      · obtain ⟨rfl, rfl⟩ := List.cons.inj cut
        rw [List.reverse_cons, List.append_assoc] at holds
        exact .inr ⟨seen, after, rfl, by simp only [List.length_cons] at place; omega, holds⟩

/-- The places at which a test holds. -/
theorem testBit_ofTest {test : Option Char → Option Char → Bool} {text : List Char} :
    (ofTest test text).testBit i = true ↔
      ∃ before after : List Char, text = before.reverse ++ after ∧ before.length = i ∧
        test before.head? after.head? = true := by
  rw [ofTest, ← List.head?_nil, testBit_ofTest_go]
  simp only [Nat.zero_testBit, Bool.false_eq_true, false_or, zero_add, List.append_nil]
  constructor
  · rintro ⟨seen, after, cut, place, holds⟩
    exact ⟨seen.reverse, after, by rwa [List.reverse_reverse], by rwa [List.length_reverse], holds⟩
  · rintro ⟨before, after, cut, place, holds⟩
    exact ⟨before.reverse, after, cut, by rwa [List.length_reverse],
      by rwa [List.reverse_reverse]⟩

end Places

namespace Regex

variable {r s : Regex} {cs before t after : List Char} {count least i j : Nat} {most : Option Nat}

/-! ## Places of a match -/

/-- An expression matches the stretch between two places of a text. -/
def Leads (r : Regex) (cs : List Char) (i j : Nat) : Prop :=
  ∃ before t after, cs = before.reverse ++ (t ++ after) ∧ before.length = i ∧
    before.length + t.length = j ∧ Matches r before t after

/-- Matching leads forward within the text. -/
theorem leads_forward : Places.Forward cs.length (r.Leads cs) := by
  rintro i j ⟨before, t, after, rfl, rfl, rfl, -⟩
  simp only [List.length_append, List.length_reverse]
  omega

/-- The empty text leads from a place to itself. -/
theorem empty_stretch (inside : i ≤ cs.length) :
    (∃ before t after : List Char, cs = before.reverse ++ (t ++ after) ∧ before.length = i ∧
      before.length + t.length = j ∧ t = []) ↔ i = j := by
  constructor
  · rintro ⟨before, t, after, -, rfl, rfl, rfl⟩
    rfl
  · rintro rfl
    exact ⟨(cs.take i).reverse, [], cs.drop i, by simp, by simp [inside], by simp [inside], rfl⟩

/-- The empty expression leads nowhere else. -/
theorem leads_epsilon (inside : i ≤ cs.length) : Regex.epsilon.Leads cs i j ↔ i = j := by
  simp only [Leads, matches_epsilon_iff]
  exact empty_stretch inside

/-- A set of characters leads over one of them. -/
theorem leads_chars {set : Text.CharSet} :
    (Regex.chars set).Leads cs i j ↔
      (Places.ofTest (fun _ after => after.any set.contains) cs).testBit i = true ∧ i + 1 = j := by
  rw [Places.testBit_ofTest]
  constructor
  · rintro ⟨before, _, after, rfl, rfl, rfl, matched⟩
    obtain ⟨c, rfl, member⟩ := matches_chars_iff.1 matched
    exact ⟨⟨before, c :: after, rfl, rfl, member⟩, rfl⟩
  · rintro ⟨⟨before, _ | ⟨c, after⟩, rfl, rfl, member⟩, rfl⟩
    · cases member
    · exact ⟨before, [c], after, rfl, rfl, rfl, .chars member⟩

/-- An anchor leads nowhere else, and only where it holds. -/
theorem leads_anchor {assertion : Anchor} :
    (Regex.anchor assertion).Leads cs i j ↔
      (Places.ofTest assertion.holds cs).testBit i = true ∧ i = j := by
  rw [Places.testBit_ofTest]
  constructor
  · rintro ⟨before, _, after, rfl, rfl, rfl, matched⟩
    obtain ⟨rfl, holds⟩ := matches_anchor_iff.1 matched
    exact ⟨⟨before, after, rfl, rfl, holds⟩, rfl⟩
  · rintro ⟨⟨before, after, rfl, rfl, holds⟩, rfl⟩
    exact ⟨before, [], after, rfl, rfl, rfl, .anchor holds⟩

/-- A choice leads where one of its expressions does. -/
theorem leads_alt : (Regex.alt r s).Leads cs i j ↔ r.Leads cs i j ∨ s.Leads cs i j := by
  simp only [Leads, matches_alt_iff, and_or_left, exists_or]

/-- Two stretches of which the second begins where the first ends. -/
theorem leads_trans {stretch : List Char → List Char → List Char → Prop} :
    (∃ before t after, cs = before.reverse ++ (t ++ after) ∧ before.length = i ∧
      before.length + t.length = j ∧
        ∃ u v, t = u ++ v ∧ Matches r before u (v ++ after) ∧
          stretch (u.reverse ++ before) v after) ↔
      ∃ k, r.Leads cs i k ∧ ∃ before t after, cs = before.reverse ++ (t ++ after) ∧
        before.length = k ∧ before.length + t.length = j ∧ stretch before t after := by
  constructor
  · rintro ⟨before, _, after, rfl, rfl, rfl, t, u, rfl, first, second⟩
    refine ⟨before.length + t.length, ⟨before, t, u ++ after, by simp, rfl, rfl, first⟩,
      t.reverse ++ before, u, after, by simp, by simp [Nat.add_comm], ?_, second⟩
    simp only [List.length_append, List.length_reverse]
    omega
  · rintro ⟨_, ⟨before, t, rest, rfl, rfl, rfl, first⟩, before', u, after, cut, start, stop, second⟩
    rw [← List.append_assoc] at cut
    obtain ⟨seen, rfl⟩ := List.append_inj cut (by simp [start])
    obtain rfl : before' = t.reverse ++ before :=
      List.reverse_injective (by rw [← seen, List.reverse_append, List.reverse_reverse])
    refine ⟨before, t ++ u, after, by simp, rfl, ?_, t, u, rfl, first, second⟩
    simp only [List.length_append, List.length_reverse] at stop ⊢
    omega

/-- A sequence leads over a place between its expressions. -/
theorem leads_seq : (Regex.seq r s).Leads cs i j ↔ ∃ k, r.Leads cs i k ∧ s.Leads cs k j := by
  rw [Leads]
  simp only [matches_seq_iff]
  exact leads_trans

/-- Matching a number of times is a chain. -/
theorem leads_times (inside : i ≤ cs.length) :
    (∃ before t after, cs = before.reverse ++ (t ++ after) ∧ before.length = i ∧
      before.length + t.length = j ∧ MatchesTimes r count before t after) ↔
      Places.Chain (r.Leads cs) count i j := by
  induction count generalizing i with
  | zero =>
    simp only [matchesTimes_zero_iff]
    exact empty_stretch inside
  | succ count ih =>
    simp only [matchesTimes_succ_iff, Places.Chain]
    refine leads_trans.trans (exists_congr fun k => and_congr_right fun leads => ?_)
    exact ih (leads_forward i k leads).2

/-- A repetition leads along the chains that its bounds allow. -/
theorem leads_repeat (inside : i ≤ cs.length) :
    (Regex.repeat r least most).Leads cs i j ↔
      ∃ count, least ≤ count ∧ (∀ limit, most = some limit → count ≤ limit) ∧
        Places.Chain (r.Leads cs) count i j := by
  simp only [← leads_times inside, Leads, matches_repeat_iff]
  constructor
  · rintro ⟨before, t, after, cut, start, stop, count, enough, few, times⟩
    exact ⟨count, enough, few, before, t, after, cut, start, stop, times⟩
  · rintro ⟨count, enough, few, before, t, after, cut, start, stop, times⟩
    exact ⟨before, t, after, cut, start, stop, count, enough, few, times⟩

/-! ## Finding a match -/

open Places (Takes Within Chain)

/-- The search for a repetition takes it where it leads. -/
theorem takes_repeat (forward : Places.Forward cs.length (r.Leads cs))
    (takes : Takes cs.length ((r.route cs).reach (cs.length + 1)) (r.Leads cs)) :
    Takes cs.length (((Regex.repeat r least most).route cs).reach (cs.length + 1))
      ((Regex.repeat r least most).Leads cs) := by
  intro places inside j
  have whole : (∃ i, places.testBit i = true ∧ (Regex.repeat r least most).Leads cs i j) ↔
      ∃ i, places.testBit i = true ∧ ∃ count, least ≤ count ∧
        (∀ limit, most = some limit → count ≤ limit) ∧ Chain (r.Leads cs) count i j :=
    exists_congr fun i => and_congr_right fun member => leads_repeat (inside i member)
  rw [whole, route, Route.reach]
  split
  · next crossed =>
    -- no number lies between bounds that cross
    obtain ⟨limit, rfl, less⟩ := (Option.any_eq_true _ _).1 crossed
    refine iff_of_false (by simp) ?_
    rintro ⟨i, -, count, enough, few, -⟩
    have := few limit rfl
    have := of_decide_eq_true less
    omega
  · next ordered =>
    have start (k : Nat) : (Places.exactly _ least places).testBit k = true ↔ _ :=
      takes.testBit_exactly forward inside
    have within : Within cs.length
        (Places.exactly ((r.route cs).reach (cs.length + 1)) least places) := by
      intro k member
      obtain ⟨i, member, chain⟩ := (start k).1 member
      exact (forward.exists_short chain (inside i member)).2.1
    dsimp only
    rw [takes.testBit_atMost forward within .start]
    constructor
    · rintro ⟨short, few, k, member, further⟩
      obtain ⟨i, member, chain⟩ := (start k).1 member
      refine ⟨i, member, least + short, Nat.le_add_right _ _, ?_,
        Places.chain_add.2 ⟨k, chain, further⟩⟩
      rintro limit rfl
      simp only [Option.any_some, decide_eq_true_eq, Option.elim_some] at ordered few
      omega
    · rintro ⟨i, member, count, enough, few, chain⟩
      obtain ⟨more, rfl⟩ := Nat.exists_eq_add_of_le enough
      obtain ⟨k, chain, further⟩ := Places.chain_add.1 chain
      have member := (start k).2 ⟨i, member, chain⟩
      cases most with
      | none =>
        obtain ⟨-, inside, short, few, further⟩ := forward.exists_short further (within k member)
        exact ⟨short, by simp only [Option.elim_none]; omega, k, member, further⟩
      | some limit =>
        have := few limit rfl
        exact ⟨more, by simp only [Option.elim_some]; omega, k, member, further⟩

/-- A route leads from the places of a set to those at which matches end that begin there. -/
theorem takes_reach :
    Takes cs.length ((r.route cs).reach (cs.length + 1)) (r.Leads cs) := by
  induction r with
  | epsilon =>
    intro places inside j
    constructor
    · exact fun member => ⟨j, member, (leads_epsilon (inside j member)).2 rfl⟩
    · rintro ⟨i, member, leads⟩
      rwa [(leads_epsilon (inside i member)).1 leads] at member
  | chars set =>
    intro places inside j
    simp only [leads_chars, route, Route.reach, Nat.testBit_shiftLeft, Nat.testBit_and,
      Bool.and_eq_true, decide_eq_true_eq]
    constructor
    · exact fun ⟨further, member, allowed⟩ => ⟨j - 1, member, allowed, by omega⟩
    · rintro ⟨i, member, allowed, rfl⟩
      exact ⟨by omega, member, allowed⟩
  | anchor assertion =>
    intro places inside j
    simp only [leads_anchor, route, Route.reach, Nat.testBit_and, Bool.and_eq_true]
    constructor
    · exact fun ⟨member, holds⟩ => ⟨j, member, holds, rfl⟩
    · rintro ⟨_, member, holds, rfl⟩
      exact ⟨member, holds⟩
  | seq r s first second =>
    intro places inside j
    rw [route, Route.reach, second _ (first.within leads_forward inside)]
    simp only [leads_seq, first places inside]
    constructor
    · rintro ⟨k, ⟨i, member, toMiddle⟩, onward⟩
      exact ⟨i, member, k, toMiddle, onward⟩
    · rintro ⟨i, member, k, toMiddle, onward⟩
      exact ⟨k, ⟨i, member, toMiddle⟩, onward⟩
  | alt r s left right =>
    intro places inside j
    simp only [route, Route.reach, Nat.testBit_or, Bool.or_eq_true, left places inside,
      right places inside, leads_alt, and_or_left, exists_or]
  | «repeat» r least most ih => exact takes_repeat leads_forward ih

/-- A text has a stretch that matches exactly when the search finds a place. -/
theorem matchesWithin_iff {text : String} :
    r.matchesWithin text = true ↔
      ∃ before t after, text.toList = before.reverse ++ (t ++ after) ∧
        Matches r before t after := by
  have places (j : Nat) := takes_reach (r := r) (.behindAtMost text.toList.length)
    (fun i => Places.testBit_behindAtMost.1) j
  rw [matchesWithin, bne_iff_ne, Places.ne_zero_iff]
  constructor
  · rintro ⟨j, member⟩
    obtain ⟨i, -, before, t, after, cut, -, -, matched⟩ := (places j).1 member
    exact ⟨before, t, after, cut, matched⟩
  · rintro ⟨before, t, after, cut, matched⟩
    refine ⟨_, (places _).2 ⟨before.length, Places.testBit_behindAtMost.2 ?_,
      before, t, after, cut, rfl, rfl, matched⟩⟩
    rw [cut]
    simp

end Regex

end DocumentSchema

import DocumentSchema.Proofs.Pattern.Groups

/-!
How deep a pattern nests.

Nothing that is read gets lost: each part that a reading holds stands somewhere in the tree that
comes out in the end, so it nests no deeper than the whole tree (`within_of_readRest`).
-/

namespace DocumentSchema.Pattern

variable {cs : List Char} {piece : Piece} {state next final : Reading}
  {several : List Tree} {deepest : Nat}

theorem depths_le_iff : Tree.depths several ≤ deepest ↔ ∀ tree ∈ several, tree.depth ≤ deepest := by
  induction several with
  | nil => simp [Tree.depths]
  | cons tree several ih => rw [Tree.depths, Nat.max_le, ih, List.forall_mem_cons]

theorem depth_le_of_ofParts (bound : (Tree.ofParts several).depth ≤ deepest) :
    ∀ tree ∈ several, tree.depth ≤ deepest := by
  rcases several with _ | ⟨tree, _ | ⟨other, others⟩⟩
  · exact nofun
  · exact fun _ member => List.mem_singleton.1 member ▸ bound
  · exact depths_le_iff.1 (Nat.le_of_succ_le bound)

/-- The trees that are held for what is open. -/
def Frame.trees : Frame → List Tree
  | .group outer _ _ => outer
  | .choice branches => branches

/-- No tree that a reading holds nests deeper. -/
structure Reading.Within (deepest : Nat) (state : Reading) : Prop where
  parts : ∀ tree ∈ state.parts, tree.depth ≤ deepest
  frames : ∀ frame ∈ state.frames, ∀ tree ∈ frame.trees, tree.depth ≤ deepest

theorem within_of_body (bound : state.body.depth ≤ deepest) :
    ∀ tree ∈ state.parts, tree.depth ≤ deepest :=
  fun tree member => depth_le_of_ofParts bound tree (List.mem_reverse.2 member)

/-- The tree of a group holds what was read in it, with its choice. -/
theorem within_of_close (bound : state.close.1.depth ≤ deepest)
    (frames : ∀ frame ∈ state.close.2, ∀ tree ∈ frame.trees, tree.depth ≤ deepest) :
    state.Within deepest := by
  obtain ⟨opened, parts, blank, names⟩ := state
  rcases opened with _ | ⟨⟨outer, settings, blank'⟩ | branches, opened⟩
  · exact ⟨within_of_body bound, nofun⟩
  · exact ⟨within_of_body bound, frames⟩
  · have held := depths_le_iff.1 (Nat.le_of_succ_le bound)
    simp only [List.mem_reverse, List.forall_mem_cons] at held
    exact ⟨within_of_body held.1, List.forall_mem_cons.2 ⟨held.2, frames⟩⟩

theorem depth_enclose {settings : Option (List (Flag × Bool))} {body : Tree} :
    (enclose settings body).depth = body.depth + 1 := by
  cases settings <;> rfl

/-- A piece takes nothing away from what is held. -/
theorem within_of_take? (taken : state.take? piece = some next) (within : next.Within deepest) :
    state.Within deepest := by
  obtain ⟨parts, frames⟩ := within
  cases piece with
  | opening opening =>
    cases opening with
    | capture name =>
      simp only [Reading.take?, Reading.opened?] at taken
      split at taken
      · cases taken
      · cases taken
        exact ⟨(List.forall_mem_cons.1 frames).1, (List.forall_mem_cons.1 frames).2⟩
    | group settings =>
      cases taken
      exact ⟨(List.forall_mem_cons.1 frames).1, (List.forall_mem_cons.1 frames).2⟩
    | flags settings =>
      cases taken
      exact ⟨(List.forall_mem_cons.1 parts).2, frames⟩
  | closing =>
    simp only [Reading.take?, Reading.closeGroup?] at taken
    split at taken
    · next body outer settings blank opened closed =>
      cases taken
      obtain ⟨isBody, isOuter⟩ := List.forall_mem_cons.1 parts
      rw [depth_enclose] at isBody
      refine within_of_close ?_ ?_
      · rw [closed]
        exact Nat.le_of_succ_le isBody
      · rw [closed]
        exact List.forall_mem_cons.2 ⟨isOuter, frames⟩
    · cases taken
  | bar =>
    cases taken
    obtain ⟨opened, trees, blank, names⟩ := state
    rcases opened with _ | ⟨⟨outer, settings, blank'⟩ | branches, opened⟩
    · obtain ⟨branch, -⟩ := List.forall_mem_cons.1 frames
      exact ⟨within_of_body (List.forall_mem_cons.1 branch).1, by simp⟩
    · obtain ⟨branch, frames⟩ := List.forall_mem_cons.1 frames
      exact ⟨within_of_body (List.forall_mem_cons.1 branch).1, frames⟩
    · obtain ⟨branch, frames⟩ := List.forall_mem_cons.1 frames
      exact ⟨within_of_body (List.forall_mem_cons.1 branch).1,
        List.forall_mem_cons.2 ⟨(List.forall_mem_cons.1 branch).2, frames⟩⟩
  | item tree =>
    cases taken
    exact ⟨(List.forall_mem_cons.1 parts).2, frames⟩
  | repetition bounds =>
    simp only [Reading.take?, Reading.repeated?] at taken
    split at taken
    · cases taken
    · cases taken
    · cases taken
    · next part others _ _ held =>
      cases taken
      obtain ⟨repeated, others⟩ := List.forall_mem_cons.1 parts
      refine ⟨?_, frames⟩
      rw [held]
      exact List.forall_mem_cons.2 ⟨Nat.le_of_succ_le repeated, others⟩

theorem within_of_readRest (found : readRest state cs = some final)
    (finished : final.close.2 = []) : state.Within final.close.1.depth := by
  refine readRest_induction (motive := fun state _ => state.Within final.close.1.depth) ?_ ?_ found
  · exact fun _ => within_of_close (Nat.le_refl _) (finished ▸ nofun)
  · exact fun _ _ stepped _ within => within_of_take? stepped within

end DocumentSchema.Pattern

/-
# A staged tree and its mirror

A tree is staged once a fresh suite holds its registration. While the suite runs, how
far the groups have come is spread over the suite, which notes what is prepared, and
the cells of the rig, which keep results and may still keep those of earlier runs. A
tour mirrors a rig if it tells of every group the same as these two together.
-/

import DeferredSpec.Proofs.Walk
import Mathlib.Data.List.Nodup

namespace DeferredSpec

/-- Where a group stands: its address, and the cell for its result. -/
structure Post where
  address : Address
  cell : Nat

namespace ActionTree

mutual

/-- The groups of a conventional tree with their cells in pre-order. `cell` is the number
of cells that were there before. -/
def posts (address : Address) (cell : Nat) : ActionTree → List Post
  | .node here children =>
      match here.variant with
      | .group => ⟨address, cell⟩ :: postsAll address 0 (cell + 1) children
      | _ => []

/-- The groups of several trees, the first of which has the given position. -/
def postsAll (parent : Address) (next cell : Nat) : List ActionTree → List Post
  | [] => []
  | child :: children =>
      posts (parent ++ [next]) cell child ++
        postsAll parent (next + 1) (cell + child.groupCount) children

end

mutual

/-- The cells of the groups of a tree lie in a row. -/
theorem cells_posts : ∀ (found : ActionTree) (address : Address) (cell : Nat),
    (found.posts address cell).map Post.cell = List.range' cell found.groupCount
  | .node here children, address, cell => by
      cases shape : here.variant with
      | group =>
          simp [posts, groupCount, shape, cells_postsAll children, List.range'_succ]
      | leafCase => simp [posts, groupCount, shape]
      | chainStep => simp [posts, groupCount, shape]

theorem cells_postsAll : ∀ (children : List ActionTree) (parent : Address) (next cell : Nat),
    (postsAll parent next cell children).map Post.cell =
      List.range' cell (groupCounts children)
  | [], parent, next, cell => by simp [postsAll, groupCounts]
  | child :: children, parent, next, cell => by
      rw [postsAll, groupCounts, List.map_append, cells_posts child, cells_postsAll children,
        ← List.range'_append_1]

end

mutual

/-- The groups of a tree lie below its root. -/
theorem prefix_of_mem_posts : ∀ (found : ActionTree) (address : Address) (cell : Nat) (post : Post),
    post ∈ found.posts address cell → address <+: post.address
  | .node here children, address, cell, post, member => by
      cases shape : here.variant with
      | group =>
          simp only [posts, shape, List.mem_cons] at member
          rcases member with rfl | member
          · exact List.prefix_rfl
          · obtain ⟨place, _, below⟩ := prefix_of_mem_postsAll children address 0 _ post member
            exact (List.prefix_append address [place]).trans below
      | leafCase => simp [posts, shape] at member
      | chainStep => simp [posts, shape] at member

/-- The groups of several trees lie below the root of one of them. -/
theorem prefix_of_mem_postsAll : ∀ (children : List ActionTree) (parent : Address)
    (next cell : Nat) (post : Post), post ∈ postsAll parent next cell children →
      ∃ place, next ≤ place ∧ parent ++ [place] <+: post.address
  | [], parent, next, cell, post, member => by simp [postsAll] at member
  | child :: children, parent, next, cell, post, member => by
      rw [postsAll, List.mem_append] at member
      rcases member with member | member
      · exact ⟨next, Nat.le_refl next, prefix_of_mem_posts child _ _ _ member⟩
      · obtain ⟨place, later, below⟩ := prefix_of_mem_postsAll children _ _ _ _ member
        exact ⟨place, by omega, below⟩

end

mutual

/-- No two groups of a tree have the same address. -/
theorem nodup_posts : ∀ (found : ActionTree) (address : Address) (cell : Nat),
    ((found.posts address cell).map Post.address).Nodup
  | .node here children, address, cell => by
      cases shape : here.variant with
      | group =>
          rw [posts, shape, List.map_cons, List.nodup_cons]
          refine ⟨fun member => ?_, nodup_postsAll children address 0 (cell + 1)⟩
          obtain ⟨post, listed, same⟩ := List.mem_map.mp member
          obtain ⟨place, _, below⟩ := prefix_of_mem_postsAll children address 0 _ post listed
          rw [same] at below
          exact not_concat_prefix address place below
      | leafCase => simp [posts, shape]
      | chainStep => simp [posts, shape]

theorem nodup_postsAll : ∀ (children : List ActionTree) (parent : Address) (next cell : Nat),
    ((postsAll parent next cell children).map Post.address).Nodup
  | [], parent, next, cell => by simp [postsAll]
  | child :: children, parent, next, cell => by
      rw [postsAll, List.map_append, List.nodup_append]
      refine ⟨nodup_posts child _ _, nodup_postsAll children _ _ _, ?_⟩
      rintro _ here other there rfl
      obtain ⟨post, listed, rfl⟩ := List.mem_map.mp here
      obtain ⟨further, also, same⟩ := List.mem_map.mp there
      have below := prefix_of_mem_posts child _ _ _ listed
      obtain ⟨place, later, beside⟩ := prefix_of_mem_postsAll children _ _ _ _ also
      rw [same] at beside
      -- Both children lie on the way to one address, so they have one position.
      have equal := List.prefix_of_prefix_length_le below beside (by simp)
      have position : next = place := by
        simpa using equal.eq_of_length (by simp)
      omega

end

/-- The groups below a child are groups below its parent. -/
theorem posts_subset_postsAll (parent : Address) (next cell : Nat) {children : List ActionTree}
    {position : Nat} {child : ActionTree} (found : children[position]? = some child) :
    child.posts (parent ++ [next + position]) (cell + groupCounts (children.take position)) ⊆
      postsAll parent next cell children := by
  induction children generalizing next cell position with
  | nil => simp at found
  | cons first rest ih =>
      rw [postsAll]
      cases position with
      | zero =>
          simp only [List.getElem?_cons_zero, Option.some.injEq] at found
          simp [found, groupCounts]
      | succ position =>
          rw [List.getElem?_cons_succ] at found
          have below := ih (next + 1) (cell + first.groupCount) found
          rw [Nat.succ_add_eq_add_succ, Nat.add_assoc] at below
          rw [List.take_succ_cons, groupCounts]
          exact List.subset_append_of_subset_right _ below

/-- Of two groups of a tree, the cells are the same just if the addresses are. -/
theorem cell_eq_iff_of_mem_posts {found : ActionTree} {address : Address} {cell : Nat}
    {first second : Post} (one : first ∈ found.posts address cell)
    (other : second ∈ found.posts address cell) :
    first.cell = second.cell ↔ first.address = second.address := by
  have cells : ((found.posts address cell).map Post.cell).Nodup := by
    rw [cells_posts]
    exact List.nodup_range'
  constructor
  · intro same
    rw [List.inj_on_of_nodup_map cells one other same]
  · intro same
    rw [List.inj_on_of_nodup_map (nodup_posts found address cell) one other same]

end ActionTree

/-- A conventional tree in its place among all trees, realized with a fresh suite. The
titles were composed in `world`, and there were `base` cells before. -/
structure Staging where
  forest : Array SpecTree
  index : Nat
  whole : SpecTree
  realizer : Realizer
  name : String
  world : World
  base : Nat
  placed : forest[index]? = some whole
  complete : whole.losses = []
  conventional : whole.root.isConventional

namespace Staging

variable (staging : Staging)

/-- The runner of the suite. -/
def runner : RunnerRef := staging.realizer.runner

/-- The entry of the tree. -/
def entry : Entry :=
  staging.realizer.entryOf staging.whole staging.index staging.world [] .nothing staging.base
    staging.whole.root

/-- The suite, of which the groups are prepared so far. -/
def suite (progress : GroupPath → Preparation) : Suite :=
  { (Suite.empty staging.name).addEntries [staging.entry] with progress }

@[simp] theorem suite_progress (progress : GroupPath → Preparation) :
    (staging.suite progress).progress = progress := rfl

theorem suite_reset (progress : GroupPath → Preparation) :
    (staging.suite progress).reset = staging.suite fun _ => .pending := rfl

/-- The groups of the tree. -/
def posts : List Post := staging.whole.root.posts [] staging.base

/-- The rig holds the suite of the tree, and there is room for all results. -/
structure Stands (rig : Rig Runner) : Prop where
  isSuite : ∃ progress, rig.IsSuite staging.runner (staging.suite progress)
  roomy : ∀ post ∈ staging.posts, post.cell < rig.cells.size

end Staging

/-- How far the hooks of a group have come and what its cell holds agree with its
standing. What the cell of a group that left nothing in this run holds is of no matter. -/
def Standing.Agrees : Standing → Preparation → Option (Option Value) → Prop
  | .pending, .pending, _ => True
  | .stored result, .done, cell => cell = some (some result)
  | .failed error, .failed other, _ => error = other
  | _, _, _ => False

namespace Staging

variable (staging : Staging)

/-- The tour tells of every group the same as the suite and the cells of the rig. -/
structure Mirrors (tour : Tour) (rig : Rig Runner) : Prop where
  bench : rig.bench = tour.bench
  roomy : ∀ post ∈ staging.posts, post.cell < rig.cells.size
  standing : ∃ progress, rig.IsSuite staging.runner (staging.suite progress) ∧
    (∀ error, progress [] ≠ .failed error) ∧
    ∀ post ∈ staging.posts,
      (tour.standing post.address).Agrees (progress (0 :: post.address)) rig.cells[post.cell]?

variable {staging}

theorem Mirrors.stands {tour : Tour} {rig : Rig Runner} (mirrors : staging.Mirrors tour rig) :
    staging.Stands rig where
  isSuite := mirrors.standing.imp fun _ known => known.1
  roomy := mirrors.roomy

variable (staging)

/-- A part of a tour and a part of a run end alike: with results that correspond, or with
the same error. An error that is not ordinary ends the run, so nothing more is said of
the groups then. -/
inductive EndAlike {α β : Type} (correspond : α → β → Rig Runner → Prop) :
    Outcome α × Tour → Outcome β × Rig Runner → Prop
  | returned {left : α} {right : β} {tour : Tour} {rig : Rig Runner}
      (results : correspond left right rig) (mirrors : staging.Mirrors tour rig) :
      EndAlike correspond (.returned left, tour) (.returned right, rig)
  | raised {error : ErrorRef} {tour : Tour} {rig : Rig Runner}
      (bench : rig.bench = tour.bench) (stands : staging.Stands rig)
      (mirrors : tour.bench.world.isOrdinary error → staging.Mirrors tour rig) :
      EndAlike correspond (.raised error, tour) (.raised error, rig)

end Staging

end DeferredSpec

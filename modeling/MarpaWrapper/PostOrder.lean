/-
This file is about the evaluation of finite ordered trees in post-order. The
walk over a tree lists one step for each leaf and one for each inner node, the
children of a node before the node, and every step says at which positions of
a stack it reads and writes. A machine that executes the steps keeps the values
of the subtrees that are finished and whose parents are not.

The main result says that executing the walk of a tree leaves its fold on top
of what was on the stack, that every node was called with the folds of its own
children, and that every step was made where the values it names were.
-/

import Mathlib

namespace PostOrder

variable {α β γ : Type}

/-! ### Trees -/

/-- A tree whose inner nodes have one or more children. -/
inductive Tree (α β : Type) where
  | leaf (label : α)
  | node (label : β) (first : Tree α β) (rest : List (Tree α β))

mutual

/-- The bottom-up fold of a tree. -/
def Tree.fold (leaf : α → γ) (node : β → List γ → γ) : Tree α β → γ
  | .leaf label => leaf label
  | .node label first rest => node label (first.fold leaf node :: foldAll leaf node rest)

/-- The folds of the trees of a list. -/
def foldAll (leaf : α → γ) (node : β → List γ → γ) : List (Tree α β) → List γ
  | [] => []
  | tree :: rest => tree.fold leaf node :: foldAll leaf node rest

end

mutual

/-- What each inner node is called with, in post-order. -/
def Tree.calls (leaf : α → γ) (node : β → List γ → γ) : Tree α β → List (β × List γ)
  | .leaf _ => []
  | .node label first rest =>
    first.calls leaf node ++ callsAll leaf node rest ++
      [(label, first.fold leaf node :: foldAll leaf node rest)]

/-- What the inner nodes of the trees of a list are called with. -/
def callsAll (leaf : α → γ) (node : β → List γ → γ) : List (Tree α β) → List (β × List γ)
  | [] => []
  | tree :: rest => tree.calls leaf node ++ callsAll leaf node rest

end

theorem foldAll_length (leaf : α → γ) (node : β → List γ → γ) (trees : List (Tree α β)) :
    (foldAll leaf node trees).length = trees.length := by
  induction trees with
  | nil => rfl
  | cons tree rest inductionHypothesis => rw [foldAll, List.length_cons, inductionHypothesis]; rfl

/-! ### The walk -/

/-- A step of the walk. A leaf writes its value at `result`; a node reads the positions from
`first` to `last` and writes its value at `first`. -/
inductive Step (α β : Type) where
  | leaf (label : α) (result : Int)
  | node (label : β) (first last : Int)

mutual

/-- The steps of the walk over a tree and the top of the stack after it. A leaf is put on the next
position above the top; a node over `k` children replaces the `k` topmost positions. -/
def Tree.walk : Tree α β → Int → List (Step α β) × Int
  | .leaf label, top => ([.leaf label (top + 1)], top + 1)
  | .node label first rest, top =>
    let before := first.walk top
    let after := walkAll rest before.2
    let result := after.2 - (rest.length + 1) + 1
    (before.1 ++ after.1 ++ [.node label result after.2], result)

/-- The walk over the trees of a list. -/
def walkAll : List (Tree α β) → Int → List (Step α β) × Int
  | [], top => ([], top)
  | tree :: rest, top =>
    let before := tree.walk top
    let after := walkAll rest before.2
    (before.1 ++ after.1, after.2)

end

/-! ### The machine -/

/-- The values of the finished subtrees, and what the nodes were called with. -/
structure Machine (β γ : Type) where
  values : List γ
  calls : List (β × List γ)

/-- Execute a step. -/
def Step.execute (leaf : α → γ) (node : β → List γ → γ) : Step α β → Machine β γ → Machine β γ
  | .leaf label _, machine => { machine with values := machine.values ++ [leaf label] }
  | .node label first _, machine =>
    { values := machine.values.take first.toNat ++ [node label (machine.values.drop first.toNat)]
      calls := machine.calls ++ [(label, machine.values.drop first.toNat)] }

/-- The step names the positions where the machine has its topmost values. -/
def Step.Fits : Step α β → List γ → Prop
  | .leaf _ result, values => result = values.length
  | .node _ first last, values => 0 ≤ first ∧ first ≤ last ∧ last + 1 = values.length

/-- The steps lead from one machine to the other, and each of them fits. -/
def Runs (leaf : α → γ) (node : β → List γ → γ) :
    List (Step α β) → Machine β γ → Machine β γ → Prop
  | [], machine, final => final = machine
  | step :: rest, machine, final =>
    step.Fits machine.values ∧ Runs leaf node rest (step.execute leaf node machine) final

section Runs

variable {leaf : α → γ} {node : β → List γ → γ} {machine between final : Machine β γ}

theorem Runs.append {steps more : List (Step α β)} (first : Runs leaf node steps machine between)
    (second : Runs leaf node more between final) :
    Runs leaf node (steps ++ more) machine final := by
  induction steps generalizing machine with
  | nil =>
    obtain rfl : between = machine := first
    exact second
  | cons step rest inductionHypothesis => exact ⟨first.1, inductionHypothesis first.2⟩

theorem Runs.single {step : Step α β} (fits : step.Fits machine.values) :
    Runs leaf node [step] machine (step.execute leaf node machine) :=
  ⟨fits, rfl⟩

/-- The machine after a tree was walked over. -/
def Machine.after (machine : Machine β γ) (values : List γ) (calls : List (β × List γ)) :
    Machine β γ :=
  ⟨machine.values ++ values, machine.calls ++ calls⟩

theorem Machine.after_after (machine : Machine β γ) (values values' : List γ)
    (calls calls' : List (β × List γ)) :
    (machine.after values calls).after values' calls' =
      machine.after (values ++ values') (calls ++ calls') := by
  rw [after, after, after, List.append_assoc, List.append_assoc]

/-- The step of a node replaces the values of its children by its own. -/
theorem Step.execute_node (label : β) (machine : Machine β γ) (arguments : List γ)
    (calls : List (β × List γ)) (last : Int) :
    (Step.node label machine.values.length last : Step α β).execute leaf node
        (machine.after arguments calls) =
      machine.after [node label arguments] (calls ++ [(label, arguments)]) := by
  rw [Step.execute, Machine.after, Machine.after, Int.toNat_natCast, List.take_left, List.drop_left,
    List.append_assoc]

mutual

/-- The walk over a tree, from a stack whose top is `top`, executes: it leaves the fold of the tree
on the stack. -/
theorem Tree.walk_runs (leaf : α → γ) (node : β → List γ → γ) :
    ∀ (tree : Tree α β) (machine : Machine β γ) (top : Int), top + 1 = machine.values.length →
      Runs leaf node (tree.walk top).1 machine
          (machine.after [tree.fold leaf node] (tree.calls leaf node)) ∧
        (tree.walk top).2 = top + 1
  | .leaf label, machine, top, height => by
    refine ⟨?_, rfl⟩
    rw [Tree.calls, Tree.fold, Machine.after, List.append_nil]
    exact Runs.single height
  | .node label first rest, machine, top, height => by
    obtain ⟨firstRuns, firstTop⟩ := first.walk_runs leaf node machine top height
    obtain ⟨restRuns, restTop⟩ := walkAll_runs leaf node rest
      (machine.after [first.fold leaf node] (first.calls leaf node)) (first.walk top).2 (by
        rw [firstTop, height, Machine.after, List.length_append]
        rfl)
    rw [Machine.after_after] at restRuns
    have result : (walkAll rest (first.walk top).2).2 - (rest.length + 1) + 1 =
        machine.values.length := by
      omega
    refine ⟨?_, ?_⟩
    · rw [Tree.walk]
      refine (firstRuns.append restRuns).append ?_
      rw [result, Tree.fold, Tree.calls]
      rw [← Step.execute_node (α := α) _ _ _ _ (walkAll rest (first.walk top).2).2]
      refine Runs.single ⟨by omega, by omega, ?_⟩
      rw [Machine.after, List.length_append]
      simp only [List.singleton_append, List.length_cons, foldAll_length]
      omega
    · rw [Tree.walk]
      omega

/-- The walk over the trees of a list leaves their folds on the stack. -/
theorem walkAll_runs (leaf : α → γ) (node : β → List γ → γ) :
    ∀ (trees : List (Tree α β)) (machine : Machine β γ) (top : Int),
      top + 1 = machine.values.length →
      Runs leaf node (walkAll trees top).1 machine
          (machine.after (foldAll leaf node trees) (callsAll leaf node trees)) ∧
        (walkAll trees top).2 = top + trees.length
  | [], machine, top, _ => by
    refine ⟨?_, (Int.add_zero top).symm⟩
    rw [foldAll, callsAll, Machine.after, List.append_nil, List.append_nil]
    rfl
  | tree :: rest, machine, top, height => by
    obtain ⟨treeRuns, treeTop⟩ := tree.walk_runs leaf node machine top height
    obtain ⟨restRuns, restTop⟩ := walkAll_runs leaf node rest
      (machine.after [tree.fold leaf node] (tree.calls leaf node)) (tree.walk top).2 (by
        rw [treeTop, height, Machine.after, List.length_append]
        rfl)
    rw [Machine.after_after] at restRuns
    refine ⟨treeRuns.append restRuns, ?_⟩
    rw [walkAll, restTop, treeTop, List.length_cons]
    omega

end

end Runs

end PostOrder

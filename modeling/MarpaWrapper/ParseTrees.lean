/-
This file says which answers libmarpa's valuator gives for a parse tree. A tree
has tokens and nulled symbols as leaves and rules as inner nodes, and its steps
are those of the walk in post-order.

How far the tree iterator and the valuator have come is read off the record of
exchanges: a new iterator begins before the first tree, `marpa_t_next` goes to
the next tree and `marpa_v_step` to the next step of it.
-/

import MarpaWrapper.PostOrder
import MarpaWrapper.Valuation

namespace MarpaWrapper

variable {V : Type}

/-! ### Trees and their steps -/

/-- A leaf of a parse tree: a token with its value, or a nulled symbol. -/
inductive ParseLeaf where
  | token (symbolId value : Int)
  | nulled (symbolId : Int)

/-- A parse tree: its inner nodes are rules, with one or more children. -/
abbrev ParseTree : Type := PostOrder.Tree ParseLeaf Int

/-- The answer of `marpa_v_step` for a step of the walk. -/
def marpaStep : PostOrder.Step ParseLeaf Int → MarpaStep
  | .leaf (.token symbolId value) result => .token symbolId value result
  | .leaf (.nulled symbolId) result => .nullingSymbol symbolId result
  | .node ruleId first last => .rule ruleId first last first

/-- The steps of a tree, on an empty stack. -/
def ParseTree.steps (tree : ParseTree) : List MarpaStep := (tree.walk (-1)).1.map marpaStep

/-- The result index of a step is a non-negative `int`. -/
def MarpaStep.NonNegative : MarpaStep → Prop
  | .rule _ _ _ result => 0 ≤ result ∧ result < 2 ^ 31
  | .token _ _ result => 0 ≤ result ∧ result < 2 ^ 31
  | .nullingSymbol _ result => 0 ≤ result ∧ result < 2 ^ 31
  | _ => True

instance (step : MarpaStep) : Decidable step.NonNegative :=
  match step with
  | .rule .. | .token .. | .nullingSymbol .. => inferInstanceAs (Decidable (_ ∧ _))
  | .inactive | .initial | .other _ => inferInstanceAs (Decidable True)

/-! ### The iterator and the valuator -/

/-- The number of trees begun and the number of steps taken in the last of them, after one more
exchange. -/
def advance : Nat × Nat → Event V → Nat × Nat
  | _, .treeNew _ => (0, 0)
  | (trees, _), .treeNext _ => (trees + 1, 0)
  | (trees, steps), .step _ => (trees, steps + 1)
  | cursor, _ => cursor

/-- The number of trees begun since the iterator was created and the number of steps taken in the
last of them. -/
def cursor (events : List (Event V)) : Nat × Nat :=
  events.foldl advance (0, 0)

theorem cursor_append (events : List (Event V)) (event : Event V) :
    cursor (events ++ [event]) = advance (cursor events) event := by
  rw [cursor, List.foldl_append]
  rfl

/-- Exchanges that concern neither the iterator nor the valuator. -/
theorem cursor_quiet {events exchanges : List (Event V)}
    (quiet : ∀ event ∈ exchanges, ∀ cursor, advance cursor event = cursor) :
    cursor (events ++ exchanges) = cursor events := by
  induction exchanges generalizing events with
  | nil => rw [List.append_nil]
  | cons event rest inductionHypothesis =>
    rw [List.append_cons, inductionHypothesis fun other member =>
      quiet other (List.mem_cons_of_mem _ member), cursor_append, quiet event List.mem_cons_self]

/-- libmarpa finds the trees one after the other, gives the steps of each of them and then
`MARPA_STEP_INACTIVE`, and none of its calls fails. -/
structure ValuePhase.Walks (phase : ValuePhase V) (valueOption : MarpaWrapperValueOption V)
    (trees : List ParseTree) : Prop where
  bocageNew : ∀ events, phase.bocageNew events = true
  orderNew : ∀ events, phase.orderNew events = true
  highRankOnlySet : ∀ flag events, phase.highRankOnlySet flag events = flag
  rank : ∀ events, phase.rank events ≠ -2
  ambiguityMetric : valueOption.ambiguityb = false → ∀ events, phase.ambiguityMetric events ≤ 1
  isNull : valueOption.nullb = false → ∀ events, phase.isNull events < 1
  treeNew : ∀ events, phase.treeNew events = true
  treeNext : ∀ events, 0 ≤ phase.treeNext events ↔ (cursor events).1 < trees.length
  valueNew : ∀ events, phase.valueNew events = true
  valuedForce : ∀ events, 0 ≤ phase.valuedForce events
  step : ∀ events tree, trees[(cursor events).1 - 1]? = some tree →
    phase.step events = (tree.steps[(cursor events).2]?).getD .inactive

/-- A libmarpa that walks over the given trees. -/
def ValuePhase.walking (trees : List ParseTree) : ValuePhase V where
  latestEarleySet _ := 0
  bocageNew _ := true
  orderNew _ := true
  highRankOnlySet flag _ := flag
  rank _ := 0
  ambiguityMetric _ := 1
  isNull _ := 0
  treeNew _ := true
  treeNext events := if (cursor events).1 < trees.length then (cursor events).1 + 1 else -1
  valueNew _ := true
  valuedForce _ := 0
  step events := ((trees[(cursor events).1 - 1]?.map ParseTree.steps).getD [])[(cursor events).2]?.getD
    .inactive

theorem ValuePhase.walking_walks (valueOption : MarpaWrapperValueOption V)
    (trees : List ParseTree) : (ValuePhase.walking trees).Walks valueOption trees where
  bocageNew _ := rfl
  orderNew _ := rfl
  highRankOnlySet _ _ := rfl
  rank _ := show (0 : Int) ≠ -2 by decide
  ambiguityMetric _ _ := Int.le_refl 1
  isNull _ _ := Int.zero_lt_one
  treeNew _ := rfl
  treeNext events := by
    show 0 ≤ (if (cursor events).1 < trees.length then ((cursor events).1 : Int) + 1 else -1) ↔ _
    split
    · next below => exact ⟨fun _ => below, fun _ => by omega⟩
    · next above => exact ⟨fun negative => absurd negative (by decide), fun below => absurd below above⟩
  valueNew _ := rfl
  valuedForce _ := Int.le_refl 0
  step events tree found := by
    simp only [walking, found, Option.map_some, Option.getD_some]

/-- What holds of the last step and of the steps of the trees. -/
theorem ValuePhase.walking_step {trees : List ParseTree} {fact : MarpaStep → Prop}
    (inactive : fact .inactive) (steps : ∀ tree ∈ trees, ∀ step ∈ tree.steps, fact step)
    (events : List (Event V)) : fact ((ValuePhase.walking trees).step events) := by
  show fact (((trees[_]?.map ParseTree.steps).getD [])[_]?.getD .inactive)
  cases found : trees[(cursor events).1 - 1]? with
  | none => exact inactive
  | some tree =>
    rw [Option.map_some, Option.getD_some]
    cases taken : tree.steps[(cursor events).2]? with
    | none => exact inactive
    | some step => exact steps tree (List.mem_of_getElem? found) step (List.mem_of_getElem? taken)

end MarpaWrapper

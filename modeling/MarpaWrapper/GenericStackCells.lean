/-
This file shows that the cells of a stack hold different elements, the cells above
its entries among them, whatever the allocator grants. No operation copies a pointer
from one cell to another, and an element is stored in a block that was not handed out
before. So an operation changes one cell at most to something new, and every other
cell keeps what it holds or becomes empty.
-/

import MarpaWrapper.GenericStackAddresses
import MarpaWrapper.GenericStackTermination

namespace MarpaWrapper

open Effects

variable {V : Type} {libc : Libc V} {fuel : Nat} {stack stack' : GenericStack V}
  {world world' : World V} {index : Nat}

/-! ### What an operation does to the cells -/

/-- The elements in the cells are different blocks that were handed out. -/
structure GenericStack.HoldsApart (stack : GenericStack V) (world : World V) : Prop where
  apart : ∀ first second element other, stack.entry first = some element →
    stack.entry second = some other → element.address = other.address → first = second
  older : ∀ index element, stack.entry index = some element → element.address < world.nextAddress

/-- At most the cell at `index` comes to hold something new, a block that was handed out in
between. -/
structure GenericStack.StoresAt (stack : GenericStack V) (world : World V)
    (stack' : GenericStack V) (world' : World V) (index : Nat) : Prop where
  later : world.nextAddress ≤ world'.nextAddress
  cells : ∀ other element, stack'.entry other = some element →
    stack.entry other = some element ∨ other = index ∧ AllocatedBetween world world' element

theorem GenericStack.HoldsApart.later (holds : stack.HoldsApart world)
    (later : world.nextAddress ≤ world'.nextAddress) : stack.HoldsApart world' :=
  ⟨holds.apart, fun index element found => Nat.lt_of_lt_of_le (holds.older index element found) later⟩

/-- A block that is handed out next is apart from the elements in the cells. -/
theorem GenericStack.HoldsApart.fresh (holds : stack.HoldsApart world)
    {element : Option (Element V)}
    (fresh : ∀ output ∈ element, world.nextAddress ≤ output.address) (index : Nat) :
    Apart (stack.entry index) element := by
  intro held found output member same
  have old := holds.older index held found
  have new := fresh output member
  omega

theorem GenericStack.Fresh.holdsApart {optionp : Option (GenericStackOption V)}
    (fresh : stack.Fresh optionp) (world : World V) : stack.HoldsApart world := by
  refine ⟨fun first _ _ _ found => ?_, fun index _ found => ?_⟩
  · cases (fresh.entries first).symm.trans found
  · cases (fresh.entries index).symm.trans found

theorem GenericStack.Thins.storesAt (thins : stack.Thins stack')
    (later : world.nextAddress ≤ world'.nextAddress) (index : Nat) :
    stack.StoresAt world stack' world' index :=
  ⟨later, fun other element found => .inl (thins other element found)⟩

/-- The cells still hold different elements. -/
theorem GenericStack.HoldsApart.stores (holds : stack.HoldsApart world)
    (stores : stack.StoresAt world stack' world' index) : stack'.HoldsApart world' := by
  refine ⟨fun first second element other found found' same => ?_, fun cell element found => ?_⟩
  · rcases stores.cells first element found with old | ⟨rfl, fresh⟩ <;>
      rcases stores.cells second other found' with old' | ⟨rfl, fresh'⟩
    · exact holds.apart first second element other old old' same
    · have below := holds.older first element old
      exact absurd fresh'.1 (by omega)
    · have below := holds.older second other old'
      exact absurd fresh.1 (by omega)
    · rfl
  · rcases stores.cells cell element found with old | ⟨-, fresh⟩
    · exact Nat.lt_of_lt_of_le (holds.older cell element old) stores.later
    · exact fresh.2

/-- Writing a cell after others became empty. -/
theorem GenericStack.Thins.write (thins : stack.Thins stack') (sound : stack'.Sound)
    {content : Slot (Element V)} {size : Nat} (inside : index < stack'.allocSizei)
    (later : world.nextAddress ≤ world'.nextAddress)
    (fresh : ∀ element ∈ content.target?, AllocatedBetween world world' element) :
    stack.StoresAt world { stack' with
      bufpp := stack'.bufpp.set index content, stackSizei := size } world' index := by
  refine ⟨later, fun other element found => ?_⟩
  by_cases here : other = index
  · subst here
    rw [GenericStack.entry, List.getElem?_set_self (Nat.lt_of_lt_of_le inside sound.room)] at found
    exact .inr ⟨rfl, fresh element found⟩
  · rw [GenericStack.entry, List.getElem?_set_ne (Ne.symm here)] at found
    exact .inl (thins other element found)

/-! ### One operation -/

/-- A copy is a block that was not handed out before. -/
theorem copyElement_fresh {freed : Option (Element V)} {source : Element V}
    {copied : Option (Element V)}
    (run : copyElement libc stack freed source world = .ok copied world') :
    world.nextAddress ≤ world'.nextAddress ∧
      ∀ element ∈ copied, AllocatedBetween world world' element := by
  have begins : Owning (world.nextAddress ≤ ·) world [] world :=
    ⟨⟨[], (List.append_nil _).symm, fun _ member => absurd member List.not_mem_nil⟩,
      Nat.le_refl _, fun _ above => above, fun _ member => absurd member List.not_mem_nil⟩
  have owning := (copyElement_owned freed source).ok begins run
  refine ⟨owning.later, fun element member => owning.blocks _ ?_⟩
  cases member
  exact List.mem_cons_self

/-- The growth of the buffer leaves the entries, and it finds room when it succeeds. -/
theorem growBuffer_became (sound : stack.Sound) {grows : Bool} {grown : GenericStack V}
    (run : growBuffer libc fuel stack world = .ok (grows, grown) world') :
    stack.Became grown stack.stackSizei stack.entry ∧ world.nextAddress ≤ world'.nextAddress ∧
      (grows = true → grown.stackSizei < grown.allocSizei) := by
  rcases growBuffer_inv sound run with ⟨room, rfl, rfl, rfl⟩ | ⟨-, rfl, rfl, -, rfl⟩ |
    ⟨-, rfl, small, rfl, -, rfl⟩
  · exact ⟨sound.became, Nat.le_refl _, fun _ => room⟩
  · exact ⟨sound.became, Nat.le_refl _, nofun⟩
  · exact ⟨⟨sound.enlarged _ small, stack.enlarged_settings _, rfl, sound.enlarged_entry _⟩,
      Nat.le_succ _, fun _ => sound.enlarged_room _⟩

theorem GenericStack.Became.thins {size : Nat} (became : stack.Became stack' size stack.entry) :
    stack.Thins stack' :=
  fun index _ found => (became.entries index).symm.trans found

/-- A push stores behind the last entry. -/
theorem genericStackPushi_storesAt (sound : stack.Sound) {elementp : Option (Element V)}
    {result : Nat}
    (run : genericStackPushi libc fuel stack elementp world = .ok (result, stack') world') :
    stack.StoresAt world stack' world' stack.stackSizei := by
  obtain ⟨⟨grows, grown⟩, between, growth, rest⟩ := run_bind_eq_ok run
  obtain ⟨became, later, room⟩ := growBuffer_became sound growth
  cases grows with
  | false =>
    cases rest
    exact became.thins.storesAt later _
  | true =>
    have inside := room rfl
    rw [became.size] at inside
    simp only [if_true, became.size] at rest
    cases elementp with
    | none =>
      simp only at rest
      rw [run_bind_ok (writeCell_run (Nat.lt_of_lt_of_le inside became.sound.room))] at rest
      cases rest
      exact became.thins.write became.sound inside later fun _ member => nomatch member
    | some element =>
      obtain ⟨copied, after, copy, rest⟩ := run_bind_eq_ok rest
      obtain ⟨later', fresh⟩ := copyElement_fresh copy
      have through := Nat.le_trans later later'
      cases copied with
      | none =>
        cases rest
        exact became.thins.storesAt through _
      | some newElement =>
        simp only at rest
        rw [run_bind_ok (writeCell_run (Nat.lt_of_lt_of_le inside became.sound.room)),
          run_bind_ok (run_emit _ _)] at rest
        cases rest
        exact became.thins.write became.sound inside through fun element member =>
          (fresh element member).mono later (Nat.le_refl _)

theorem growTo_thins (sound : stack.Sound) {optionGrow : Bool} {grown : GenericStack V}
    (run : growTo libc fuel optionGrow stack index world = .ok grown world') :
    stack.Thins grown ∧ world.nextAddress ≤ world'.nextAddress := by
  unfold growTo at run
  split at run
  · exact growToLoop_thins fuel sound run
  · cases run
    exact ⟨.refl _, Nat.le_refl _⟩

theorem genericStackGetp_thins (sound : stack.Sound) {value : Option (Element V)}
    (run : genericStackGetp libc fuel stack index world = .ok (value, stack') world') :
    stack.Thins stack' ∧ world.nextAddress ≤ world'.nextAddress := by
  obtain ⟨grown, between, growth, rest⟩ := run_bind_eq_ok run
  have grew := growTo_thins sound growth
  by_cases refused : index ≥ grown.stackSizei ∧ ¬ grown.optionGrowOnGeti
  · rw [if_pos refused, run_bind_ok (reportFailure_eq _ _ _ _)] at rest
    cases rest
    exact grew
  · rw [if_neg refused] at rest
    obtain ⟨found, after, read, returned⟩ := run_bind_eq_ok rest
    obtain rfl := readCell_world read
    cases returned
    exact grew

/-- `seti` stores at its index. -/
theorem genericStackSeti_storesAt (sound : stack.Sound) (callable : stack.Callable)
    {elementp : Option (Element V)} {result : Nat}
    (run : genericStackSeti libc fuel stack index elementp world = .ok (result, stack') world') :
    stack.StoresAt world stack' world' index := by
  simp only [genericStackSeti] at run
  obtain ⟨grown, between, growth, rest⟩ := run_bind_eq_ok run
  obtain ⟨thins, later⟩ := growTo_thins sound growth
  obtain ⟨sound', settings, reached⟩ :=
    (growTo_inside_of_sound sound callable _).ok trivial growth
  by_cases refused : index ≥ grown.stackSizei ∧ ¬ grown.optionGrowOnSeti
  · rw [if_pos refused, run_bind_ok (reportFailure_eq _ _ _ _)] at rest
    cases rest
    exact GenericStack.Thins.storesAt thins (by exact later) _
  · rw [if_neg refused] at rest
    have inside : index < grown.allocSizei := by
      by_cases grows : stack.optionGrowOnSeti = true
      · exact reached grows
      · rw [settings.optionGrowOnSeti] at refused
        exact Nat.lt_of_lt_of_le (Nat.not_le.mp fun above => refused ⟨above, grows⟩) sound'.used
    have room := Nat.lt_of_lt_of_le inside sound'.room
    obtain ⟨cells, cleared, clear, rest⟩ := run_bind_eq_ok rest
    obtain rfl := (clearCell_inside (callable.of_sameSettings settings) room).ok trivial clear
    have later' := Nat.le_trans later (Grown.of_run (fun _ => clearCell_keeps _ _) clear).later
    have emptied : stack.StoresAt world { grown with bufpp := grown.bufpp.set index .null } cleared
        index :=
      thins.write sound' inside later' fun _ member => by cases member
    have written (size : Nat) {content : Slot (Element V)} {after : World V}
        (through : cleared.nextAddress ≤ after.nextAddress)
        (fresh : ∀ element ∈ content.target?, AllocatedBetween cleared after element) :
        stack.StoresAt world { grown with
          bufpp := (grown.bufpp.set index .null).set index content
          stackSizei := size } after index := by
      rw [List.set_set]
      exact thins.write sound' inside (Nat.le_trans later' through) fun element member =>
        (fresh element member).mono later' (Nat.le_refl _)
    cases elementp with
    | none =>
      cases rest
      exact thins.write sound' inside later' fun _ member => by cases member
    | some element =>
      obtain ⟨copied, after, copy, rest⟩ := run_bind_eq_ok rest
      obtain ⟨through, fresh⟩ := copyElement_fresh copy
      cases copied with
      | none =>
        cases rest
        exact ⟨Nat.le_trans later' through, fun other element found =>
          (emptied.cells other element found).imp_right (And.imp_right fun new =>
            new.mono (Nat.le_refl _) through)⟩
      | some newElement =>
        simp only at rest
        rw [run_bind_ok (writeCell_run (by rw [List.length_set]; exact room)),
          run_bind_ok (run_emit _ _)] at rest
        cases rest
        exact written _ through fresh

/-! ### Every stack that is reached -/

/-- Whatever the allocator grants, a call stores one element at most. -/
theorem stackCall_storesAt (sound : stack.Sound) (callable : stack.Callable)
    {call : StackCall (Element V)} {answer : StackAnswer (Element V)}
    (run : stackCall libc fuel call stack world = .ok (answer, stack') world') :
    ∃ index, stack.StoresAt world stack' world' index := by
  cases call with
  | pushi elementp =>
    obtain ⟨⟨result, next⟩, after, pushed, rest⟩ := run_bind_eq_ok run
    cases rest
    exact ⟨_, genericStackPushi_storesAt sound pushed⟩
  | popp =>
    by_cases occupied : 0 < stack.stackSizei
    · obtain ⟨next, after, popped, -, -, -, kept, later⟩ :=
        genericStackPopp_last libc sound occupied world
      rw [stackCall, run_bind_ok popped] at run
      cases run
      refine ⟨0, GenericStack.Thins.storesAt (fun index element found => ?_) later _⟩
      rcases kept index with same | ⟨-, empty⟩
      · exact same.symm.trans found
      · cases empty.symm.trans found
    · obtain ⟨after, popped, exchanged⟩ :=
        genericStackPopp_empty libc (show stack.stackSizei = 0 by omega) world
      rw [stackCall, run_bind_ok popped] at run
      cases run
      exact ⟨0, (GenericStack.Thins.refl _).storesAt exchanged.addresses _⟩
  | getp index =>
    obtain ⟨⟨value, next⟩, after, got, rest⟩ := run_bind_eq_ok run
    cases rest
    obtain ⟨thins, later⟩ := genericStackGetp_thins sound got
    exact ⟨0, thins.storesAt later _⟩
  | seti index elementp =>
    obtain ⟨⟨result, next⟩, after, set, rest⟩ := run_bind_eq_ok run
    cases rest
    exact ⟨index, genericStackSeti_storesAt sound callable set⟩
  | sizei =>
    cases run
    exact ⟨0, (GenericStack.Thins.refl _).storesAt (Nat.le_refl _) _⟩

/-- A sequence of calls keeps the elements in the cells apart. -/
theorem stackCalls_holdApart (calls : List (StackCall (Element V))) (sound : stack.Sound)
    (callable : stack.Callable) (holds : stack.HoldsApart world)
    {answers : List (StackAnswer (Element V))}
    (run : runCalls (stackCall libc fuel) calls stack world = .ok (answers, stack') world') :
    stack'.HoldsApart world' := by
  induction calls generalizing stack world answers with
  | nil =>
    cases run
    exact holds
  | cons call rest inductionHypothesis =>
    obtain ⟨answer, others, next, between, head, tail, -⟩ := runCalls_cons_eq_ok run
    obtain ⟨sound', settings⟩ := (stackCall_inside sound callable call).ok trivial head
    obtain ⟨index, stores⟩ := stackCall_storesAt sound callable head
    exact inductionHypothesis sound' (callable.of_sameSettings settings) (holds.stores stores) tail

/-- The cells of every stack that is reached hold different elements. -/
theorem StackReached.holdsApart {optionp : Option (GenericStackOption V)}
    (reached : StackReached libc optionp stack world)
    (callable : ∀ option ∈ optionp, option.Callable) : stack.HoldsApart world := by
  obtain ⟨fuel, elementSizei, start, created, between, calls, answers, new, run⟩ := reached
  have fresh := (genericStackNewp_inside (genericStackNewp_hasRoom new) optionp).ok trivial new
    created rfl
  exact stackCalls_holdApart calls fresh.sound (fresh.callable callable)
    (fresh.holdsApart between) run

end MarpaWrapper

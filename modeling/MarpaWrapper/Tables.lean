/-
This file is about tables of optional entries. A table is a function from
indices to entries; only a first part of it is in use. A list of optional
entries is the same thing with its size attached, and `Reads` says that a list
and the used part of a table agree. The operations of a growing array are
described twice, as changes of the list and as updates of the table, and the
lemmas say that the descriptions agree.

`occupants` collects the entries of a part of a table. How it changes when the
table changes is what a proof about the ownership of the entries needs.
-/

import Mathlib

namespace Tables

variable {α : Type} {table table' : Nat → Option α} {size index : Nat} {entry : Option α}

/-! ### Lists of optional entries -/

/-- The entries of a list are those of the first `size` indices of a table. -/
structure Reads (entries : List (Option α)) (size : Nat) (table : Nat → Option α) : Prop where
  length : entries.length = size
  lookup : ∀ index < size, entries[index]? = some (table index)

theorem Reads.nil (table : Nat → Option α) : Reads [] 0 table :=
  ⟨rfl, fun _ below => absurd below (Nat.not_lt_zero _)⟩

variable {entries : List (Option α)}

/-- Below the size the list has what the table has. -/
theorem Reads.join (reads : Reads entries size table) (below : index < size) :
    entries[index]?.join = table index := by
  rw [reads.lookup index below]
  rfl

theorem Reads.join_above (reads : Reads entries size table) (above : size ≤ index) :
    entries[index]?.join = none := by
  rw [List.getElem?_eq_none (by rw [reads.length]; exact above)]
  rfl

/-- An entry is appended. -/
theorem Reads.push (reads : Reads entries size table)
    (here : table' size = entry) (below : ∀ other < size, table' other = table other) :
    Reads (entries ++ [entry]) (size + 1) table' := by
  refine ⟨by rw [List.length_append, reads.length]; rfl, fun index inside => ?_⟩
  by_cases old : index < size
  · rw [List.getElem?_append_left (by rw [reads.length]; exact old), reads.lookup index old,
      below index old]
  · obtain rfl : index = size := by omega
    rw [List.getElem?_append_right (Nat.le_of_eq reads.length), reads.length, Nat.sub_self, here]
    rfl

/-- The last entry is dropped. -/
theorem Reads.pop (reads : Reads entries size table)
    (below : ∀ other < size - 1, table' other = table other) :
    Reads entries.dropLast (size - 1) table' := by
  refine ⟨by rw [List.length_dropLast, reads.length], fun index inside => ?_⟩
  rw [List.getElem?_dropLast, if_pos (by rw [reads.length]; exact inside),
    reads.lookup index (by omega), below index inside]

theorem Reads.getLast (reads : Reads entries size table) (occupied : 0 < size) :
    entries.getLast?.join = table (size - 1) := by
  rw [List.getLast?_eq_getElem?, reads.length, reads.join (by omega)]

/-- An entry is replaced. -/
theorem Reads.set (reads : Reads entries size table) (inside : index < size)
    (here : table' index = entry)
    (elsewhere : ∀ other < size, other ≠ index → table' other = table other) :
    Reads (entries.set index entry) size table' := by
  refine ⟨by rw [List.length_set, reads.length], fun other below => ?_⟩
  by_cases same : other = index
  · subst same
    rw [List.getElem?_set_self (by rw [reads.length]; exact below), here]
  · rw [List.getElem?_set_ne (Ne.symm same), reads.lookup other below, elsewhere other below same]

/-- The entries at `count` indices from `first` on, without the empty ones. -/
def occupants (table : Nat → Option α) (first count : Nat) : List α :=
  (List.range' first count).filterMap table

theorem occupants_succ (table : Nat → Option α) (first count : Nat) :
    occupants table first (count + 1) =
      (table first).toList ++ occupants table (first + 1) count := by
  rw [occupants, List.range'_succ, List.filterMap_cons]
  cases table first <;> rfl

theorem occupants_append (table : Nat → Option α) (first count more : Nat) :
    occupants table first (count + more) =
      occupants table first count ++ occupants table (first + count) more := by
  rw [occupants, ← List.range'_append_1, List.filterMap_append]
  rfl

theorem occupants_last (table : Nat → Option α) (first count : Nat) :
    occupants table first (count + 1) =
      occupants table first count ++ (table (first + count)).toList := by
  rw [occupants_append, occupants_succ]
  exact congrArg _ (List.append_nil _)

/-- Occupants depend on the part of the table that they are collected from. -/
theorem occupants_congr {first count : Nat}
    (same : ∀ index, first ≤ index → index < first + count → table' index = table index) :
    occupants table' first count = occupants table first count := by
  refine List.filterMap_congr fun index member => ?_
  obtain ⟨offset, below, rfl⟩ := List.mem_range'.mp member
  exact same _ (by omega) (by omega)

theorem occupants_empty {first count : Nat}
    (empty : ∀ index, first ≤ index → index < first + count → table index = none) :
    occupants table first count = [] := by
  rw [occupants, List.filterMap_eq_nil_iff]
  intro index member
  obtain ⟨offset, below, rfl⟩ := List.mem_range'.mp member
  exact empty _ (by omega) (by omega)

/-- A table that was extended by empty entries has the same occupants. -/
theorem occupants_extend {more : Nat} (below : ∀ other < size, table' other = table other)
    (empty : ∀ other, size ≤ other → other < size + more → table' other = none) :
    occupants table' 0 (size + more) = occupants table 0 size := by
  have old : occupants table' 0 size = occupants table 0 size :=
    occupants_congr fun other _ inside => below other (by omega)
  have new : occupants table' (0 + size) more = [] :=
    occupants_empty fun other above inside => empty other (by omega) (by omega)
  rw [occupants_append, old, new, List.append_nil]

theorem mem_occupants {first count : Nat} {occupant : α} :
    occupant ∈ occupants table first count ↔
      ∃ index, first ≤ index ∧ index < first + count ∧ table index = some occupant := by
  rw [occupants, List.mem_filterMap]
  constructor
  · rintro ⟨index, member, found⟩
    obtain ⟨offset, below, rfl⟩ := List.mem_range'.mp member
    exact ⟨_, by omega, by omega, found⟩
  · rintro ⟨index, above, below, found⟩
    exact ⟨index, List.mem_range'.mpr ⟨index - first, by omega, by omega⟩, found⟩

/-- A part of the table is cut at an index: the entries before it, its own, and those after it. -/
theorem occupants_split (table : Nat → Option α) (index rest : Nat) :
    occupants table 0 (index + (rest + 1)) =
      occupants table 0 index ++ ((table index).toList ++ occupants table (index + 1) rest) := by
  rw [occupants_append, Nat.zero_add, occupants_succ]

/-- Writing an entry exchanges the old one for the new one. -/
theorem occupants_update_perm (inside : index < size) (here : table' index = entry)
    (elsewhere : ∀ other < size, other ≠ index → table' other = table other) :
    ((table index).toList ++ occupants table' 0 size).Perm
      (entry.toList ++ occupants table 0 size) := by
  obtain ⟨rest, rfl⟩ : ∃ rest, size = index + (rest + 1) := ⟨size - index - 1, by omega⟩
  have before : occupants table' 0 index = occupants table 0 index :=
    occupants_congr fun other _ below => elsewhere other (by omega) (by omega)
  have after : occupants table' (index + 1) rest = occupants table (index + 1) rest :=
    occupants_congr fun other above below => elsewhere other (by omega) (by omega)
  rw [occupants_split, occupants_split, before, after, here]
  calc ((table index).toList ++ (occupants table 0 index ++
          (entry.toList ++ occupants table (index + 1) rest)))
    _ |>.Perm (occupants table 0 index ++ ((table index).toList ++
          (entry.toList ++ occupants table (index + 1) rest))) := List.perm_append_comm_assoc ..
    _ |>.Perm (occupants table 0 index ++ (entry.toList ++
          ((table index).toList ++ occupants table (index + 1) rest))) :=
        (List.perm_append_comm_assoc ..).append_left _
    _ |>.Perm (entry.toList ++ (occupants table 0 index ++
          ((table index).toList ++ occupants table (index + 1) rest))) :=
        List.perm_append_comm_assoc ..

end Tables

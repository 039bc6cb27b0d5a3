import Mathlib.Data.List.Basic

namespace NouvaAgent.Interaction

variable {α : Type}

/-- Arrays that are shared by reference: a reference is the place an array was allocated at. -/
abbrev Arrays (α : Type) := List (List α)

namespace Arrays

def read (arrays : Arrays α) (array : ℕ) : Option (List α) := arrays[array]?

def allocate (arrays : Arrays α) (entries : List α) : Arrays α := arrays ++ [entries]

def store (arrays : Arrays α) (array index : ℕ) (entry : α) : Arrays α :=
  arrays.modify array (·.set index entry)

variable {arrays : Arrays α} {array other : ℕ} {entries : List α}

theorem lt_of_read (h : arrays.read array = some entries) : array < arrays.length :=
  (List.getElem?_eq_some_iff.mp h).1

theorem read_allocate (arrays : Arrays α) (entries : List α) :
    (arrays.allocate entries).read arrays.length = some entries := by
  simp [read, allocate]

theorem read_allocate_of_lt (h : array < arrays.length) (entries : List α) :
    (arrays.allocate entries).read array = arrays.read array := by
  simp [read, allocate, List.getElem?_append_left h]

theorem read_store (h : arrays.read array = some entries) (index : ℕ) (entry : α) :
    (arrays.store array index entry).read array = some (entries.set index entry) := by
  unfold read at h
  simp [read, store, h]

theorem read_store_of_ne (h : array ≠ other) (index : ℕ) (entry : α) :
    (arrays.store array index entry).read other = arrays.read other := by
  simp [read, store, List.getElem?_modify_ne _ _ h]

@[simp] theorem length_store (arrays : Arrays α) (array index : ℕ) (entry : α) :
    (arrays.store array index entry).length = arrays.length := List.length_modify ..

@[simp] theorem length_allocate (arrays : Arrays α) (entries : List α) :
    (arrays.allocate entries).length = arrays.length + 1 := List.length_append

end Arrays

end NouvaAgent.Interaction

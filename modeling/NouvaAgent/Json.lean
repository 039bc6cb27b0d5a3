import NouvaAgent.LiteralRedaction
import Mathlib.Data.Rat.Defs

namespace NouvaAgent

/-- A value as `JSON.parse` reads one: a number is a rational, an object the list of its own
properties in order. -/
inductive Json where
  | null
  | bool (value : Bool)
  | num (value : ℚ)
  | str (value : Units)
  | arr (items : List Json)
  | obj (entries : List (Units × Json))
  deriving Repr

namespace Json

mutual

def decEq : (a b : Json) → Decidable (a = b)
  | .null, .null => isTrue rfl
  | .bool a, .bool b => if h : a = b then isTrue (by rw [h]) else isFalse (by simpa using h)
  | .num a, .num b => if h : a = b then isTrue (by rw [h]) else isFalse (by simpa using h)
  | .str a, .str b => if h : a = b then isTrue (by rw [h]) else isFalse (by simpa using h)
  | .arr a, .arr b =>
    match decEqItems a b with
    | isTrue h => isTrue (by rw [h])
    | isFalse h => isFalse (by simpa using h)
  | .obj a, .obj b =>
    match decEqEntries a b with
    | isTrue h => isTrue (by rw [h])
    | isFalse h => isFalse (by simpa using h)
  | .null, .bool _ | .null, .num _ | .null, .str _ | .null, .arr _ | .null, .obj _
  | .bool _, .null | .bool _, .num _ | .bool _, .str _ | .bool _, .arr _ | .bool _, .obj _
  | .num _, .null | .num _, .bool _ | .num _, .str _ | .num _, .arr _ | .num _, .obj _
  | .str _, .null | .str _, .bool _ | .str _, .num _ | .str _, .arr _ | .str _, .obj _
  | .arr _, .null | .arr _, .bool _ | .arr _, .num _ | .arr _, .str _ | .arr _, .obj _
  | .obj _, .null | .obj _, .bool _ | .obj _, .num _ | .obj _, .str _ | .obj _, .arr _ =>
    isFalse nofun

def decEqItems : (a b : List Json) → Decidable (a = b)
  | [], [] => isTrue rfl
  | [], _ :: _ | _ :: _, [] => isFalse nofun
  | x :: a, y :: b =>
    match decEq x y, decEqItems a b with
    | isTrue h, isTrue g => isTrue (by rw [h, g])
    | isFalse h, _ => isFalse (by simp [h])
    | _, isFalse g => isFalse (by simp [g])

def decEqEntries : (a b : List (Units × Json)) → Decidable (a = b)
  | [], [] => isTrue rfl
  | [], _ :: _ | _ :: _, [] => isFalse nofun
  | (k, x) :: a, (l, y) :: b =>
    if hk : k = l then
      match decEq x y, decEqEntries a b with
      | isTrue h, isTrue g => isTrue (by rw [hk, h, g])
      | isFalse h, _ => isFalse (by simp [h])
      | _, isFalse g => isFalse (by simp [g])
    else isFalse (by simp [hk])

end

instance : DecidableEq Json := decEq

def get? (entries : List (Units × Json)) (key : Units) : Option Json := entries.lookup key

def hasOwn (entries : List (Units × Json)) (key : Units) : Bool := (get? entries key).isSome

def define (entries : List (Units × Json)) (key : Units) (value : Json) : List (Units × Json) :=
  if hasOwn entries key then entries.map fun entry => if entry.1 = key then (key, value) else entry
  else entries ++ [(key, value)]

/-- `object[key] = value`, which defines no property of the name `__proto__`. -/
def assign (entries : List (Units × Json)) (key : Units) (value : Json) : List (Units × Json) :=
  if key = units "__proto__" then entries else define entries key value

def spread (left right : List (Units × Json)) : List (Units × Json) :=
  right.foldl (fun entries entry => define entries entry.1 entry.2) left

def delete (entries : List (Units × Json)) (key : Units) : List (Units × Json) :=
  entries.filter fun entry => entry.1 ≠ key

inductive Step where
  | key (name : Units)
  | index (i : ℕ)
  deriving DecidableEq, Repr

inductive Leaf : Json → List Step → Units → Prop
  | str (value : Units) : Leaf (.str value) [] value
  | item {items : List Json} {i : ℕ} {item : Json} {path : List Step} {value : Units}
      (hi : items[i]? = some item) (h : Leaf item path value) :
      Leaf (.arr items) (.index i :: path) value
  | entry {entries : List (Units × Json)} {key : Units} {item : Json} {path : List Step}
      {value : Units} (he : (key, item) ∈ entries) (h : Leaf item path value) :
      Leaf (.obj entries) (.key key :: path) value

section

variable {entries left right : List (Units × Json)} {key name : Units} {value item : Json}

theorem mem_define (h : (name, item) ∈ define entries key value) :
    (name = key ∧ item = value) ∨ (name, item) ∈ entries := by
  unfold define at h
  split at h
  · obtain ⟨⟨k, v⟩, hmem, heq⟩ := List.mem_map.mp h
    dsimp only at heq
    split at heq
    · obtain ⟨rfl, rfl⟩ := Prod.mk.inj heq
      exact .inl ⟨rfl, rfl⟩
    · obtain ⟨rfl, rfl⟩ := Prod.mk.inj heq
      exact .inr hmem
  · obtain h | h := List.mem_append.mp h
    · exact .inr h
    · obtain ⟨rfl, rfl⟩ := Prod.mk.inj (List.mem_singleton.mp h)
      exact .inl ⟨rfl, rfl⟩

theorem mem_assign (h : (name, item) ∈ assign entries key value) :
    (name = key ∧ item = value) ∨ (name, item) ∈ entries := by
  unfold assign at h
  split at h
  · exact .inr h
  · exact mem_define h

theorem mem_spread (h : (name, item) ∈ spread left right) :
    (name, item) ∈ right ∨ (name, item) ∈ left := by
  unfold spread at h
  induction right generalizing left with
  | nil => exact .inr h
  | cons entry right ih =>
    obtain h | h := ih h
    · exact .inl (List.mem_cons_of_mem entry h)
    · obtain ⟨rfl, rfl⟩ | h := mem_define h
      · exact .inl List.mem_cons_self
      · exact .inr h

end

end Json

end NouvaAgent

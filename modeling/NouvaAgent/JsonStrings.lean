import NouvaAgent.Json

namespace NouvaAgent.Json

mutual

def mapStrings (f : Units → Units) : Json → Json
  | .null => .null
  | .bool value => .bool value
  | .num value => .num value
  | .str text => .str (f text)
  | .arr items => .arr (mapItems f items)
  | .obj entries => .obj (mapEntries f entries)

def mapItems (f : Units → Units) : List Json → List Json
  | [] => []
  | item :: rest => mapStrings f item :: mapItems f rest

def mapEntries (f : Units → Units) : List (Units × Json) → List (Units × Json)
  | [] => []
  | (key, entry) :: rest => (key, mapStrings f entry) :: mapEntries f rest

end

mutual

def strings : Json → List Units
  | .str text => [text]
  | .arr items => itemStrings items
  | .obj entries => entryStrings entries
  | .null | .bool _ | .num _ => []

def itemStrings : List Json → List Units
  | [] => []
  | item :: rest => strings item ++ itemStrings rest

def entryStrings : List (Units × Json) → List Units
  | [] => []
  | (_, entry) :: rest => strings entry ++ entryStrings rest

end

mutual

/-- Every object has each of its keys once, and only keys that are allowed. -/
def Keyed (allowed : Units → Bool) : Json → Prop
  | .arr items => KeyedItems allowed items
  | .obj entries => ((entries.map Prod.fst).Nodup ∧ (entries.map Prod.fst).all allowed = true) ∧
      KeyedEntries allowed entries
  | .null | .bool _ | .num _ | .str _ => True

def KeyedItems (allowed : Units → Bool) : List Json → Prop
  | [] => True
  | item :: rest => Keyed allowed item ∧ KeyedItems allowed rest

def KeyedEntries (allowed : Units → Bool) : List (Units × Json) → Prop
  | [] => True
  | (_, entry) :: rest => Keyed allowed entry ∧ KeyedEntries allowed rest

end

section

variable {f : Units → Units}

theorem mapEntries_eq (entries : List (Units × Json)) :
    mapEntries f entries = entries.map fun entry => (entry.1, mapStrings f entry.2) := by
  induction entries with
  | nil => rfl
  | cons entry rest ih =>
    unfold mapEntries
    rw [ih, List.map_cons]

theorem mapItems_eq (items : List Json) : mapItems f items = items.map (mapStrings f) := by
  induction items with
  | nil => rfl
  | cons item rest ih =>
    unfold mapItems
    rw [ih, List.map_cons]

theorem keys_mapEntries (entries : List (Units × Json)) :
    (mapEntries f entries).map Prod.fst = entries.map Prod.fst := by
  rw [mapEntries_eq, List.map_map]
  rfl

mutual

theorem mapStrings_eq_self : (value : Json) →
    (mapStrings f value = value ↔ ∀ text ∈ strings value, f text = text)
  | .null | .bool _ | .num _ => by simp [mapStrings, strings]
  | .str text => by simp [mapStrings, strings]
  | .arr items => by simp [mapStrings, strings, mapItems_eq_self items]
  | .obj entries => by simp [mapStrings, strings, mapEntries_eq_self entries]

theorem mapItems_eq_self : (items : List Json) →
    (mapItems f items = items ↔ ∀ text ∈ itemStrings items, f text = text)
  | [] => by simp [mapItems, itemStrings]
  | item :: rest => by
    simp only [mapItems, itemStrings, List.cons.injEq, List.forall_mem_append,
      mapStrings_eq_self item, mapItems_eq_self rest]

theorem mapEntries_eq_self : (entries : List (Units × Json)) →
    (mapEntries f entries = entries ↔ ∀ text ∈ entryStrings entries, f text = text)
  | [] => by simp [mapEntries, entryStrings]
  | (key, entry) :: rest => by
    simp only [mapEntries, entryStrings, List.cons.injEq, Prod.mk.injEq, true_and,
      List.forall_mem_append, mapStrings_eq_self entry, mapEntries_eq_self rest]

end

end

/-! What the properties of an object become where some of them are defined again. -/

section

variable {entries fields : List (Units × Json)} {key : Units} {value : Json}

theorem mem_of_get? (h : get? entries key = some value) : (key, value) ∈ entries := by
  obtain ⟨before, after, hsplit, -⟩ := List.lookup_eq_some_iff.mp h
  exact hsplit ▸ List.mem_append_right _ List.mem_cons_self

theorem get?_of_mem (hnodup : (entries.map Prod.fst).Nodup) (h : (key, value) ∈ entries) :
    get? entries key = some value := by
  induction entries with
  | nil => cases h
  | cons entry rest ih =>
    rw [List.map_cons, List.nodup_cons] at hnodup
    unfold get?
    rw [List.lookup_cons]
    obtain rfl | h := List.mem_cons.mp h
    · simp
    · have hne : key ≠ entry.1 := by
        rintro rfl
        exact hnodup.1 (List.mem_map.mpr ⟨(entry.1, value), h, rfl⟩)
      rw [beq_false_of_ne hne]
      exact ih hnodup.2 h

theorem hasOwn_iff : hasOwn entries key = true ↔ key ∈ entries.map Prod.fst := by
  constructor
  · intro h
    obtain ⟨value, hvalue⟩ := Option.isSome_iff_exists.mp h
    exact List.mem_map_of_mem (mem_of_get? hvalue)
  · intro h
    obtain ⟨⟨_, value⟩, hmem, rfl⟩ := List.mem_map.mp h
    refine Option.isSome_iff_ne_none.mpr fun hnone => ?_
    simpa using List.lookup_eq_none_iff.mp hnone _ hmem

theorem define_new (h : key ∉ entries.map Prod.fst) :
    define entries key value = entries ++ [(key, value)] :=
  if_neg fun hown => h (hasOwn_iff.mp hown)

theorem define_own (h : key ∈ entries.map Prod.fst) :
    define entries key value =
      entries.map fun entry => if entry.1 = key then (key, value) else entry :=
  if_pos (hasOwn_iff.mpr h)

theorem get?_cons (entry : Units × Json) (rest : List (Units × Json)) :
    get? (entry :: rest) key = if key = entry.1 then some entry.2 else get? rest key := by
  unfold get?
  rw [List.lookup_cons]
  by_cases hkey : key = entry.1
  · rw [if_pos hkey, beq_iff_eq.mpr hkey]
  · rw [if_neg hkey, beq_false_of_ne hkey]

theorem get?_eq_none (h : key ∉ entries.map Prod.fst) : get? entries key = none := by
  cases hget : get? entries key with
  | none => rfl
  | some value => exact absurd (List.mem_map_of_mem (mem_of_get? hget)) h

theorem spread_own (hnodup : (fields.map Prod.fst).Nodup)
    (hown : ∀ key ∈ fields.map Prod.fst, key ∈ entries.map Prod.fst) :
    spread entries fields =
      entries.map fun entry => (entry.1, (get? fields entry.1).getD entry.2) := by
  unfold spread
  induction fields generalizing entries with
  | nil => exact (List.map_id _).symm
  | cons field fields ih =>
    rw [List.map_cons, List.nodup_cons] at hnodup
    rw [List.map_cons, List.forall_mem_cons] at hown
    have hkeys : (define entries field.1 field.2).map Prod.fst = entries.map Prod.fst := by
      rw [define_own hown.1, List.map_map]
      refine List.map_congr_left fun entry _ => ?_
      by_cases hkey : entry.1 = field.1
      · exact (congrArg Prod.fst (if_pos hkey)).trans hkey.symm
      · exact congrArg Prod.fst (if_neg hkey)
    rw [List.foldl_cons, ih hnodup.2 (hkeys ▸ hown.2), define_own hown.1, List.map_map]
    refine List.map_congr_left fun entry _ => ?_
    rw [get?_cons, Function.comp_apply]
    by_cases hkey : entry.1 = field.1
    · rw [if_pos hkey, if_pos hkey, hkey, get?_eq_none hnodup.1]
      rfl
    · rw [if_neg hkey, if_neg hkey]

end

end NouvaAgent.Json

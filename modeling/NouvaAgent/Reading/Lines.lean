import Mathlib.Data.List.Basic

namespace NouvaAgent.Reading

variable {α : Type} [DecidableEq α]

def completed (separator : α) (text : List α) : List (List α) := (text.splitOn separator).dropLast

def unfinished (separator : α) (text : List α) : List α := (text.splitOn separator).getLastD []

/-- `line.replace(/x$/, "")`. -/
def withoutLast (x : α) (line : List α) : List α :=
  if line.getLast? = some x then line.dropLast else line

variable {separator : α} {piece rest text : List α}

theorem completed_append_unfinished (separator : α) (text : List α) :
    completed separator text ++ [unfinished separator text] = text.splitOn separator := by
  unfold completed unfinished
  rw [List.getLastD_eq_getLast?, List.getLast?_eq_some_getLast (List.splitOn_ne_nil _ _)]
  exact List.dropLast_append_getLast _

@[simp] theorem completed_nil (separator : α) : completed separator [] = [] := rfl

@[simp] theorem unfinished_nil (separator : α) : unfinished separator [] = [] := rfl

theorem completed_of_not_mem (h : separator ∉ text) : completed separator text = [] := by
  unfold completed
  rw [List.splitOn_eq_singleton h]
  rfl

theorem unfinished_of_not_mem (h : separator ∉ text) : unfinished separator text = text := by
  unfold unfinished
  rw [List.splitOn_eq_singleton h]
  rfl

theorem completed_cons (h : separator ∉ piece) (rest : List α) :
    completed separator (piece ++ separator :: rest) = piece :: completed separator rest := by
  unfold completed
  rw [List.splitOn_append_cons_self_of_not_mem h,
    List.dropLast_cons_of_ne_nil (List.splitOn_ne_nil _ _)]

theorem unfinished_cons (h : separator ∉ piece) (rest : List α) :
    unfinished separator (piece ++ separator :: rest) = unfinished separator rest := by
  unfold unfinished
  rw [List.splitOn_append_cons_self_of_not_mem h]
  obtain ⟨first, others, hpieces⟩ := List.exists_cons_of_ne_nil (List.splitOn_ne_nil separator rest)
  rw [hpieces]
  rfl

theorem pieces_append (separator : α) (text more : List α) :
    completed separator (text ++ more) =
        completed separator text ++ completed separator (unfinished separator text ++ more) ∧
      unfinished separator (text ++ more) =
        unfinished separator (unfinished separator text ++ more) := by
  induction hn : text.length using Nat.strongRecOn generalizing text with
  | _ n ih =>
    by_cases hmem : separator ∈ text
    · obtain ⟨piece, rest, rfl, hpiece⟩ := List.eq_append_cons_of_mem hmem
      have hlt : rest.length < n := by
        rw [← hn, List.length_append, List.length_cons]
        omega
      obtain ⟨hcompleted, hunfinished⟩ := ih rest.length hlt rest rfl
      rw [List.append_assoc, List.cons_append, completed_cons hpiece, unfinished_cons hpiece,
        completed_cons hpiece, unfinished_cons hpiece, hcompleted, hunfinished]
      exact ⟨rfl, rfl⟩
    · rw [completed_of_not_mem hmem, unfinished_of_not_mem hmem]
      exact ⟨rfl, rfl⟩

end NouvaAgent.Reading

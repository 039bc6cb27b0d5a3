import Mathlib.Data.List.Induction
import NouvaAgent.Text

namespace NouvaAgent.Addresses

open Text

abbrev IPv4 := Fin (2 ^ 32)

abbrev IPv6 := Fin (2 ^ 128)

inductive IP
  | v4 (address : IPv4)
  | v6 (address : IPv6)
  deriving DecidableEq

def readOctet (text : List Char) : Option (Fin 256) :=
  if 1 ≤ text.length ∧ text.length ≤ 3 ∧ (text.length = 1 ∨ text.head? ≠ some '0') then
    (readDigits 10 text).bind fun n => if h : n < 256 then some ⟨n, h⟩ else none
  else none

def readIPv4 (text : List Char) : Option IPv4 :=
  match (text.splitOn '.').map readOctet with
  | [some a, some b, some c, some d] => some ⟨((a * 256 + b) * 256 + c) * 256 + d, by omega⟩
  | _ => none

def readGroup (text : List Char) : Option (Fin 65536) :=
  if 1 ≤ text.length ∧ text.length ≤ 4 then
    (readDigits 16 text).bind fun n => if h : n < 65536 then some ⟨n, h⟩ else none
  else none

def readGroups : List (List Char) → Option (List (Fin 65536))
  | [] => some []
  | [last] =>
    match readIPv4 last with
    | some a => some [⟨a / 65536, by omega⟩, ⟨a % 65536, by omega⟩]
    | none => (readGroup last).map fun group => [group]
  | text :: rest => do
    let group ← readGroup text
    let groups ← readGroups rest
    some (group :: groups)

def ellipsis : List Char → Option (List Char × List Char)
  | ':' :: ':' :: rest => some ([], rest)
  | c :: rest => (ellipsis rest).map fun (left, right) => (c :: left, right)
  | [] => none

def side (text : List Char) : List (List Char) := if text = [] then [] else text.splitOn ':'

def value (groups : List (Fin 65536)) : ℕ := groups.foldl (fun n group => n * 65536 + group) 0

theorem value_append (groups : List (Fin 65536)) (group : Fin 65536) :
    value (groups ++ [group]) = value groups * 65536 + group := by
  simp [value]

theorem value_lt (groups : List (Fin 65536)) : value groups < 65536 ^ groups.length := by
  induction groups using List.reverseRecOn with
  | nil => simp [value]
  | append_singleton groups group ih =>
    rw [value_append, List.length_append, List.length_singleton, pow_succ]
    omega

def pack (groups : List (Fin 65536)) : Option IPv6 :=
  if h : groups.length = 8 then some ⟨value groups, by
    have hlt := value_lt groups
    rw [h] at hlt
    exact hlt⟩
  else none

/-- An IPv6 address without a zone. A `::` stands for one group of zeros at least. -/
def readIPv6 (text : List Char) : Option IPv6 :=
  match ellipsis text with
  | none => (readGroups (text.splitOn ':')).bind pack
  | some (left, right) => do
    let before ← (side left).mapM readGroup
    let after ← readGroups (side right)
    if before.length + after.length ≤ 7 then
      pack (before ++ List.replicate (8 - before.length - after.length) 0 ++ after)
    else none

def readIP (text : List Char) : Option IP :=
  match readIPv4 text with
  | some address => some (.v4 address)
  | none => (readIPv6 text).map .v6

example : readIP "::ffff:1.2.3.4".toList = some (.v6 281470698652420) := by decide +kernel

example : readIP "010.0.0.1".toList = none := by decide +kernel

example : readIP "1:2:3:4:5:6:7::8".toList = none := by decide +kernel

end NouvaAgent.Addresses

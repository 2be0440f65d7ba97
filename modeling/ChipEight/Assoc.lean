/-
Association lists in the order of their first entries.

Entering a key anew changes its value and keeps its place; a key not yet entered goes
to the end.
-/

namespace ChipEight.Assoc

variable {α β : Type} [DecidableEq α]

/-- The list with `value` entered under `key`. -/
def enter (key : α) (value : β) : List (α × β) → List (α × β)
  | [] => [(key, value)]
  | entry :: rest =>
    if entry.1 = key then (key, value) :: rest else entry :: enter key value rest

/-- Enters all pairs, the first of them first. -/
def ofPairs (pairs : List (α × β)) : List (α × β) :=
  pairs.foldl (fun entries (key, value) => enter key value entries) []

/-- The value under a key. -/
def find? (key : α) : List (α × β) → Option β
  | [] => none
  | entry :: rest => if entry.1 = key then some entry.2 else find? key rest

end ChipEight.Assoc

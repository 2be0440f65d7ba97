/-
A key map is its layout read backward.

A layout may give one key of the host to several keys of the keypad.  Nothing read backward can
then give them all back, and the map knows the last of them.  `LastWith` says which one that is,
in words of the layout alone; `Inverts` says that a map knows these keys and nothing else, and
that it gives every key back just if no two of them share a host key.

The map is an association list that the entries of the layout went into one after the other, so
everything about it is shown from the end of the layout: what was entered last is found
(`find?_enter`), whatever was entered before.  Entering a host key anew keeps its place
(`keys_enter`), which is why the map counts no host key twice.
-/
import Mathlib.Data.Finset.Card
import ChipEight.KeyMap

namespace ChipEight

namespace Assoc

/-! ### Entries -/

section

variable {α β : Type}

/-- The keys of an association list, in order. -/
def keys (entries : List (α × β)) : List α := entries.map Prod.fst

theorem mem_keys_iff {key : α} {entries : List (α × β)} :
    key ∈ keys entries ↔ ∃ value, (key, value) ∈ entries := by
  simp [keys]

theorem keys_concat (entries : List (α × β)) (entry : α × β) :
    keys (entries ++ [entry]) = keys entries ++ [entry.1] := by
  simp [keys]

end

variable {α β : Type} [DecidableEq α] {key : α} {value : β} {entries pairs : List (α × β)}

/-- What was entered last is found, and all else as before. -/
theorem find?_enter (other : α) :
    find? other (enter key value entries) =
      if key = other then some value else find? other entries := by
  induction entries with
  | nil => rfl
  | cons entry rest ih =>
      by_cases hentry : entry.1 = key
      · -- the entry under the key gives way, and nobody else looked at it
        rw [enter, if_pos hentry]
        by_cases hother : key = other
        · simp [find?, hother]
        · simp [find?, hother, hentry]
      · rw [enter, if_neg hentry]
        by_cases hother : entry.1 = other
        · have hne : key ≠ other := fun h => hentry (hother.trans h.symm)
          simp [find?, hother, hne]
        · simpa [find?, hother] using ih

/-- A new key goes to the end, and one that is there keeps its place. -/
theorem keys_enter (key : α) (value : β) (entries : List (α × β)) :
    keys (enter key value entries) =
      if key ∈ keys entries then keys entries else keys entries ++ [key] := by
  induction entries with
  | nil => simp [enter, keys]
  | cons entry rest ih =>
      by_cases hentry : entry.1 = key
      · simp [enter, keys, hentry]
      · have hne : key ≠ entry.1 := Ne.symm hentry
        have hmem : key ∈ keys (entry :: rest) ↔ key ∈ keys rest := by simp [keys, hne]
        rw [enter, if_neg hentry]
        show entry.1 :: keys (enter key value rest) = _
        simp only [ih, hmem]
        split <;> rfl

theorem enter_of_not_mem (h : key ∉ keys entries) :
    enter key value entries = entries ++ [(key, value)] := by
  induction entries with
  | nil => rfl
  | cons entry rest ih =>
      have hne : entry.1 ≠ key := fun heq => h (by simp [keys, heq])
      have hrest : key ∉ keys rest := fun hmem => h (List.mem_cons_of_mem _ hmem)
      rw [enter, if_neg hne, ih hrest, List.cons_append]

theorem find?_eq_none_iff : find? key entries = none ↔ key ∉ keys entries := by
  induction entries with
  | nil => simp [find?, keys]
  | cons entry rest ih =>
      by_cases hentry : entry.1 = key
      · simp [find?, keys, hentry]
      · have hne : key ≠ entry.1 := Ne.symm hentry
        simpa [find?, keys, hentry, hne] using ih

/-- Among distinct keys a look-up finds every entry. -/
theorem find?_eq_some_iff (hkeys : (keys entries).Nodup) :
    find? key entries = some value ↔ (key, value) ∈ entries := by
  induction entries with
  | nil => simp [find?]
  | cons entry rest ih =>
      obtain ⟨hfresh, hrest⟩ := List.nodup_cons.1 hkeys
      by_cases hentry : entry.1 = key
      · -- no entry of the rest has the key, so the value is that of this one
        have habsent : (key, value) ∉ rest := fun hmem =>
          hfresh (hentry ▸ mem_keys_iff.2 ⟨value, hmem⟩)
        simp [find?, hentry, habsent, Prod.ext_iff, eq_comm]
      · have hne : (key, value) ≠ entry := fun heq => hentry (by rw [← heq])
        simpa [find?, hentry, hne] using ih hrest

/-! ### A row of pairs -/

theorem ofPairs_concat (pairs : List (α × β)) (entry : α × β) :
    ofPairs (pairs ++ [entry]) = enter entry.1 entry.2 (ofPairs pairs) := by
  simp [ofPairs]

theorem mem_keys_ofPairs : key ∈ keys (ofPairs pairs) ↔ key ∈ keys pairs := by
  induction pairs using List.reverseRecOn generalizing key with
  | nil => rfl
  | append_singleton pairs entry ih =>
      rw [ofPairs_concat, keys_enter, keys_concat, List.mem_append, List.mem_singleton]
      by_cases hmem : entry.1 ∈ keys (ofPairs pairs)
      · rw [if_pos hmem, ih]
        refine ⟨Or.inl, ?_⟩
        rintro (h | rfl)
        · exact h
        · exact ih.1 hmem
      · rw [if_neg hmem, List.mem_append, List.mem_singleton, ih]

/-- No key is there twice. -/
theorem nodup_keys_ofPairs (pairs : List (α × β)) : (keys (ofPairs pairs)).Nodup := by
  induction pairs using List.reverseRecOn with
  | nil => exact List.nodup_nil
  | append_singleton pairs entry ih =>
      rw [ofPairs_concat, keys_enter]
      by_cases hmem : entry.1 ∈ keys (ofPairs pairs)
      · rwa [if_pos hmem]
      · rw [if_neg hmem]
        rw [← List.concat_eq_append]
        exact ih.concat hmem

/-- Pairs with distinct keys stay as they are. -/
theorem ofPairs_of_nodup (hkeys : (keys pairs).Nodup) : ofPairs pairs = pairs := by
  induction pairs using List.reverseRecOn with
  | nil => rfl
  | append_singleton pairs entry ih =>
      rw [keys_concat] at hkeys
      have hbefore : (keys pairs).Nodup := hkeys.of_append_left
      have hfresh : entry.1 ∉ keys pairs := by
        intro hmem
        exact List.disjoint_of_nodup_append hkeys hmem (List.mem_singleton_self _)
      rw [ofPairs_concat, ih hbefore, enter_of_not_mem hfresh]

end Assoc

namespace KeyMap

/-! ### Reading a layout backward -/

section

variable {Host : Type} {layout : List (Int × Host)} {host : Host} {key : Int}

/-- The key is the last in a layout to have the host key. -/
def LastWith (layout : List (Int × Host)) (host : Host) (key : Int) : Prop :=
  ∃ before after, layout = before ++ (key, host) :: after ∧ ∀ entry ∈ after, entry.2 ≠ host

theorem LastWith.mem (h : LastWith layout host key) : (key, host) ∈ layout := by
  obtain ⟨before, after, rfl, -⟩ := h
  simp

theorem not_lastWith_nil : ¬ LastWith [] host key := by
  rintro ⟨before, after, hsplit, -⟩
  simp at hsplit

theorem keys_swap (layout : List (Int × Host)) :
    Assoc.keys (layout.map Prod.swap) = layout.map Prod.snd := by
  simp [Assoc.keys]

/-- The last entry decides, if it has the host key at all. -/
theorem lastWith_concat [DecidableEq Host] (entry : Int × Host) :
    LastWith (layout ++ [entry]) host key ↔
      if entry.2 = host then entry.1 = key else LastWith layout host key := by
  constructor
  · rintro ⟨before, after, hsplit, hafter⟩
    rcases List.eq_nil_or_concat after with rfl | ⟨middle, last, rfl⟩
    · obtain ⟨-, hentry⟩ := List.append_inj' hsplit rfl
      obtain rfl : entry = (key, host) := by simpa using hentry
      simp
    · -- the last entry stands behind the one that is meant, and so has another host key
      rw [List.concat_eq_append, ← List.cons_append, ← List.append_assoc] at hsplit
      obtain ⟨rfl, hlast⟩ := List.append_inj' hsplit rfl
      obtain rfl : entry = last := by simpa using hlast
      rw [if_neg (hafter entry (by simp))]
      exact ⟨before, middle, rfl, fun other hother => hafter other (by simp [hother])⟩
  · by_cases hentry : entry.2 = host
    · rw [if_pos hentry]
      intro hkey
      exact ⟨layout, [], by rw [← hkey, ← hentry], by simp⟩
    · rw [if_neg hentry]
      rintro ⟨before, after, rfl, hafter⟩
      refine ⟨before, after ++ [entry], by simp, ?_⟩
      intro other hother
      rcases List.mem_append.1 hother with h | h
      · exact hafter other h
      · rwa [List.mem_singleton.1 h]

end

variable {Host : Type} [DecidableEq Host] {layout pairs : List (Int × Host)}
variable {map : KeyMap Host} {host : Host} {key : Int}

/-! ### What a map knows -/

theorem layout_ofLayout (hkeys : (Assoc.keys layout).Nodup) :
    (ofLayout layout).layout = layout :=
  Assoc.ofPairs_of_nodup hkeys

/-- The map of a layout is searched as an association list that its entries went into. -/
theorem get?_ofLayout :
    (ofLayout pairs).get? host =
      Assoc.find? host (Assoc.ofPairs ((ofLayout pairs).layout.map Prod.swap)) :=
  rfl

theorem get?_ofLayout_eq_some_iff :
    (ofLayout pairs).get? host = some key ↔ LastWith (ofLayout pairs).layout host key := by
  rw [get?_ofLayout]
  induction (ofLayout pairs).layout using List.reverseRecOn with
  | nil => simp [Assoc.ofPairs, Assoc.find?, not_lastWith_nil]
  | append_singleton layout entry ih =>
      rw [List.map_append, List.map_singleton, Assoc.ofPairs_concat, Assoc.find?_enter,
        lastWith_concat]
      by_cases hentry : entry.2 = host
      · simp [hentry]
      · simpa [hentry] using ih

/-- The entries of the map are for the host keys of the layout. -/
theorem mem_keys_lookup :
    host ∈ Assoc.keys (ofLayout pairs).lookup ↔
      host ∈ (ofLayout pairs).layout.map Prod.snd := by
  rw [← keys_swap]
  exact Assoc.mem_keys_ofPairs

theorem get?_eq_none_iff : map.get? host = none ↔ host ∉ Assoc.keys map.lookup :=
  Assoc.find?_eq_none_iff

theorem get?_ofLayout_eq_none_iff :
    (ofLayout pairs).get? host = none ↔ ∀ key, (key, host) ∉ (ofLayout pairs).layout := by
  rw [get?_eq_none_iff, mem_keys_lookup]
  simp

theorem get?_eq_none_iff_contains : map.get? host = none ↔ map.contains host = false := by
  simp [contains]

theorem contains_iff : map.contains host = true ↔ host ∈ Assoc.keys map.lookup := by
  rw [← Bool.not_eq_false, ← get?_eq_none_iff_contains, get?_eq_none_iff, not_not]

/-- Every host key is counted once. -/
theorem size_ofLayout :
    (ofLayout pairs).size = ((ofLayout pairs).layout.map Prod.snd).toFinset.card := by
  have hnodup : (Assoc.keys (ofLayout pairs).lookup).Nodup := Assoc.nodup_keys_ofPairs _
  calc (ofLayout pairs).size
      = (Assoc.keys (ofLayout pairs).lookup).length := by simp [size, Assoc.keys]
    _ = (Assoc.keys (ofLayout pairs).lookup).toFinset.card :=
        (List.toFinset_card_of_nodup hnodup).symm
    _ = ((ofLayout pairs).layout.map Prod.snd).toFinset.card := by
        congr 1
        ext host
        rw [List.mem_toFinset, List.mem_toFinset, mem_keys_lookup]

/-! ### The inverse -/

/-- No two keys of a layout have the same host key. -/
def Unshared (layout : List (Int × Host)) : Prop :=
  ∀ key other host, (key, host) ∈ layout → (other, host) ∈ layout → key = other

theorem find?_of_contains_ofLayout (h : (ofLayout pairs).contains host = true) :
    ∃ key, (ofLayout pairs).get? host = some key ∧
      Assoc.find? key (ofLayout pairs).layout = some host := by
  obtain ⟨key, hkey⟩ := Option.isSome_iff_exists.1 h
  have hmem : (key, host) ∈ (ofLayout pairs).layout := (get?_ofLayout_eq_some_iff.1 hkey).mem
  exact ⟨key, hkey, (Assoc.find?_eq_some_iff (Assoc.nodup_keys_ofPairs pairs)).2 hmem⟩

/-- Two keys with one host key cannot both be what it stands for; and where there are no such
keys, the last with a host key is the only one. -/
theorem gives_back_iff_unshared :
    (∀ key host, Assoc.find? key (ofLayout pairs).layout = some host →
      (ofLayout pairs).get? host = some key) ↔ Unshared (ofLayout pairs).layout := by
  have hfind : ∀ key host, Assoc.find? key (ofLayout pairs).layout = some host ↔
      (key, host) ∈ (ofLayout pairs).layout :=
    fun key host => Assoc.find?_eq_some_iff (Assoc.nodup_keys_ofPairs pairs)
  constructor
  · intro hback key other host hkey hother
    have hget : (ofLayout pairs).get? host = some key := hback key host ((hfind _ _).2 hkey)
    have hget' : (ofLayout pairs).get? host = some other :=
      hback other host ((hfind _ _).2 hother)
    exact Option.some.inj (hget.symm.trans hget')
  · intro hunshared key host hlayout
    have hmem := (hfind key host).1 hlayout
    cases hget : (ofLayout pairs).get? host with
    | none => exact absurd hmem (get?_ofLayout_eq_none_iff.1 hget key)
    | some last =>
        have hlast := (get?_ofLayout_eq_some_iff.1 hget).mem
        rw [hunshared last key host hlast hmem]

/-- A map is a layout read backward. -/
structure Inverts (map : KeyMap Host) (layout : List (Int × Host)) : Prop where
  /-- The layout is remembered as it was given. -/
  layout_eq : map.layout = layout
  /-- A host key stands for the last key that has it. -/
  get?_eq_some_iff : ∀ host key, map.get? host = some key ↔ LastWith layout host key
  /-- A host key that no key has stands for nothing. -/
  get?_eq_none_iff : ∀ host, map.get? host = none ↔ ∀ key, (key, host) ∉ layout
  /-- The host keys that stand for nothing are those that are not in the map. -/
  get?_eq_none_iff_contains : ∀ host, map.get? host = none ↔ map.contains host = false
  /-- What is in the map are the host keys of its entries. -/
  contains_iff : ∀ host, map.contains host = true ↔ host ∈ Assoc.keys map.lookup
  /-- The key that a host key stands for has that host key in the layout. -/
  find?_of_contains : ∀ host, map.contains host = true →
    ∃ key, map.get? host = some key ∧ Assoc.find? key map.layout = some host
  /-- There are as many entries as there are host keys in the layout. -/
  size_eq : map.size = (layout.map Prod.snd).toFinset.card
  /-- All keys are given back by their host keys just if no two of them share one. -/
  gives_back_iff : (∀ key host, Assoc.find? key map.layout = some host →
    map.get? host = some key) ↔ Unshared layout

/-- **The map of a layout is the layout read backward,** whatever the layout, as long as it
gives each key one host key. -/
theorem ofLayout_inverts (layout : List (Int × Host)) (hkeys : (Assoc.keys layout).Nodup) :
    (ofLayout layout).Inverts layout := by
  have hlayout := layout_ofLayout hkeys
  refine
    { layout_eq := hlayout
      get?_eq_some_iff := ?_
      get?_eq_none_iff := ?_
      get?_eq_none_iff_contains := fun host => KeyMap.get?_eq_none_iff_contains
      contains_iff := fun host => KeyMap.contains_iff
      find?_of_contains := fun host h => find?_of_contains_ofLayout h
      size_eq := ?_
      gives_back_iff := ?_ }
  · intro host key
    rw [get?_ofLayout_eq_some_iff, hlayout]
  · intro host
    rw [get?_ofLayout_eq_none_iff, hlayout]
  · rw [size_ofLayout, hlayout]
  · rw [gives_back_iff_unshared, hlayout]

/-- A layout where the first and the last key have one host key. -/
def sharing : List (Int × Char) := [(0x5, 'w'), (0x6, 'e'), (0x7, 'w')]

theorem sharing_inverted : (Assoc.keys sharing).Nodup ∧ (ofLayout sharing).Inverts sharing :=
  ⟨by decide, ofLayout_inverts sharing (by decide)⟩

example : (ofLayout sharing).get? 'w' = some 0x7 := by decide

end KeyMap

end ChipEight

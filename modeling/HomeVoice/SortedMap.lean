/-!
# Finite maps in key order

A map is the list of its entries in strictly ascending key order, so that two maps with the same
entries are the same list and every listing comes out in key order. `get?_insert` says what one
insertion does to every lookup, and `ext` that lookups determine the map.
-/

namespace HomeVoice

/-- The order of the keys is a strict linear order. -/
class KeyOrder (κ : Type) [LT κ] : Prop where
  irrefl : ∀ key : κ, ¬ key < key
  trans : ∀ {first second third : κ}, first < second → second < third → first < third
  connected : ∀ {first second : κ}, ¬ first < second → ¬ second < first → first = second

/-- Texts are ordered character by character, by code point. -/
instance : KeyOrder String where
  irrefl := String.lt_irrefl
  trans := String.lt_trans
  connected notBelow notAbove :=
    String.le_antisymm (String.not_lt.mp notAbove) (String.not_lt.mp notBelow)

instance : KeyOrder Int where
  irrefl := Int.lt_irrefl
  trans := Int.lt_trans
  connected notBelow notAbove := by omega

/-- A map whose entries stand in strictly ascending key order. -/
structure SortedMap (κ ν : Type) [LT κ] where
  entries : List (κ × ν)
  ascending : entries.Pairwise (fun first second => first.1 < second.1)

namespace SortedMap

variable {κ ν : Type} [LT κ]

theorem eq_of_entries {first second : SortedMap κ ν} (same : first.entries = second.entries) :
    first = second := by
  cases first
  cases second
  cases same
  rfl

instance [DecidableEq κ] [DecidableEq ν] : DecidableEq (SortedMap κ ν) := fun first second =>
  decidable_of_iff (first.entries = second.entries) ⟨eq_of_entries, congrArg entries⟩

/-- Maps are compared entry by entry. -/
instance [BEq κ] [BEq ν] : BEq (SortedMap κ ν) :=
  ⟨fun first second => first.entries == second.entries⟩

/-- The map without entries. -/
def empty : SortedMap κ ν := ⟨[], .nil⟩

instance : Inhabited (SortedMap κ ν) := ⟨empty⟩

variable [DecidableEq κ] [DecidableLT κ] [KeyOrder κ]

/-- Put a value at its place in an ascending list, in the place of one with the same key. -/
def insertEntry (key : κ) (value : ν) : List (κ × ν) → List (κ × ν)
  | [] => [(key, value)]
  | entry :: rest =>
    if key < entry.1 then (key, value) :: entry :: rest
    else if entry.1 < key then entry :: insertEntry key value rest
    else (key, value) :: rest

omit [DecidableEq κ] [KeyOrder κ] in
theorem mem_of_mem_insertEntry {key : κ} {value : ν} {entry : κ × ν} {entries : List (κ × ν)}
    (member : entry ∈ insertEntry key value entries) : entry = (key, value) ∨ entry ∈ entries := by
  induction entries with
  | nil => simpa [insertEntry] using member
  | cons head rest inductive_step =>
    rw [insertEntry] at member
    split at member
    · simpa using member
    · split at member
      · rcases List.mem_cons.mp member with here | later
        · exact .inr (here ▸ List.mem_cons_self)
        · exact (inductive_step later).imp id (List.mem_cons_of_mem _)
      · exact (List.mem_cons.mp member).imp id (List.mem_cons_of_mem _)

omit [DecidableEq κ] in
theorem ascending_insertEntry {key : κ} {value : ν} {entries : List (κ × ν)}
    (ascending : entries.Pairwise (fun first second => first.1 < second.1)) :
    (insertEntry key value entries).Pairwise (fun first second => first.1 < second.1) := by
  induction entries with
  | nil => exact List.pairwise_singleton _ _
  | cons head rest inductive_step =>
    have ⟨headBelow, restAscending⟩ := List.pairwise_cons.mp ascending
    rw [insertEntry]
    split
    next below =>
      refine List.pairwise_cons.mpr ⟨?_, ascending⟩
      intro entry member
      rcases List.mem_cons.mp member with here | later
      · exact here ▸ below
      · exact KeyOrder.trans below (headBelow _ later)
    next notBelow =>
      split
      next above =>
        refine List.pairwise_cons.mpr ⟨?_, inductive_step restAscending⟩
        intro entry member
        rcases mem_of_mem_insertEntry member with new | old
        · exact new ▸ above
        · exact headBelow _ old
      next notAbove =>
        have same : key = head.1 := KeyOrder.connected notBelow notAbove
        exact List.pairwise_cons.mpr ⟨fun entry member => same ▸ headBelow _ member, restAscending⟩

/-- The map with the value at the key, whatever was there before. -/
def insert (map : SortedMap κ ν) (key : κ) (value : ν) : SortedMap κ ν :=
  ⟨insertEntry key value map.entries, ascending_insertEntry map.ascending⟩

/-- The value at a key in a list of entries. -/
def lookup (key : κ) : List (κ × ν) → Option ν
  | [] => none
  | entry :: rest => if entry.1 = key then some entry.2 else lookup key rest

/-- The value at the key, if there is one. -/
def get? (map : SortedMap κ ν) (key : κ) : Option ν := lookup key map.entries

/-- Some value is at the key. -/
def contains (map : SortedMap κ ν) (key : κ) : Bool := (map.get? key).isSome

def keys (map : SortedMap κ ν) : List κ := map.entries.map Prod.fst

def values (map : SortedMap κ ν) : List ν := map.entries.map Prod.snd

def size (map : SortedMap κ ν) : Nat := map.entries.length

def isEmpty (map : SortedMap κ ν) : Bool := map.entries.isEmpty

/-- The entries of a list inserted one after the other: of equal keys the last one stays. -/
def ofList (entries : List (κ × ν)) : SortedMap κ ν :=
  entries.foldl (fun map entry => map.insert entry.1 entry.2) empty

/-- The entries that pass a test. -/
def filter (keep : κ → ν → Bool) (map : SortedMap κ ν) : SortedMap κ ν :=
  ⟨map.entries.filter (fun entry => keep entry.1 entry.2), map.ascending.filter _⟩

/-- The map with a function applied to every value. -/
def mapValues {μ : Type} (f : ν → μ) (map : SortedMap κ ν) : SortedMap κ μ :=
  ⟨map.entries.map fun entry => (entry.1, f entry.2), map.ascending.map _ fun _ _ below => below⟩

omit [DecidableLT κ] [KeyOrder κ] in
@[simp] theorem get?_empty (key : κ) : (empty : SortedMap κ ν).get? key = none := rfl

theorem lookup_insertEntry (key other : κ) (value : ν) (entries : List (κ × ν)) :
    lookup other (insertEntry key value entries) =
      if key = other then some value else lookup other entries := by
  induction entries with
  | nil => simp [insertEntry, lookup]
  | cons head rest inductive_step =>
    rw [insertEntry]
    split
    · simp [lookup]
    next notBelow =>
      split
      next above =>
        rw [lookup, inductive_step, lookup]
        by_cases here : head.1 = other
        · have apart : key ≠ other := fun same => KeyOrder.irrefl other (by
            rw [← same] at here
            exact absurd (here ▸ above) (KeyOrder.irrefl _))
          simp [here, apart]
        · simp [here]
      next notAbove =>
        have same : key = head.1 := KeyOrder.connected notBelow notAbove
        simp only [lookup, same]
        split <;> rfl

/-- An insertion changes the lookup at its own key only. -/
theorem get?_insert (map : SortedMap κ ν) (key other : κ) (value : ν) :
    (map.insert key value).get? other = if key = other then some value else map.get? other :=
  lookup_insertEntry key other value map.entries

@[simp] theorem get?_insert_self (map : SortedMap κ ν) (key : κ) (value : ν) :
    (map.insert key value).get? key = some value := by
  simp [get?_insert]

omit [DecidableLT κ] in
theorem lookup_eq_none_of_below {key : κ} {entries : List (κ × ν)}
    (below : ∀ entry ∈ entries, key < entry.1) : lookup key entries = none := by
  induction entries with
  | nil => rfl
  | cons head rest inductive_step =>
    have apart : head.1 ≠ key := fun same =>
      KeyOrder.irrefl key (same ▸ below head List.mem_cons_self)
    simp only [lookup, apart, if_false]
    exact inductive_step fun entry member => below entry (List.mem_cons_of_mem _ member)

omit [DecidableLT κ] in
theorem entries_eq_of_lookup {first second : List (κ × ν)}
    (firstAscending : first.Pairwise (fun a b => a.1 < b.1))
    (secondAscending : second.Pairwise (fun a b => a.1 < b.1))
    (same : ∀ key, lookup key first = lookup key second) : first = second := by
  induction first generalizing second with
  | nil =>
    cases second with
    | nil => rfl
    | cons head rest => simpa [lookup] using same head.1
  | cons head rest inductive_step =>
    cases second with
    | nil => simpa [lookup] using same head.1
    | cons other others =>
      have ⟨headBelow, restAscending⟩ := List.pairwise_cons.mp firstAscending
      have ⟨otherBelow, othersAscending⟩ := List.pairwise_cons.mp secondAscending
      have sameKey : head.1 = other.1 := by
        apply KeyOrder.connected
        · intro below
          have absent : lookup head.1 (other :: others) = none :=
            lookup_eq_none_of_below fun entry member => by
              rcases List.mem_cons.mp member with here | later
              · exact here ▸ below
              · exact KeyOrder.trans below (otherBelow _ later)
          simpa [lookup] using (same head.1).trans absent
        · intro above
          have absent : lookup other.1 (head :: rest) = none :=
            lookup_eq_none_of_below fun entry member => by
              rcases List.mem_cons.mp member with here | later
              · exact here ▸ above
              · exact KeyOrder.trans above (headBelow _ later)
          simpa [lookup] using (same other.1).symm.trans absent
      have sameHead : head = other := by
        have found := same head.1
        simp only [lookup, sameKey, if_true, Option.some.injEq] at found
        exact Prod.ext sameKey found
      subst sameHead
      congr 1
      apply inductive_step restAscending othersAscending
      intro key
      have found := same key
      simp only [lookup] at found
      by_cases here : head.1 = key
      · rw [lookup_eq_none_of_below (here ▸ headBelow), lookup_eq_none_of_below (here ▸ otherBelow)]
      · simpa [here] using found

omit [DecidableLT κ] in
/-- Maps that answer every lookup alike are equal. -/
theorem ext {first second : SortedMap κ ν} (same : ∀ key, first.get? key = second.get? key) :
    first = second :=
  eq_of_entries (entries_eq_of_lookup first.ascending second.ascending same)

end SortedMap

/-- A set in ascending order. -/
abbrev SortedSet (κ : Type) [LT κ] := SortedMap κ Unit

/-- The set with one more member. -/
abbrev SortedSet.add {κ : Type} [LT κ] [DecidableEq κ] [DecidableLT κ] [KeyOrder κ]
    (set : SortedSet κ) (member : κ) : SortedSet κ :=
  set.insert member ()

/-- The set of a list's members. -/
abbrev SortedSet.ofList {κ : Type} [LT κ] [DecidableEq κ] [DecidableLT κ] [KeyOrder κ]
    (members : List κ) : SortedSet κ :=
  members.foldl SortedSet.add SortedMap.empty

end HomeVoice

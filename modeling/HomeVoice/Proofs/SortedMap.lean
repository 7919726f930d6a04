import HomeVoice.SortedMap

/-!
# Sorted maps by their look-ups

What is in a sorted map is what its look-ups find. The facts here carry that from one operation to
the next, so that no proof about a map has to look at the order of its entries. A map is rebuilt
from its own entries, which is what reading back a written map comes to.
-/

namespace HomeVoice.SortedMap

section Entries

variable {κ ν : Type} [LT κ]

theorem keys_mapValues {μ : Type} (f : ν → μ) (map : SortedMap κ ν) :
    (map.mapValues f).keys = map.keys := by
  unfold keys mapValues
  rw [List.map_map]
  rfl

theorem values_mapValues {μ : Type} (f : ν → μ) (map : SortedMap κ ν) :
    (map.mapValues f).values = map.values.map f := by
  unfold values mapValues
  rw [List.map_map, List.map_map]
  rfl

theorem values_filter (keep : ν → Bool) (map : SortedMap κ ν) :
    (map.filter fun _ value => keep value).values = map.values.filter keep := by
  unfold values filter
  rw [List.filter_map]
  rfl

theorem isEmpty_eq_keys (map : SortedMap κ ν) : map.isEmpty = map.keys.isEmpty := by
  unfold isEmpty keys
  cases map.entries <;> rfl

theorem mapValues_mapValues {μ ξ : Type} (f : ν → μ) (g : μ → ξ) (map : SortedMap κ ν) :
    (map.mapValues f).mapValues g = map.mapValues fun value => g (f value) := by
  apply eq_of_entries
  exact List.map_map

end Entries

variable {κ ν : Type} [LT κ] [DecidableEq κ]

theorem lookup_eq_some_of_mem [KeyOrder κ] {key : κ} {value : ν} {entries : List (κ × ν)}
    (ascending : entries.Pairwise (fun first second => first.1 < second.1))
    (member : (key, value) ∈ entries) : lookup key entries = some value := by
  induction entries with
  | nil => cases member
  | cons head rest ih =>
    have ⟨headBelow, restAscending⟩ := List.pairwise_cons.mp ascending
    rcases List.mem_cons.mp member with here | later
    · simp [lookup, ← here]
    · have apart : head.1 ≠ key := by
        intro same
        exact KeyOrder.irrefl key (same ▸ headBelow (key, value) later)
      simp only [lookup, apart, if_false]
      exact ih restAscending later

omit [LT κ] in
theorem mem_of_lookup_eq_some {key : κ} {value : ν} {entries : List (κ × ν)}
    (found : lookup key entries = some value) : (key, value) ∈ entries := by
  induction entries with
  | nil => cases found
  | cons head rest ih =>
    unfold lookup at found
    split at found
    next here =>
      cases found
      exact here ▸ List.mem_cons_self
    · exact List.mem_cons_of_mem _ (ih found)

section Views

variable [KeyOrder κ]

theorem mem_entries_iff {map : SortedMap κ ν} {key : κ} {value : ν} :
    (key, value) ∈ map.entries ↔ map.get? key = some value :=
  ⟨lookup_eq_some_of_mem map.ascending, mem_of_lookup_eq_some⟩

theorem mem_values_iff {map : SortedMap κ ν} {value : ν} :
    value ∈ map.values ↔ ∃ key, map.get? key = some value := by
  simp only [values, List.mem_map, Prod.exists, exists_eq_right, mem_entries_iff]

theorem mem_keys_iff {map : SortedMap κ ν} {key : κ} :
    key ∈ map.keys ↔ ∃ value, map.get? key = some value := by
  simp only [keys, List.mem_map, Prod.exists, exists_and_right, exists_eq_right, mem_entries_iff]

theorem isEmpty_iff {map : SortedMap κ ν} :
    map.isEmpty = true ↔ ∀ key, map.get? key = none := by
  simp only [isEmpty, List.isEmpty_iff, List.eq_nil_iff_forall_not_mem, Prod.forall, mem_entries_iff,
    Option.eq_none_iff_forall_ne_some, ne_eq]

omit [KeyOrder κ] in
theorem contains_iff {map : SortedMap κ ν} {key : κ} :
    map.contains key = true ↔ ∃ value, map.get? key = some value := by
  simp only [contains, Option.isSome_iff_exists]

/-- Sets with the same members are equal. -/
theorem ext_contains {first second : SortedSet κ}
    (same : ∀ key, first.contains key = true ↔ second.contains key = true) : first = second := by
  apply ext
  intro key
  have here := same key
  unfold contains at here
  cases known : first.get? key <;> cases other : second.get? key <;>
    simp [known, other] at here ⊢

theorem get?_filter (keep : κ → ν → Bool) (map : SortedMap κ ν) (key : κ) :
    (map.filter keep).get? key = (map.get? key).filter (keep key) := by
  apply Option.ext
  intro value
  rw [Option.filter_eq_some_iff, ← mem_entries_iff, ← mem_entries_iff]
  exact List.mem_filter

omit [KeyOrder κ] in
theorem get?_mapValues {μ : Type} (f : ν → μ) (map : SortedMap κ ν) (key : κ) :
    (map.mapValues f).get? key = (map.get? key).map f := by
  obtain ⟨entries, ascending⟩ := map
  show lookup key (entries.map fun entry => (entry.1, f entry.2)) = (lookup key entries).map f
  clear ascending
  induction entries with
  | nil => rfl
  | cons head rest ih =>
    simp only [List.map_cons, lookup]
    split
    · rfl
    · exact ih

/-- The map with one entry. -/
def single (key : κ) (value : ν) : SortedMap κ ν := ⟨[(key, value)], List.pairwise_singleton _ _⟩

omit [KeyOrder κ] in
theorem get?_single (key other : κ) (value : ν) :
    (single key value).get? other = if key = other then some value else none := rfl

end Views

section Building

variable [DecidableLT κ] [KeyOrder κ]

theorem insert_comm {first second : κ} (apart : first ≠ second) (map : SortedMap κ ν)
    (value other : ν) :
    (map.insert first value).insert second other =
      (map.insert second other).insert first value := by
  apply ext
  intro key
  simp only [get?_insert]
  by_cases here : first = key
  · subst here
    rw [if_neg apart.symm, if_pos rfl, if_pos rfl]
  · rw [if_neg here, if_neg here]

/-- An entry is put in and all others are taken away. -/
theorem filter_insert (map : SortedMap κ ν) (key : κ) (value : ν) :
    (map.insert key value).filter (fun other _ => decide (other = key)) = single key value := by
  apply ext
  intro other
  rw [get?_filter, get?_insert, get?_single]
  by_cases here : key = other
  · simp [here]
  · cases map.get? other <;> simp [here, Ne.symm here]

/-- Of several insertions at one key the last one counts. -/
theorem get?_foldl_insert {α : Type} (key : α → κ) (value : α → ν) (items : List α)
    (map : SortedMap κ ν) (wanted : κ) :
    (items.foldl (fun map item => map.insert (key item) (value item)) map).get? wanted =
      ((items.reverse.find? fun item => key item = wanted).map value).or (map.get? wanted) := by
  induction items generalizing map with
  | nil => simp
  | cons head rest ih =>
    rw [List.foldl_cons, ih, get?_insert, List.reverse_cons, List.find?_append]
    cases (rest.reverse.find? fun item => key item = wanted) with
    | some _ => simp
    | none => by_cases here : key head = wanted <;> simp [here]

theorem get?_foldl_insert_of_mem {α : Type} {key : α → κ} {value : α → ν} {items : List α}
    {item : α} (map : SortedMap κ ν) (member : item ∈ items)
    (unique : ∀ other ∈ items, key other = key item → value other = value item) :
    (items.foldl (fun map item => map.insert (key item) (value item)) map).get? (key item) =
      some (value item) := by
  rw [get?_foldl_insert]
  cases found : items.reverse.find? fun other => key other = key item with
  | none =>
    have nowhere := List.find?_eq_none.mp found item (List.mem_reverse.mpr member)
    simp at nowhere
  | some other =>
    have same : key other = key item := by simpa using List.find?_some found
    have known : other ∈ items := List.mem_reverse.mp (List.mem_of_find?_eq_some found)
    simp [unique other known same]

theorem get?_foldl_insert_of_notMem {α : Type} {key : α → κ} {value : α → ν} {items : List α}
    {wanted : κ} (map : SortedMap κ ν) (absent : ∀ item ∈ items, key item ≠ wanted) :
    (items.foldl (fun map item => map.insert (key item) (value item)) map).get? wanted =
      map.get? wanted := by
  rw [get?_foldl_insert, List.find?_eq_none.mpr]
  · rfl
  · intro item member
    simpa using absent item (List.mem_reverse.mp member)

/-- What is found after several insertions was inserted or was there before. -/
theorem get?_foldl_insert_cases {α : Type} (key : α → κ) (value : α → ν) {items : List α}
    {map : SortedMap κ ν} {wanted : κ} {found : ν}
    (present : (items.foldl (fun map item => map.insert (key item) (value item)) map).get? wanted =
      some found) :
    (∃ item ∈ items, key item = wanted ∧ value item = found) ∨ map.get? wanted = some found := by
  rw [get?_foldl_insert] at present
  refine (Option.or_eq_some_iff.mp present).imp ?_ And.right
  intro inserted
  obtain ⟨item, last, same⟩ := Option.map_eq_some_iff.mp inserted
  exact ⟨item, List.mem_reverse.mp (List.mem_of_find?_eq_some last),
    by simpa using List.find?_some last, same⟩

/-- What is there after several insertions was inserted or was there before. -/
theorem contains_foldl_insert {α : Type} (key : α → κ) (value : α → ν) {items : List α}
    {map : SortedMap κ ν} {wanted : κ} :
    (items.foldl (fun map item => map.insert (key item) (value item)) map).contains wanted = true ↔
      (∃ item ∈ items, key item = wanted) ∨ map.contains wanted = true := by
  rw [contains, get?_foldl_insert, Option.isSome_or, Option.isSome_map, Bool.or_eq_true,
    List.find?_isSome]
  simp [contains]

/-- Where all items come from a source and the map has the rest of it, laying the items over the map
gives what the source has, as far as `f` can tell. -/
theorem map_get?_foldl_insert {α ξ : Type} (key : α → κ) (value : α → ν) (f : ν → ξ)
    {items : List α} {map source : SortedMap κ ν}
    (taken : ∀ item ∈ items, source.get? (key item) = some (value item))
    (kept : ∀ wanted, (∀ item ∈ items, key item ≠ wanted) →
      (map.get? wanted).map f = (source.get? wanted).map f) (wanted : κ) :
    ((items.foldl (fun map item => map.insert (key item) (value item)) map).get? wanted).map f =
      (source.get? wanted).map f := by
  by_cases present : ∃ item ∈ items, key item = wanted
  · obtain ⟨item, member, rfl⟩ := present
    have unique : ∀ other ∈ items, key other = key item → value other = value item := by
      intro other known same
      have found := taken other known
      rw [same, taken item member] at found
      exact (Option.some.inj found).symm
    rw [get?_foldl_insert_of_mem map member unique, taken item member]
  · have absent : ∀ item ∈ items, key item ≠ wanted :=
      fun item member here => present ⟨item, member, here⟩
    rw [get?_foldl_insert_of_notMem map absent]
    exact kept wanted absent

theorem foldl_insert_eq {α : Type} (key : α → κ) (value : α → ν) {items : List α}
    {map source : SortedMap κ ν}
    (taken : ∀ item ∈ items, source.get? (key item) = some (value item))
    (kept : ∀ wanted, (∀ item ∈ items, key item ≠ wanted) →
      map.get? wanted = source.get? wanted) :
    items.foldl (fun map item => map.insert (key item) (value item)) map = source := by
  apply ext
  intro wanted
  have laid := map_get?_foldl_insert key value id taken
    (fun other absent => congrArg (Option.map id) (kept other absent)) wanted
  simpa only [Option.map_id, id_eq] using laid

theorem mem_of_get?_ofList {entries : List (κ × ν)} {key : κ} {value : ν}
    (found : (ofList entries).get? key = some value) : (key, value) ∈ entries := by
  unfold ofList at found
  rw [get?_foldl_insert, get?_empty, Option.or_none] at found
  obtain ⟨entry, last, same⟩ := Option.map_eq_some_iff.mp found
  have here : entry.1 = key := by simpa using List.find?_some last
  rw [← here, ← same]
  exact List.mem_reverse.mp (List.mem_of_find?_eq_some last)

theorem get?_ofList_of_mem {entries : List (κ × ν)} {key : κ} {value : ν}
    (member : (key, value) ∈ entries) (unique : ∀ other, (key, other) ∈ entries → other = value) :
    (ofList entries).get? key = some value := by
  refine @get?_foldl_insert_of_mem κ ν _ _ _ _ _ Prod.fst Prod.snd _ (key, value) empty member ?_
  intro other known same
  obtain ⟨otherKey, otherValue⟩ := other
  cases same
  exact unique otherValue known

/-- A map is what its own entries build up, in whatever it is they are inserted one by one. -/
theorem ofList_entries (map : SortedMap κ ν) : ofList map.entries = map := by
  apply ext
  intro key
  cases found : map.get? key with
  | some value =>
    refine get?_ofList_of_mem (mem_entries_iff.mpr found) ?_
    intro other member
    exact Option.some.inj ((mem_entries_iff.mp member).symm.trans found)
  | none =>
    cases built : (ofList map.entries).get? key with
    | none => rfl
    | some value =>
      have here := mem_entries_iff.mp (mem_of_get?_ofList built)
      rw [found] at here
      cases here

theorem mem_keys_setOfList {members : List κ} {key : κ} :
    key ∈ (SortedSet.ofList members).keys ↔ key ∈ members := by
  rw [mem_keys_iff]
  constructor
  · rintro ⟨value, found⟩
    have last := get?_foldl_insert (fun member => member) (fun _ => ()) members empty key
    rw [get?_empty, Option.or_none] at last
    obtain ⟨member, here, _⟩ := Option.map_eq_some_iff.mp (last.symm.trans found)
    have same : member = key := by simpa using List.find?_some here
    exact same ▸ List.mem_reverse.mp (List.mem_of_find?_eq_some here)
  · intro member
    exact ⟨(), @get?_foldl_insert_of_mem κ Unit _ _ _ _ κ (fun member => member) (fun _ => ())
      members key empty member fun _ _ _ => rfl⟩

end Building

section Mirrors

omit [DecidableEq κ]

variable {μ ξ : Type} [LT μ] {key : κ → μ} {value : ν → ξ}

/-- The rows are the entries of the map, with other keys and other values. -/
def Mirrors (key : κ → μ) (value : ν → ξ) (rows : SortedMap μ ξ) (map : SortedMap κ ν) : Prop :=
  rows.entries = map.entries.map fun entry => (key entry.1, value entry.2)

variable [DecidableLT κ] [DecidableLT μ]
  (order : ∀ first second, key first < key second ↔ first < second)

include order

private theorem insertEntry_map (newKey : κ) (newValue : ν) (entries : List (κ × ν)) :
    insertEntry (key newKey) (value newValue)
        (entries.map fun entry => (key entry.1, value entry.2)) =
      (insertEntry newKey newValue entries).map fun entry => (key entry.1, value entry.2) := by
  induction entries with
  | nil => rfl
  | cons head rest ih =>
    simp only [List.map_cons, insertEntry, order, ih]
    split
    · rfl
    · split <;> rfl

variable [KeyOrder κ] [KeyOrder μ]

theorem Mirrors.insert {rows : SortedMap μ ξ} {map : SortedMap κ ν}
    (mirrors : rows.Mirrors key value map) (newKey : κ) (newValue : ν) :
    (rows.insert (key newKey) (value newValue)).Mirrors key value (map.insert newKey newValue) := by
  unfold Mirrors SortedMap.insert
  dsimp only
  rw [mirrors]
  exact insertEntry_map order newKey newValue map.entries

/-- Where keys keep their order, rows and map keep in step through any number of insertions. -/
theorem Mirrors.foldl_insert {α : Type} {rows : SortedMap μ ξ} {map : SortedMap κ ν}
    (mirrors : rows.Mirrors key value map) (newKey : α → κ) (newValue : α → ν) (items : List α) :
    (items.foldl (fun rows item => rows.insert (key (newKey item)) (value (newValue item)))
        rows).Mirrors key value
      (items.foldl (fun map item => map.insert (newKey item) (newValue item)) map) := by
  induction items generalizing rows map with
  | nil => exact mirrors
  | cons head rest ih => exact ih (mirrors.insert order (newKey head) (newValue head))

end Mirrors

omit [DecidableEq κ] in
theorem mapValues_ofList [DecidableLT κ] [KeyOrder κ] {μ : Type} (f : ν → μ)
    (entries : List (κ × ν)) :
    (ofList entries).mapValues f = ofList (entries.map fun entry => (entry.1, f entry.2)) := by
  have nothing : (empty : SortedMap κ μ).Mirrors id f (empty : SortedMap κ ν) := rfl
  have mirrors := nothing.foldl_insert (fun _ _ => Iff.rfl) Prod.fst Prod.snd entries
  apply eq_of_entries
  unfold ofList
  rw [List.foldl_map]
  exact mirrors.symm

end HomeVoice.SortedMap

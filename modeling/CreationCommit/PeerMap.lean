import CreationCommit.Identity

/-!
# Maps and sets keyed by peers

A map holds its entries in the order of the peers, each peer once, so that two
maps with the same look-ups are the same map and every listing is sorted.  A
set of peers is a map to the unit type.
-/

namespace CreationCommit

/-- A finite map from peers, its entries in the order of the peers. -/
structure PeerMap (α : Type) where
  entries : List (PeerId × α)
  sorted : entries.Pairwise (fun earlier later => earlier.1 < later.1)

namespace PeerMap

variable {α : Type}

instance [DecidableEq α] : DecidableEq (PeerMap α) := fun first second =>
  decidable_of_iff (first.entries = second.entries)
    ⟨fun same => by cases first; cases second; congr, fun same => same ▸ rfl⟩

def empty : PeerMap α :=
  ⟨[], List.Pairwise.nil⟩

instance : EmptyCollection (PeerMap α) :=
  ⟨empty⟩

instance : Inhabited (PeerMap α) :=
  ⟨empty⟩

def get? (map : PeerMap α) (peer : PeerId) : Option α :=
  (map.entries.find? (fun entry => entry.1 = peer)).map (·.2)

def keys (map : PeerMap α) : List PeerId :=
  map.entries.map (·.1)

def size (map : PeerMap α) : Nat :=
  map.entries.length

def isEmpty (map : PeerMap α) : Bool :=
  map.entries.isEmpty

instance : Membership PeerId (PeerMap α) where
  mem map peer := peer ∈ map.keys

instance (peer : PeerId) (map : PeerMap α) : Decidable (peer ∈ map) :=
  inferInstanceAs (Decidable (peer ∈ map.keys))

/-- Place an entry among sorted entries, replacing the one of the same peer. -/
def placeEntry (peer : PeerId) (value : α) :
    List (PeerId × α) → List (PeerId × α)
  | [] => [(peer, value)]
  | entry :: rest =>
      if peer < entry.1 then (peer, value) :: entry :: rest
      else if entry.1 < peer then entry :: placeEntry peer value rest
      else (peer, value) :: rest

theorem mem_placeEntry {peer : PeerId} {value : α}
    {entries : List (PeerId × α)} {member : PeerId × α}
    (isMember : member ∈ placeEntry peer value entries) :
    member = (peer, value) ∨ member ∈ entries := by
  induction entries with
  | nil => simpa [placeEntry] using isMember
  | cons entry rest ih =>
      unfold placeEntry at isMember
      split at isMember
      · simpa using isMember
      · split at isMember
        · rcases List.mem_cons.1 isMember with isHead | inRest
          · exact .inr (by simp [isHead])
          · exact (ih inRest).imp_right (List.mem_cons_of_mem _)
        · exact (List.mem_cons.1 isMember).imp_right (List.mem_cons_of_mem _)

theorem pairwise_placeEntry {peer : PeerId} {value : α}
    {entries : List (PeerId × α)}
    (sorted : entries.Pairwise (fun earlier later => earlier.1 < later.1)) :
    (placeEntry peer value entries).Pairwise
      (fun earlier later => earlier.1 < later.1) := by
  induction entries with
  | nil => simp [placeEntry]
  | cons entry rest ih =>
      obtain ⟨headBefore, restSorted⟩ := List.pairwise_cons.1 sorted
      unfold placeEntry
      split
      · rename_i before
        refine List.pairwise_cons.2 ⟨fun later laterMem => ?_, sorted⟩
        rcases List.mem_cons.1 laterMem with rfl | laterMem
        · exact before
        · exact PeerId.lt_trans before (headBefore later laterMem)
      · split
        · rename_i after
          refine List.pairwise_cons.2 ⟨fun later laterMem => ?_, ih restSorted⟩
          rcases mem_placeEntry laterMem with rfl | laterMem
          · exact after
          · exact headBefore later laterMem
        · rename_i notBefore notAfter
          have same := PeerId.eq_of_not_lt notBefore notAfter
          refine List.pairwise_cons.2 ⟨fun later laterMem => ?_, restSorted⟩
          exact same ▸ headBefore later laterMem

/-- The map that holds `value` for `peer` and is otherwise as before. -/
def insert (map : PeerMap α) (peer : PeerId) (value : α) : PeerMap α :=
  ⟨placeEntry peer value map.entries, pairwise_placeEntry map.sorted⟩

def erase (map : PeerMap α) (peer : PeerId) : PeerMap α :=
  ⟨map.entries.filter (fun entry => entry.1 ≠ peer),
    map.sorted.sublist List.filter_sublist⟩

/-- The map of a list of entries, where the last entry of a peer counts. -/
def ofList (entries : List (PeerId × α)) : PeerMap α :=
  entries.foldl (fun map entry => map.insert entry.1 entry.2) ∅

theorem ext {first second : PeerMap α}
    (sameEntries : first.entries = second.entries) : first = second := by
  cases first
  cases second
  congr

@[simp]
theorem keys_empty : (∅ : PeerMap α).keys = [] :=
  rfl

theorem mem_iff {map : PeerMap α} {peer : PeerId} :
    peer ∈ map ↔ peer ∈ map.keys :=
  Iff.rfl

@[simp]
theorem not_mem_empty (peer : PeerId) : peer ∉ (∅ : PeerMap α) := by
  simp [mem_iff]

theorem nodup_keys (map : PeerMap α) : map.keys.Nodup := by
  unfold keys
  rw [List.nodup_iff_pairwise_ne, List.pairwise_map]
  exact map.sorted.imp PeerId.ne_of_lt

theorem get?_placeEntry (peer other : PeerId) (value : α)
    (entries : List (PeerId × α)) :
    ((placeEntry peer value entries).find? (fun entry => entry.1 = other)).map
        (·.2) =
      if other = peer then some value
      else (entries.find? (fun entry => entry.1 = other)).map (·.2) := by
  induction entries with
  | nil => by_cases same : peer = other <;> simp [placeEntry, same, eq_comm]
  | cons entry rest ih =>
      unfold placeEntry
      split
      · by_cases same : peer = other
        · simp [same]
        · simp [same, Ne.symm same]
      · split
        · rename_i after
          by_cases here : entry.1 = other
          · have differs : other ≠ peer := here ▸ PeerId.ne_of_lt after
            simp [here, differs]
          · simp [here, ih]
        · rename_i notBefore notAfter
          have same := PeerId.eq_of_not_lt notBefore notAfter
          by_cases here : peer = other
          · simp [here]
          · have differs : entry.1 ≠ other := same ▸ here
            simp [here, Ne.symm here, differs]

@[simp]
theorem get?_insert (map : PeerMap α) (peer other : PeerId) (value : α) :
    (map.insert peer value).get? other =
      if other = peer then some value else map.get? other :=
  get?_placeEntry peer other value map.entries

theorem mem_iff_isSome_get? {map : PeerMap α} {peer : PeerId} :
    peer ∈ map ↔ (map.get? peer).isSome := by
  simp [mem_iff, keys, get?]

theorem mem_of_get? {map : PeerMap α} {peer : PeerId} {value : α}
    (found : map.get? peer = some value) : peer ∈ map :=
  mem_iff_isSome_get?.2 (by simp [found])

/-- What is found after an insertion is the new value or was there before. -/
theorem get?_insert_cases {map : PeerMap α} {peer other : PeerId}
    {value result : α}
    (found : (map.insert peer value).get? other = some result) :
    other = peer ∧ result = value ∨
      other ≠ peer ∧ map.get? other = some result := by
  rw [get?_insert] at found
  split at found
  · rename_i isPeer
    exact .inl ⟨isPeer, (Option.some.inj found).symm⟩
  · rename_i differs
    exact .inr ⟨differs, found⟩

@[simp]
theorem get?_empty (peer : PeerId) : (∅ : PeerMap α).get? peer = none :=
  rfl

theorem get?_eq_none {map : PeerMap α} {peer : PeerId} :
    map.get? peer = none ↔ peer ∉ map := by
  rw [mem_iff_isSome_get?]
  simp

theorem isEmpty_iff {map : PeerMap α} : map.isEmpty ↔ map = ∅ := by
  constructor
  · intro noEntries
    exact ext (List.isEmpty_iff.1 noEntries)
  · rintro rfl
    rfl

@[simp]
theorem mem_insert {map : PeerMap α} {peer other : PeerId} {value : α} :
    other ∈ map.insert peer value ↔ other = peer ∨ other ∈ map := by
  rw [mem_iff_isSome_get?, mem_iff_isSome_get?, get?_insert]
  split <;> simp_all

@[simp]
theorem mem_erase {map : PeerMap α} {peer other : PeerId} :
    other ∈ map.erase peer ↔ other ≠ peer ∧ other ∈ map := by
  simp only [mem_iff, keys, erase, List.mem_map, List.mem_filter]
  constructor
  · rintro ⟨entry, ⟨entryMem, differs⟩, rfl⟩
    exact ⟨by simpa using differs, entry, entryMem, rfl⟩
  · rintro ⟨differs, entry, entryMem, rfl⟩
    exact ⟨entry, ⟨entryMem, by simpa using differs⟩, rfl⟩

end PeerMap

/-- A finite set of peers. -/
abbrev PeerSet :=
  PeerMap Unit

namespace PeerSet

def toList (peers : PeerSet) : List PeerId :=
  peers.keys

def insert (peers : PeerSet) (peer : PeerId) : PeerSet :=
  PeerMap.insert peers peer ()

def ofList (peers : List PeerId) : PeerSet :=
  peers.foldl insert ∅

@[simp]
theorem mem_toList {peers : PeerSet} {peer : PeerId} :
    peer ∈ peers.toList ↔ peer ∈ peers :=
  Iff.rfl

@[simp]
theorem mem_insert {peers : PeerSet} {peer other : PeerId} :
    other ∈ peers.insert peer ↔ other = peer ∨ other ∈ peers :=
  PeerMap.mem_insert

end PeerSet

end CreationCommit

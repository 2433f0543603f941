import CreationCommit.PeerMap
import Mathlib.Data.List.Nodup

/-!
# Maps and sets of peers from listings

The entries of a map are a listing of its look-ups in the order of the peers,
so the look-ups determine the map.  A map that is built from a listing without
repetitions holds just what is listed.
-/

namespace CreationCommit

namespace PeerMap

variable {α : Type} {map : PeerMap α} {peer : PeerId} {value : α}
  {entries : List (PeerId × α)}

theorem perm_placeEntry (new : peer ∉ entries.map (·.1)) :
    (placeEntry peer value entries).Perm ((peer, value) :: entries) := by
  induction entries with
  | nil => exact .refl _
  | cons entry rest ih =>
      simp only [List.map_cons, List.mem_cons, not_or] at new
      unfold placeEntry
      split
      · exact .refl _
      · split
        · exact ((ih new.2).cons entry).trans (.swap _ _ _)
        · rename_i notBefore notAfter
          exact absurd (PeerId.eq_of_not_lt notBefore notAfter) new.1

theorem size_insert (new : peer ∉ map) (value : α) :
    (map.insert peer value).size = map.size + 1 :=
  (perm_placeEntry new).length_eq

theorem mem_entries_iff :
    (peer, value) ∈ map.entries ↔ map.get? peer = some value := by
  obtain ⟨entries, sorted⟩ := map
  induction entries with
  | nil => simp [get?]
  | cons entry rest ih =>
      obtain ⟨headBefore, restSorted⟩ := List.pairwise_cons.1 sorted
      have later := ih restSorted
      obtain ⟨first, kept⟩ := entry
      by_cases same : first = peer
      · have notLater : (peer, value) ∉ rest := fun isLater =>
          PeerId.ne_of_lt (headBefore _ isLater) same
        simp [get?, same, notLater, eq_comm]
      · have differs : (peer, value) ≠ (first, kept) := fun isHead =>
          same (Prod.mk.inj isHead).1.symm
        simpa [get?, same, differs] using later

theorem nodup_entries (map : PeerMap α) : map.entries.Nodup :=
  .of_map Prod.fst map.nodup_keys

/-- Maps with the same look-ups are the same. -/
theorem ext_get? {first second : PeerMap α}
    (same : ∀ peer, first.get? peer = second.get? peer) : first = second := by
  have perm : first.entries.Perm second.entries := by
    rw [List.perm_ext_iff_of_nodup first.nodup_entries second.nodup_entries]
    rintro ⟨peer, value⟩
    rw [mem_entries_iff, mem_entries_iff, same]
  refine ext (perm.eq_of_pairwise ?_ first.sorted second.sorted)
  exact fun _ _ _ _ before after => absurd after (PeerId.lt_asymm before)

theorem perm_foldl_insert (map : PeerMap α)
    (distinct : (entries.map (·.1)).Nodup)
    (new : ∀ peer ∈ entries.map (·.1), peer ∉ map) :
    (entries.foldl (fun map entry => map.insert entry.1 entry.2) map).entries.Perm
      (entries ++ map.entries) := by
  induction entries generalizing map with
  | nil => exact .refl _
  | cons entry rest ih =>
      rw [List.map_cons, List.nodup_cons] at distinct
      have placed : (map.insert entry.1 entry.2).entries.Perm
          (entry :: map.entries) :=
        perm_placeEntry (new entry.1 (by simp))
      have later := ih (map.insert entry.1 entry.2) distinct.2 <| by
        intro peer isLater
        have wasNew : peer ∉ map := new peer (List.mem_cons_of_mem _ isLater)
        rw [mem_insert, not_or]
        refine ⟨?_, wasNew⟩
        rintro rfl
        exact distinct.1 isLater
      exact later.trans ((placed.append_left rest).trans List.perm_middle)

/-- The entries of a map that is built from a listing are those listed. -/
theorem perm_ofList (distinct : (entries.map (·.1)).Nodup) :
    (ofList entries).entries.Perm entries := by
  have perm := perm_foldl_insert ∅ distinct fun peer _ => not_mem_empty peer
  have noEntries : (∅ : PeerMap α).entries = [] := rfl
  rwa [noEntries, List.append_nil] at perm

theorem size_ofList (distinct : (entries.map (·.1)).Nodup) :
    (ofList entries).size = entries.length :=
  (perm_ofList distinct).length_eq

theorem get?_ofList (distinct : (entries.map (·.1)).Nodup) :
    (ofList entries).get? peer = some value ↔ (peer, value) ∈ entries := by
  rw [← mem_entries_iff, (perm_ofList distinct).mem_iff]

/-- The map with each value replaced by its image. -/
def mapValues {β : Type} (map : PeerMap α) (image : α → β) : PeerMap β where
  entries := map.entries.map fun entry => (entry.1, image entry.2)
  sorted := List.pairwise_map.2 map.sorted

theorem get?_mapValues {β : Type} (map : PeerMap α) (image : α → β)
    (peer : PeerId) :
    (map.mapValues image).get? peer = (map.get? peer).map image := by
  simp [mapValues, get?, List.find?_map, Function.comp_def, Option.map_map]

end PeerMap

namespace PeerSet

/-- Sets with the same members are the same. -/
theorem ext {first second : PeerSet}
    (same : ∀ peer, peer ∈ first ↔ peer ∈ second) : first = second := by
  refine PeerMap.ext_get? fun peer => ?_
  have sameMember := same peer
  rw [PeerMap.mem_iff_isSome_get?, PeerMap.mem_iff_isSome_get?] at sameMember
  cases inFirst : first.get? peer <;> cases inSecond : second.get? peer <;>
    simp_all

theorem mem_ofList {peers : List PeerId} {peer : PeerId} :
    peer ∈ ofList peers ↔ peer ∈ peers := by
  have grows (set : PeerSet) :
      peer ∈ peers.foldl insert set ↔ peer ∈ peers ∨ peer ∈ set := by
    induction peers generalizing set with
    | nil => simp
    | cons first rest ih =>
        rw [List.foldl_cons, ih, mem_insert, List.mem_cons, or_left_comm, or_assoc]
  simpa [ofList] using grows ∅

end PeerSet

end CreationCommit

import CreationCommit.PeerMap

/-!
# Membership of the group

A group lists its members in the order in which they joined.  Joining never
repeats a member and leaving removes every copy of it; being connected or not
does not touch the members.  Several handles may share one group, and what is
done through one of them is seen through all.
-/

namespace CreationCommit

/-- What a party sees of its group. -/
inductive GroupView
  | disconnected
  | connected (members : List PeerId)
deriving DecidableEq, Repr

/-- A group as the local peer knows it. -/
structure Group where
  connected : Bool
  members : List PeerId
deriving DecidableEq, Repr

namespace Group

def ofList (members : List PeerId) : Group where
  connected := true
  members := members

/-- The group without members to which the local peer is not connected. -/
def disconnected : Group where
  connected := false
  members := []

/-- Add a member at the end, unless it is one already. -/
def join (group : Group) (peer : PeerId) : Group × Bool :=
  if peer ∈ group.members then
    (group, false)
  else
    ({ group with members := group.members ++ [peer] }, true)

/-- Remove every copy of a member. -/
def leave (group : Group) (peer : PeerId) : Group × Bool :=
  ({ group with members := group.members.filter (· ≠ peer) },
    peer ∈ group.members)

/-- Connect the local peer to the group, or disconnect it. -/
def setConnected (group : Group) (connected : Bool) : Group :=
  { group with connected }

/-- What the local peer sees. -/
def view (group : Group) : GroupView :=
  if group.connected then .connected group.members else .disconnected

/-- What may be done to a group. -/
inductive Change
  | join (peer : PeerId)
  | leave (peer : PeerId)
  | setConnected (connected : Bool)
deriving DecidableEq, Repr

/-- Change a group; joining and leaving answer whether they changed the
members. -/
def change (group : Group) : Change → Group × Option Bool
  | .join peer =>
      let (group, changed) := group.join peer
      (group, some changed)
  | .leave peer =>
      let (group, changed) := group.leave peer
      (group, some changed)
  | .setConnected connected => (group.setConnected connected, none)

end Group

/-- Groups and the handles to them.  A handle refers to a group by its place, and
several handles may refer to the same group. -/
structure SharedGroups where
  groups : List Group
  handles : List Nat
  inRange : ∀ place ∈ handles, place < groups.length
deriving DecidableEq, Repr

namespace SharedGroups

def empty : SharedGroups where
  groups := []
  handles := []
  inRange := by simp

/-- Add a group with a first handle to it; the group shares nothing with the
others. -/
def add (shared : SharedGroups) (group : Group) : SharedGroups where
  groups := shared.groups ++ [group]
  handles := shared.handles ++ [shared.groups.length]
  inRange := by
    intro place isReferent
    rw [List.length_append, List.length_singleton]
    rcases List.mem_append.1 isReferent with isEarlier | isNew
    · exact Nat.lt_succ_of_lt (shared.inRange place isEarlier)
    · rw [List.mem_singleton.1 isNew]
      exact Nat.lt_succ_self _

/-- The group that a handle refers to; the handle has to exist. -/
def group? (shared : SharedGroups) (handle : Nat) : Option Group :=
  shared.handles[handle]?.bind fun place => shared.groups[place]?

/-- The group as seen through a handle. -/
def view? (shared : SharedGroups) (handle : Nat) : Option GroupView :=
  (shared.group? handle).map Group.view

def put (shared : SharedGroups) (place : Nat) (group : Group) : SharedGroups where
  groups := shared.groups.set place group
  handles := shared.handles
  inRange := by
    rw [List.length_set]
    exact shared.inRange

/-- Change a group through a handle; one that does not exist changes nothing. -/
def change (shared : SharedGroups) (handle : Nat) (change : Group.Change) :
    SharedGroups × Option Bool :=
  match shared.handles[handle]?, shared.group? handle with
  | some place, some group =>
      let (group, changed) := group.change change
      (shared.put place group, changed)
  | _, _ => (shared, none)

/-- Copy a handle: the copy refers to the same group. -/
def share (shared : SharedGroups) (handle : Nat) : SharedGroups where
  groups := shared.groups
  handles := shared.handles ++ shared.handles[handle]?.toList
  inRange := by
    intro place isReferent
    rcases List.mem_append.1 isReferent with isEarlier | isCopy
    · exact shared.inRange place isEarlier
    · exact shared.inRange place
        (List.mem_of_getElem? (Option.mem_toList.1 isCopy))

end SharedGroups

/-- How the participants are selected from the members, where no answer stands
for every member. -/
abbrev Selection :=
  List PeerId → Option (List PeerId)

namespace Selection

/-- Every member takes part. -/
def everyone : Selection :=
  fun _ => none

/-- The members that a list of peers allows, in the order of the members. -/
def allowing (allowed : List PeerId) : Selection :=
  fun members => some (members.filter (· ∈ allowed))

/-- The given peers, whoever is a member. -/
def fixed (peers : List PeerId) : Selection :=
  fun _ => some peers

/-- The first members, at most as many as given. -/
def first (count : Nat) : Selection :=
  fun members => some (members.take count)

def choose (selection : Selection) (members : List PeerId) : List PeerId :=
  (selection members).getD members

end Selection

end CreationCommit

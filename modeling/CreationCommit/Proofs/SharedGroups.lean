import CreationCommit.Proofs.MemberOrder

/-!
# Groups that several handles share

A handle refers to the same group for ever, its copies refer to that group too,
and a change through a handle touches no other group.  So all handles of a group
see the same, namely the group after the changes that were made through any of
them, in the order in which they were made.
-/

namespace CreationCommit

namespace SharedGroups

/-- What is done with groups and handles. -/
inductive Step
  | add (group : Group)
  | share (handle : Nat)
  | change (handle : Nat) (change : Group.Change)
deriving DecidableEq, Repr

def step (shared : SharedGroups) : Step → SharedGroups
  | .add group => shared.add group
  | .share handle => shared.share handle
  | .change handle change => (shared.change handle change).1

def after (shared : SharedGroups) (steps : List Step) : SharedGroups :=
  steps.foldl step shared

/-- The change that a step makes to the group at a place, through a handle that
refers to it. -/
def changeAt? (shared : SharedGroups) (place : Nat) : Step → Option Group.Change
  | .change handle change =>
      if shared.handles[handle]? = some place then some change else none
  | _ => none

/-- The changes that steps make to the group at a place, in order, through whichever
of its handles. -/
def changesAt (place : Nat) : SharedGroups → List Step → List Group.Change
  | _, [] => []
  | shared, step :: rest =>
      (shared.changeAt? place step).toList ++ changesAt place (shared.step step) rest

/-- Every handle of the group at the place sees this group. -/
def Shows (shared : SharedGroups) (place : Nat) (group : Group) : Prop :=
  ∀ handle, shared.handles[handle]? = some place →
    shared.group? handle = some group ∧ shared.view? handle = some group.view

variable {shared : SharedGroups} {handle place : Nat} {group : Group}
  {change : Group.Change}

theorem shows_of_found (found : shared.groups[place]? = some group) :
    shared.Shows place group := by
  intro handle refers
  have seen : shared.group? handle = some group := by
    rw [group?, refers, Option.bind_some, found]
  exact ⟨seen, by rw [view?, seen]; rfl⟩

theorem change_of_refers (refers : shared.handles[handle]? = some place)
    (found : shared.groups[place]? = some group) :
    shared.change handle change =
      (shared.put place (group.change change).1, (group.change change).2) := by
  rw [SharedGroups.change, refers, (shows_of_found found handle refers).1]

theorem change_of_missing (missing : shared.handles[handle]? = none) :
    shared.change handle change = (shared, none) := by
  rw [SharedGroups.change, missing]

theorem exists_found (refers : shared.handles[handle]? = some place) :
    ∃ group, shared.groups[place]? = some group :=
  ⟨_, List.getElem?_eq_getElem
    (shared.inRange place (List.mem_of_getElem? refers))⟩

theorem handles_change (shared : SharedGroups) (handle : Nat)
    (change : Group.Change) :
    (shared.change handle change).1.handles = shared.handles := by
  cases refers : shared.handles[handle]? with
  | none => rw [change_of_missing refers]
  | some place =>
      obtain ⟨group, found⟩ := exists_found refers
      rw [change_of_refers refers found]
      rfl

theorem handles_prefix_step (shared : SharedGroups) (step : Step) :
    shared.handles <+: (shared.step step).handles := by
  cases step with
  | add group => exact List.prefix_append _ _
  | share handle => exact List.prefix_append _ _
  | change handle change =>
      exact ⟨[], (List.append_nil _).trans
        (shared.handles_change handle change).symm⟩

/-- A handle refers to the same group for ever. -/
theorem refers_after (steps : List Step)
    (refers : shared.handles[handle]? = some place) :
    (shared.after steps).handles[handle]? = some place := by
  induction steps generalizing shared with
  | nil => exact refers
  | cons step rest ih =>
      obtain ⟨added, grown⟩ := shared.handles_prefix_step step
      have inRange := (List.getElem?_eq_some_iff.1 refers).1
      refine ih ?_
      rw [← grown, List.getElem?_append_left inRange, refers]

theorem refers_share (refers : shared.handles[handle]? = some place) :
    (shared.share handle).handles[shared.handles.length]? = some place := by
  simp [share, refers]

/-- A step changes the group at a place if it goes through one of its handles, and
not otherwise. -/
theorem found_step (step : Step) (found : shared.groups[place]? = some group) :
    (shared.step step).groups[place]? =
      some (group.after (shared.changeAt? place step).toList) := by
  have inRange := (List.getElem?_eq_some_iff.1 found).1
  cases step with
  | add added =>
      rw [SharedGroups.step, add, List.getElem?_append_left inRange]
      exact found
  | share handle => exact found
  | change handle change =>
      rw [SharedGroups.step, changeAt?]
      cases refers : shared.handles[handle]? with
      | none =>
          rw [change_of_missing refers]
          exact found
      | some other =>
          obtain ⟨changed, otherFound⟩ := exists_found refers
          rw [change_of_refers refers otherFound]
          by_cases same : other = place
          · subst same
            have isGroup : changed = group :=
              Option.some.inj (otherFound.symm.trans found)
            rw [if_pos rfl, isGroup, put, List.getElem?_set_self inRange]
            rfl
          · rw [if_neg (by simpa using same), put, List.getElem?_set_ne same]
            exact found

theorem found_after (steps : List Step) (found : shared.groups[place]? = some group) :
    (shared.after steps).groups[place]? =
      some (group.after (shared.changesAt place steps)) := by
  -- the steps are taken off at the front, since copies add handles as they go
  induction steps generalizing shared group with
  | nil => exact found
  | cons step rest ih =>
      rw [changesAt, group.after_append]
      exact ih (found_step step found)

theorem shows_change (change : Group.Change)
    (refers : shared.handles[handle]? = some place)
    (found : shared.groups[place]? = some group) :
    (shared.change handle change).1.Shows place (group.change change).1 := by
  have changed := found_step (.change handle change) found
  rw [changeAt?, if_pos refers] at changed
  exact shows_of_found changed

/-- A group that is added anywhere and then used through any handles, its own, their
copies and those of other groups, is an insertion-ordered set that its handles share.
Its first handle and all copies see the group after the changes through any of them;
each change keeps to the rules of such a set, and any number of them keep the order
of the members. -/
theorem members_shared_in_joining_order (others : SharedGroups) (initial : Group)
    (steps : List Step) :
    let place := others.groups.length
    let shared := (others.add initial).after steps
    let changes := (others.add initial).changesAt place steps
    shared.handles[others.handles.length]? = some place ∧
      shared.Shows place (initial.after changes) ∧
      (∀ handle, shared.handles[handle]? = some place →
        (shared.share handle).handles[shared.handles.length]? = some place ∧
          (shared.share handle).Shows place (initial.after changes) ∧
          ∀ change, ∃ next answer group,
            shared.change handle change = (next, answer) ∧
              next.Shows place group ∧
              change.KeepsRules (initial.after changes).members answer
                group.members) ∧
      ∀ earlier later, changes = earlier ++ later →
        Group.Change.KeepOrder later (initial.after earlier).members
          (initial.after changes).members := by
  intro place shared changes
  have isFirst : (others.add initial).handles[others.handles.length]? =
      some place := List.getElem?_concat_length
  have isPlaced : (others.add initial).groups[place]? = some initial :=
    List.getElem?_concat_length
  have found : shared.groups[place]? = some (initial.after changes) :=
    found_after steps isPlaced
  refine ⟨refers_after steps isFirst, shows_of_found found, ?_, ?_⟩
  · intro handle refers
    refine ⟨refers_share refers, shows_of_found found, fun change => ?_⟩
    refine ⟨_, _, _, change_of_refers refers found, ?_,
      ((initial.after changes).alters_change change).keepsRules⟩
    have shows := shows_change change refers found
    rwa [change_of_refers refers found] at shows
  · intro earlier later split
    rw [split, Group.after_append]
    exact (initial.after earlier).keepOrder_after later

/-- A peer that is listed twice leaves through a copy of the handle and joins again
through the first one: both then see it as the last member, listed once.  What is
done to another group makes no difference. -/
theorem twice_listed_peer_rejoins :
    let steps : List Step := [.share 1, .change 0 (.join ⟨"far"⟩),
      .change 2 (.leave ⟨"near"⟩), .change 0 (.leave ⟨"far"⟩),
      .change 1 (.join ⟨"near"⟩)]
    let shared := ((empty.add .disconnected).add
      (.ofList [⟨"near"⟩, ⟨"far"⟩, ⟨"near"⟩])).after steps
    shared.handles = [0, 1, 1] ∧
      ∀ handle, shared.handles[handle]? = some 1 →
        shared.view? handle = some (.connected [⟨"far"⟩, ⟨"near"⟩]) := by
  intro steps shared
  obtain ⟨-, shows, -⟩ := members_shared_in_joining_order
    (empty.add .disconnected) (.ofList [⟨"near"⟩, ⟨"far"⟩, ⟨"near"⟩]) steps
  refine ⟨rfl, fun handle refers => ?_⟩
  rw [(shows handle refers).2]
  rfl

end SharedGroups

end CreationCommit

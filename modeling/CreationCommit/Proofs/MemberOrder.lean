import CreationCommit.Membership
import Mathlib.Data.List.Induction
import Mathlib.Data.List.Nodup

/-!
# Members in the order in which they joined

A change adds an absent peer at the end, removes every copy of a member, or
leaves the members as they are.  So the members that stay keep their order, who
joins later stands behind them, and no copy of a member is ever made; who is a
member is decided by the last change about the peer.  All this holds whether or
not the list of members was free of duplicates.
-/

namespace CreationCommit

namespace Group

namespace Change

/-- The peer that joins or leaves. -/
def about? : Change → Option PeerId
  | join peer => some peer
  | leave peer => some peer
  | setConnected _ => none

/-- What a change makes of the members, and what it answers. -/
inductive Alters (members : List PeerId) :
    Change → Option Bool → List PeerId → Prop
  | joined (peer : PeerId) (absent : peer ∉ members) :
      Alters members (.join peer) (some true) (members ++ [peer])
  | present (peer : PeerId) (isMember : peer ∈ members) :
      Alters members (.join peer) (some false) members
  | left (peer : PeerId) (isMember : peer ∈ members) :
      Alters members (.leave peer) (some true) (members.filter (· ≠ peer))
  | missing (peer : PeerId) (absent : peer ∉ members) :
      Alters members (.leave peer) (some false) members
  | connection (connected : Bool) :
      Alters members (.setConnected connected) none members

/-- A change keeps to the rules of an insertion-ordered set: its answer tells
whether the peer was absent or a member, a peer that joins becomes the last member,
of one that leaves no copy remains, and all others stay as they are. -/
structure KeepsRules (change : Change) (before : List PeerId)
    (answer : Option Bool) (after : List PeerId) : Prop where
  join : ∀ peer, change = .join peer →
    answer = some (decide (peer ∉ before)) ∧
      (peer ∉ before → after = before ++ [peer]) ∧
      (peer ∈ before → after = before)
  leave : ∀ peer, change = .leave peer →
    answer = some (decide (peer ∈ before)) ∧ peer ∉ after
  others : after.filter (fun peer => change.about? ≠ some peer) =
    before.filter (fun peer => change.about? ≠ some peer)
  connection : ∀ connected, change = .setConnected connected →
    answer = none ∧ after = before

/-- The last change that was about the peer. -/
def lastAbout? (changes : List Change) (peer : PeerId) : Option Change :=
  (changes.filter fun change => change.about? = some peer).getLast?

theorem lastAbout?_concat (changes : List Change) (change : Change)
    (peer : PeerId) :
    lastAbout? (changes ++ [change]) peer =
      if change.about? = some peer then some change
      else lastAbout? changes peer := by
  rw [lastAbout?, List.filter_append, List.filter_singleton]
  split <;> simp [lastAbout?, *]

/-- What any number of changes make of the members. -/
structure KeepOrder (changes : List Change) (before after : List PeerId) :
    Prop where
  /-- No copy of a member is made. -/
  copies : ∀ peer, after.count peer ≤ max (before.count peer) 1
  nodup : before.Nodup → after.Nodup
  mem_iff : ∀ peer, peer ∈ after ↔
    lastAbout? changes peer = some (.join peer) ∨
      peer ∈ before ∧ .leave peer ∉ changes
  /-- Among any peers that do not leave, the members keep their order, and those
  who join come after them. -/
  order : ∀ stays : PeerId → Bool,
    (∀ peer, .leave peer ∈ changes → stays peer = false) →
      before.filter stays <+: after.filter stays
  /-- Who was there first, and has not left since, stands before all copies of who
  was not. -/
  seniority : ∀ senior junior, senior ∈ before → junior ∉ before →
    .leave senior ∉ changes → ¬ [junior, senior].Sublist after

namespace Alters

variable {change : Change} {before after : List PeerId} {answer : Option Bool}

theorem keepsRules (alters : change.Alters before answer after) :
    change.KeepsRules before answer after := by
  cases alters with
  | joined peer absent =>
      constructor <;> simp [absent, about?]
  | present peer isMember =>
      constructor <;> simp [isMember]
  | left peer isMember =>
      refine ⟨by simp, by simp [isMember], ?_, by simp⟩
      rw [List.filter_filter]
      exact List.filter_congr fun other _ => by simp [about?, eq_comm]
  | missing peer absent =>
      constructor <;> simp [absent]
  | connection connected =>
      constructor <;> simp

theorem mem_iff (alters : change.Alters before answer after) (peer : PeerId) :
    peer ∈ after ↔
      change = .join peer ∨ change ≠ .leave peer ∧ peer ∈ before := by
  cases alters with
  | joined other absent => simp [or_comm, eq_comm]
  | present other isMember =>
      suffices other = peer → peer ∈ before by simpa
      rintro rfl
      exact isMember
  | left other isMember => simp [and_comm, ne_comm]
  | missing other absent =>
      suffices peer ∈ before → other ≠ peer by simpa
      rintro isMember rfl
      exact absent isMember
  | connection connected => simp

theorem count_le (alters : change.Alters before answer after) (peer : PeerId) :
    after.count peer ≤ max (before.count peer) 1 := by
  cases alters with
  | joined other absent =>
      by_cases same : other = peer
      · subst same
        simp [List.count_eq_zero_of_not_mem absent]
      · have unchanged : (before ++ [other]).count peer = before.count peer := by
          simp [List.count_append, same]
        rw [unchanged]
        exact Nat.le_max_left _ _
  | left other isMember =>
      exact Nat.le_trans (List.filter_sublist.count_le peer) (Nat.le_max_left _ _)
  | present | missing | connection => exact Nat.le_max_left _ _

theorem prefix_filter (alters : change.Alters before answer after)
    {stays : PeerId → Bool}
    (staying : ∀ peer, change = .leave peer → stays peer = false) :
    before.filter stays <+: after.filter stays := by
  cases alters with
  | joined peer absent =>
      rw [List.filter_append]
      exact List.prefix_append _ _
  | left peer isMember =>
      have kept : before.filter stays =
          (before.filter (· ≠ peer)).filter stays := by
        rw [List.filter_filter]
        refine List.filter_congr fun other _ => ?_
        by_cases same : other = peer
        · simp [same, staying peer rfl]
        · simp [same]
      exact ⟨[], (List.append_nil _).trans kept⟩
  | present | missing | connection => exact List.prefix_rfl

/-- Who joins is placed behind all members, and no member moves. -/
theorem senior_first (alters : change.Alters before answer after)
    {senior junior : PeerId} (isMember : senior ∈ before)
    (first : ¬ [junior, senior].Sublist before) :
    ¬ [junior, senior].Sublist after := by
  cases alters with
  | joined peer absent =>
      intro reversed
      obtain ⟨front, back, split, inBefore, atEnd⟩ :=
        List.sublist_append_iff.1 reversed
      rcases List.sublist_singleton.1 atEnd with rfl | rfl
      · rw [List.append_nil] at split
        exact first (split ▸ inBefore)
      · have isPeer : senior = peer := by
          simpa using congrArg List.getLast? split
        exact absent (isPeer ▸ isMember)
  | left peer _ =>
      exact fun reversed => first (reversed.trans List.filter_sublist)
  | present | missing | connection => exact first

end Alters

end Change

variable {group : Group} {changes : List Change}

theorem alters_join (group : Group) (peer : PeerId) :
    Change.Alters group.members (.join peer) (some (group.join peer).2)
      (group.join peer).1.members := by
  rw [join]
  split
  · exact .present peer ‹_›
  · exact .joined peer ‹_›

theorem alters_leave (group : Group) (peer : PeerId) :
    Change.Alters group.members (.leave peer) (some (group.leave peer).2)
      (group.leave peer).1.members := by
  have answer : (group.leave peer).2 = decide (peer ∈ group.members) := rfl
  by_cases isMember : peer ∈ group.members
  · rw [answer, decide_eq_true isMember]
    exact .left peer isMember
  · have unchanged : (group.leave peer).1.members = group.members :=
      List.filter_eq_self.2 fun other isOther => by
        simpa using ne_of_mem_of_not_mem isOther isMember
    rw [answer, decide_eq_false isMember, unchanged]
    exact .missing peer isMember

theorem alters_change (group : Group) (change : Change) :
    change.Alters group.members (group.change change).2
      (group.change change).1.members := by
  cases change with
  | join peer => exact group.alters_join peer
  | leave peer => exact group.alters_leave peer
  | setConnected connected => exact .connection connected

/-- The group after changes, one after the other. -/
def after (group : Group) (changes : List Change) : Group :=
  changes.foldl (fun group change => (group.change change).1) group

theorem after_concat (group : Group) (changes : List Change) (change : Change) :
    group.after (changes ++ [change]) =
      ((group.after changes).change change).1 := by
  rw [after, List.foldl_append]
  rfl

theorem after_append (group : Group) (earlier later : List Change) :
    group.after (earlier ++ later) = (group.after earlier).after later :=
  List.foldl_append

theorem alters_concat (group : Group) (changes : List Change) (change : Change) :
    change.Alters (group.after changes).members
      ((group.after changes).change change).2
      (group.after (changes ++ [change])).members := by
  rw [after_concat]
  exact (group.after changes).alters_change change

theorem count_after_le (group : Group) (changes : List Change) (peer : PeerId) :
    (group.after changes).members.count peer ≤
      max (group.members.count peer) 1 := by
  induction changes using List.reverseRecOn with
  | nil => exact Nat.le_max_left _ _
  | append_singleton changes change ih =>
      have atMost := (group.alters_concat changes change).count_le peer
      omega

theorem nodup_after (nodup : group.members.Nodup) :
    (group.after changes).members.Nodup := by
  refine List.nodup_iff_count_le_one.2 fun peer => ?_
  have wasOne := List.nodup_iff_count_le_one.1 nodup peer
  have atMost := group.count_after_le changes peer
  omega

/-- The last change about a peer decides whether it is a member. -/
theorem mem_after_iff (group : Group) (changes : List Change) (peer : PeerId) :
    peer ∈ (group.after changes).members ↔
      Change.lastAbout? changes peer = some (.join peer) ∨
        peer ∈ group.members ∧ .leave peer ∉ changes := by
  -- the changes are taken off at the end, since it is the last one that decides
  induction changes using List.reverseRecOn with
  | nil => simp [after, Change.lastAbout?]
  | append_singleton changes change ih =>
      rw [(group.alters_concat changes change).mem_iff, ih,
        Change.lastAbout?_concat]
      by_cases joins : change = .join peer
      · simp [joins, Change.about?]
      by_cases leaves : change = .leave peer
      · simp [leaves, Change.about?]
      have notAbout : change.about? ≠ some peer := by
        cases change <;> simp_all [Change.about?]
      simp [joins, leaves, notAbout, Ne.symm leaves]

theorem prefix_filter_after {stays : PeerId → Bool}
    (staying : ∀ peer, .leave peer ∈ changes → stays peer = false) :
    group.members.filter stays <+: (group.after changes).members.filter stays := by
  induction changes using List.reverseRecOn with
  | nil => exact List.prefix_rfl
  | append_singleton changes change ih =>
      have earlier := ih fun peer leaves =>
        staying peer (List.mem_append_left _ leaves)
      refine earlier.trans
        ((group.alters_concat changes change).prefix_filter ?_)
      rintro peer rfl
      exact staying peer (by simp)

theorem senior_first_after {senior junior : PeerId}
    (isMember : senior ∈ group.members) (absent : junior ∉ group.members)
    (stays : .leave senior ∉ changes) :
    senior ∈ (group.after changes).members ∧
      ¬ [junior, senior].Sublist (group.after changes).members := by
  induction changes using List.reverseRecOn with
  | nil => exact ⟨isMember, fun reversed => absent (reversed.subset (by simp))⟩
  | append_singleton changes change ih =>
      obtain ⟨stayed, isLast⟩ : .leave senior ∉ changes ∧ change ≠ .leave senior := by
        simpa [eq_comm] using stays
      obtain ⟨wasMember, first⟩ := ih stayed
      have alters := group.alters_concat changes change
      exact ⟨(alters.mem_iff senior).2 (.inr ⟨isLast, wasMember⟩),
        alters.senior_first wasMember first⟩

theorem keepOrder_after (group : Group) (changes : List Change) :
    Change.KeepOrder changes group.members (group.after changes).members where
  copies := group.count_after_le changes
  nodup := nodup_after
  mem_iff := group.mem_after_iff changes
  order _ := prefix_filter_after
  seniority _ _ isMember absent stays :=
    (senior_first_after isMember absent stays).2

end Group

end CreationCommit

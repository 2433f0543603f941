import CreationCommit.Proofs.RehearsalCourse

/-!
# How a rehearsal begins

The peers of a group shape have different names, so the shape fixes a cast.
When the primary has been activated and the late peers have joined, every
member of the cast was asked and the course begins.  A group without replicas
commits at once, and then late peers are not asked any more.
-/

namespace CreationCommit

namespace GroupShape

theorem repr_injective {first second : Nat}
    (same : Nat.repr first = Nat.repr second) : first = second := by
  have digits : Nat.toDigits 10 first = Nat.toDigits 10 second := by
    rw [← Nat.toList_repr, ← Nat.toList_repr, same]
  have numbers := congrArg (Nat.ofDigitChars 10 · 0) digits
  simpa only [Nat.ofDigitChars_ten_toDigits] using numbers

/-- Peers that are numbered after a common stem have different names. -/
theorem numbered_injective (stem : String) :
    Function.Injective fun index => PeerId.mk (stem ++ Nat.repr (index + 1)) := by
  intro first second same
  have names : stem ++ Nat.repr (first + 1) = stem ++ Nat.repr (second + 1) :=
    congrArg PeerId.name same
  exact Nat.succ.inj (repr_injective ((String.append_right_inj _).1 names))

theorem replicaPeer_ne_primaryPeer (index : Nat) :
    replicaPeer index ≠ primaryPeer := by
  intro same
  have names : "node-" ++ Nat.repr (index + 1) = "node-" ++ Nat.repr 0 :=
    congrArg PeerId.name same
  exact absurd (repr_injective ((String.append_right_inj _).1 names))
    (Nat.succ_ne_zero index)

/-- The name of a late peer goes on with a letter. -/
theorem name_latePeer (index : Nat) :
    (latePeer index).name = "node-" ++ ("late-" ++ Nat.repr (index + 1)) := by
  rw [← String.append_assoc]
  rfl

theorem not_late_of_number (number index : Nat) :
    "node-" ++ Nat.repr number ≠ (latePeer index).name := by
  intro same
  rw [name_latePeer] at same
  have digits : Nat.toDigits 10 number =
      "late-".toList ++ (Nat.repr (index + 1)).toList := by
    rw [← Nat.toList_repr, (String.append_right_inj _).1 same,
      String.toList_append]
  have isDigit : 'l'.isDigit := by
    have isMember : 'l' ∈ Nat.toDigits 10 number := by simp [digits]
    exact Nat.isDigit_of_mem_toDigits (by decide) (Nat.le_refl 10) isMember
  simp [Char.isDigit] at isDigit

theorem replicaPeer_ne_latePeer (index late : Nat) :
    replicaPeer index ≠ latePeer late := fun same =>
  not_late_of_number (index + 1) late (congrArg PeerId.name same)

theorem latePeer_ne_primaryPeer (late : Nat) : latePeer late ≠ primaryPeer :=
  fun same => not_late_of_number 0 late (congrArg PeerId.name same).symm

/-- The peers with some successive numbers. -/
def peersFrom (first count : Nat) : List PeerId :=
  (List.range' first count).map replicaPeer

variable (shape : GroupShape)

def healthy : Nat :=
  shape.replicas - shape.misbehaving

/-- The peers that reject the creation. -/
def refusers : List PeerId :=
  peersFrom 0 shape.failing

/-- The peers that leave the group instead of answering. -/
def leavers : List PeerId :=
  peersFrom shape.failing shape.departing

def silentPeers : List PeerId :=
  peersFrom (shape.failing + shape.departing) shape.silent

def healthyPeers : List PeerId :=
  peersFrom shape.misbehaving shape.healthy

/-- The late peers that are asked: none if there is nobody to wait for. -/
def admittedLatePeers : List PeerId :=
  if shape.replicas = 0 then [] else shape.latePeers

/-- The peers that say yes. -/
def voters : List PeerId :=
  shape.healthyPeers ++ shape.admittedLatePeers

theorem map_zipIdx_replicate (behaviour : Behaviour) (count first : Nat) :
    ((List.replicate count behaviour).zipIdx first).map
        (fun (behaviour, index) => (replicaPeer index, behaviour)) =
      (peersFrom first count).map (·, behaviour) := by
  induction count generalizing first with
  | zero => rfl
  | succ count ih =>
      simp only [List.replicate_succ, List.zipIdx_cons, List.map_cons, ih,
        peersFrom, List.range'_succ]

/-- The peers of a shape in their order. -/
theorem peers_eq :
    shape.peers =
      shape.refusers.map (·, .failing) ++ shape.leavers.map (·, .departing) ++
        shape.silentPeers.map (·, .silent) ++
        shape.healthyPeers.map (·, .healthy) := by
  simp only [peers, behaviours, List.zipIdx_append, List.map_append,
    map_zipIdx_replicate, List.length_append, List.length_replicate,
    Nat.zero_add]
  rfl

theorem peersFrom_append (first count more : Nat) :
    peersFrom first count ++ peersFrom (first + count) more =
      peersFrom first (count + more) := by
  rw [peersFrom, peersFrom, ← List.map_append, List.range'_append_1, peersFrom]

theorem map_fst_peers :
    shape.peers.map (·.1) =
      peersFrom 0 (shape.misbehaving + shape.healthy) := by
  have names (behaviour : Behaviour) (peers : List PeerId) :
      (peers.map (·, behaviour)).map (·.1) = peers := by
    simp [Function.comp_def]
  have first := peersFrom_append 0 shape.failing shape.departing
  have second :=
    peersFrom_append 0 (shape.failing + shape.departing) shape.silent
  have third := peersFrom_append 0 shape.misbehaving shape.healthy
  rw [Nat.zero_add] at first second third
  simp only [peers_eq, List.map_append, names]
  rw [← third, misbehaving, ← second, ← first]
  rfl

theorem nodup_peersFrom (first count : Nat) : (peersFrom first count).Nodup :=
  (List.nodup_range' ).map (numbered_injective "node-")

theorem nodup_names :
    (shape.peers.map (·.1) ++ shape.latePeers).Nodup := by
  rw [map_fst_peers, List.nodup_append]
  refine ⟨nodup_peersFrom _ _,
    List.nodup_range.map (numbered_injective "node-late-"), ?_⟩
  rintro peer isReplica late isLate rfl
  obtain ⟨index, -, rfl⟩ := List.mem_map.1 isReplica
  obtain ⟨number, -, same⟩ := List.mem_map.1 isLate
  exact replicaPeer_ne_latePeer index number same.symm

theorem primaryPeer_not_mem_peers : primaryPeer ∉ shape.peers.map (·.1) := by
  rw [map_fst_peers]
  intro isPeer
  obtain ⟨index, -, same⟩ := List.mem_map.1 isPeer
  exact replicaPeer_ne_primaryPeer index same

theorem primaryPeer_not_mem_latePeers : primaryPeer ∉ shape.latePeers := by
  intro isLate
  obtain ⟨number, -, same⟩ := List.mem_map.1 isLate
  exact latePeer_ne_primaryPeer number same

/-- The peers that are asked at the rehearsal of a group. -/
def cast : Cast where
  members := shape.peers ++ shape.admittedLatePeers.map (·, .healthy)
  distinct := by
    have late : ((shape.admittedLatePeers.map
        (·, Behaviour.healthy)).map Prod.fst).Sublist shape.latePeers := by
      unfold admittedLatePeers
      split <;> simp [Function.comp_def]
    rw [List.map_append]
    exact shape.nodup_names.sublist (late.append_left _)

end GroupShape

theorem Tally.enlistAll_of_nodup {outstanding : PeerSet} {peers : List PeerId}
    (distinct : peers.Nodup) (new : ∀ peer ∈ peers, peer ∉ outstanding) :
    (Tally.enlistAll outstanding peers).2 = peers := by
  induction peers generalizing outstanding with
  | nil => rfl
  | cons first rest ih =>
      rw [List.nodup_cons] at distinct
      have stillNew : ∀ peer ∈ rest, peer ∉ outstanding.insert first := by
        intro peer isLater
        rw [PeerSet.mem_insert, not_or]
        refine ⟨?_, new peer (List.mem_cons_of_mem _ isLater)⟩
        rintro rfl
        exact distinct.1 isLater
      have later := ih distinct.2 stillNew
      simp only [Tally.enlistAll, new first List.mem_cons_self, if_false, later]

namespace Party

/-- A primary that is activated in a group asks its peers. -/
theorem look_activated {setup : Setup} (role : setup.role = .primary)
    (everyone : setup.selection = .everyone) {peers : List PeerId}
    (distinct : peers.Nodup) (others : setup.localPeer ∉ peers) :
    ∃ tally : Tally, tally.phase = .voting ∧ tally.Heard peers [] ∧
      tally.deadline = none ∧ tally.finalized = false ∧
      (Party.start setup).look (.command (.handle .activated
          (.connected (setup.localPeer :: peers)))) =
        ({ Party.start setup with tally }.resolve.announce,
          peers.map fun peer => .opening (.request peer)) := by
  have primary : (Party.start setup).isPrimary = true := isPrimary_iff.2 role
  have chosen : peers.filter (fun peer => !decide (peer = setup.localPeer)) =
      peers := by
    have differ : ∀ peer ∈ peers, peer ≠ setup.localPeer :=
      fun peer isPeer same => others (same ▸ isPeer)
    simpa using differ
  have asked : (Tally.enlistAll ∅ peers).2 = peers :=
    Tally.enlistAll_of_nodup distinct fun peer _ => PeerMap.not_mem_empty peer
  obtain ⟨tally, isTally⟩ : ∃ tally : Tally, tally =
      { (Party.start setup).tally with
        phase := .voting
        outstanding := (Tally.enlistAll ∅ peers).1
        activated := true } := ⟨_, rfl⟩
  have opens : (Party.start setup).tally.activateOnce.1.openVoting
      (setup.selection.choose (setup.localPeer :: peers)) setup.localPeer =
        (tally, peers) := by
    simp [isTally, Tally.openVoting, Tally.activateOnce, start, Tally.start,
      everyone, Selection.choose, Selection.everyone, chosen, asked]
  refine ⟨tally, by rw [isTally], ?_, by rw [isTally]; rfl,
    by rw [isTally]; rfl, ?_⟩
  · rw [isTally]
    refine ⟨fun peer => ?_, by simp [start, Tally.start], rfl, rfl⟩
    simp [Tally.mem_enlistAll_fst]
  · have first : (Party.start setup).tally.activateOnce.2 = true := rfl
    have sameSetup : (Party.start setup).setup = setup := rfl
    simp only [look, handle, lead, primary, if_true, first, sameSetup, opens,
      opened, List.map_map, Function.comp_def]

/-- The primary asks a peer that joins while the voting is open. -/
theorem look_joined {party : Party} (role : party.setup.role = .primary)
    (voting : party.tally.phase = .voting) {peer : PeerId}
    (other : peer ≠ party.setup.localPeer)
    (new : peer ∉ party.tally.outstanding ∧ peer ∉ party.tally.failures ∧
      peer ∉ party.tally.acknowledged) (view : GroupView) :
    party.look (.command (.handle (.memberJoined peer) view)) =
      ({ party with
          tally :=
            { party.tally with
              outstanding := party.tally.outstanding.insert peer } }.announce,
        [.opening (.request peer)]) := by
  have primary : party.isPrimary = true := isPrimary_iff.2 role
  simp [look, handle, welcome, opened, primary, other, Tally.enlist, voting, new]

/-- The primary asks nobody who joins after the commit. -/
theorem look_joined_late {party : Party}
    (committed : party.tally.phase = .committed) (peer : PeerId)
    (view : GroupView) :
    party.look (.command (.handle (.memberJoined peer) view)) = (party, []) := by
  simp [look, handle, welcome, opened, Tally.enlist, committed]

end Party

namespace Rehearsal

/-- The peers of the cast were asked, and nothing else has happened. -/
structure Opens (cast : Cast) (payload : List UInt8)
    (settings : TransactionSettings) (behaviours : PeerMap Behaviour)
    (rehearsal : Rehearsal) : Prop where
  conducts : Conducts cast payload settings [] rehearsal.now rehearsal.primary
  fresh : rehearsal.primary.tally.finalized = false
  early : rehearsal.now = 0
  channel : rehearsal.channel =
    ⟨(cast.members.map fun member => Post.request member.1).map
      (Post.envelope payload), true⟩
  behaviours : rehearsal.behaviours = behaviours
  replicas : rehearsal.replicas = ∅
  callbacks : rehearsal.callbacks = []
  outcome : rehearsal.outcome = none

/-- A peer joins. -/
def join (rehearsal : Rehearsal) (peer : PeerId) : Rehearsal :=
  { rehearsal with group := (rehearsal.group.join peer).1 }.withPrimary
    (·.handle (.memberJoined peer))

namespace Opens

variable {cast whole : Cast} {payload : List UInt8}
  {settings : TransactionSettings} {behaviours : PeerMap Behaviour}
  {rehearsal : Rehearsal} {peer : PeerId}

/-- What is left of a peer's joining. -/
theorem join_eq
    (opens : Opens cast payload settings behaviours rehearsal) {party : Party}
    {duties : List Duty}
    (looked : rehearsal.primary.look (.command (.handle (.memberJoined peer)
      (rehearsal.group.join peer).1.view)) = (party, duties)) :
    rehearsal.join peer =
      { rehearsal with
        group := (rehearsal.group.join peer).1
        primary := party
        channel := ⟨((cast.members.map fun member => Post.request member.1) ++
          duties.filterMap Duty.post?).map (Post.envelope payload), true⟩
        callbacks := rehearsal.callbacks ++ duties.filterMap Duty.report? } := by
  obtain ⟨joined, isJoined⟩ : ∃ joined : Rehearsal, joined =
      { rehearsal with group := (rehearsal.group.join peer).1 } := ⟨_, rfl⟩
  have samePrimary : joined.primary = rehearsal.primary := by rw [isJoined]
  have sameChannel : joined.channel = rehearsal.channel := by rw [isJoined]
  have sameGroup : joined.group = (rehearsal.group.join peer).1 := by
    rw [isJoined]
  rw [← samePrimary, ← sameGroup] at looked
  have handled := withPrimary_handle (samePrimary ▸ opens.conducts.setup)
    (samePrimary ▸ opens.conducts.sound) (sameChannel.trans opens.channel)
    (.memberJoined peer) looked
  rw [Rehearsal.join, ← isJoined, handled, isJoined]

/-- A peer that joins while the voting is open is asked. -/
theorem join
    (opens : Opens cast payload settings behaviours rehearsal)
    (voting : rehearsal.primary.tally.phase = .voting)
    (new : peer ∉ cast.peers) (other : peer ≠ GroupShape.primaryPeer)
    (joined : whole.members = cast.members ++ [(peer, .healthy)]) :
    Opens whole payload settings behaviours (rehearsal.join peer) ∧
      (rehearsal.join peer).primary.tally.phase = .voting := by
  have heard := opens.conducts.stance.heard_of_voting voting
  have unknown : peer ∉ rehearsal.primary.tally.outstanding ∧
      peer ∉ rehearsal.primary.tally.failures ∧
      peer ∉ rehearsal.primary.tally.acknowledged := by
    simp [heard.outstanding, heard.mem_failures, heard.mem_acknowledged, new]
  have notLocal : peer ≠ rehearsal.primary.setup.localPeer := by
    rw [opens.conducts.setup]
    exact other
  have looked := Party.look_joined opens.conducts.role voting notLocal unknown
    (rehearsal.group.join peer).1.view
  have heardWhole : Tally.Heard whole.peers []
      { rehearsal.primary.tally with
        outstanding := rehearsal.primary.tally.outstanding.insert peer } := by
    refine ⟨fun other => ?_, heard.failures, heard.size, heard.acknowledged⟩
    simp [heard.outstanding, Cast.peers, joined, or_comm]
  have conducts : Conducts whole payload settings [] rehearsal.now
      (rehearsal.primary.look (.command (.handle (.memberJoined peer)
        (rehearsal.group.join peer).1.view))).1 := by
    refine opens.conducts.look ?_ ?_
    · rw [looked]
      exact .votes voting heardWhole (.inl opens.early)
    · rw [looked]
      exact opens.conducts.deadline
  rw [looked] at conducts
  rw [opens.join_eq looked]
  exact ⟨⟨conducts, opens.fresh, opens.early, by simp [joined, Duty.post?],
    opens.behaviours, opens.replicas,
    by simpa [Duty.report?] using opens.callbacks, opens.outcome⟩, voting⟩

/-- A peer that joins after the commit is not asked. -/
theorem join_late
    (opens : Opens cast payload settings behaviours rehearsal)
    (committed : rehearsal.primary.tally.phase = .committed) :
    Opens cast payload settings behaviours (rehearsal.join peer) ∧
      (rehearsal.join peer).primary.tally.phase = .committed := by
  have looked := Party.look_joined_late committed peer
    (rehearsal.group.join peer).1.view
  rw [opens.join_eq looked]
  exact ⟨⟨opens.conducts, opens.fresh, opens.early, by simp, opens.behaviours, opens.replicas,
    by simpa using opens.callbacks, opens.outcome⟩, committed⟩

theorem joins {late : List PeerId}
    (opens : Opens cast payload settings behaviours rehearsal)
    (voting : rehearsal.primary.tally.phase = .voting)
    (distinct : (cast.peers ++ late).Nodup)
    (others : GroupShape.primaryPeer ∉ late)
    (joined : whole.members = cast.members ++ late.map (·, .healthy)) :
    Opens whole payload settings behaviours
      (late.foldl Rehearsal.join rehearsal) := by
  induction late generalizing cast rehearsal with
  | nil =>
      obtain rfl : cast = whole := Cast.ext (by simpa using joined.symm)
      exact opens
  | cons peer rest ih =>
      have new : peer ∉ cast.peers := fun known =>
        (List.nodup_append.1 distinct).2.2 peer known peer List.mem_cons_self rfl
      have other : peer ≠ GroupShape.primaryPeer := fun isPrimary =>
        others (isPrimary ▸ List.mem_cons_self)
      have distinctThen : ((cast.members ++ [(peer, Behaviour.healthy)]).map
          Prod.fst ++ rest).Nodup := by
        simpa [Cast.peers] using distinct
      obtain ⟨next, isNext⟩ : ∃ next : Cast, next.members =
          cast.members ++ [(peer, .healthy)] :=
        ⟨⟨_, distinctThen.sublist (List.sublist_append_left _ _)⟩, rfl⟩
      obtain ⟨opensThen, votingStill⟩ := opens.join voting new other isNext
      refine ih opensThen votingStill ?_ ?_ ?_
      · rwa [Cast.peers, isNext]
      · exact fun isLater => others (List.mem_cons_of_mem _ isLater)
      · rw [joined, isNext, List.map_cons, List.append_assoc, List.singleton_append]

theorem joins_late {late : List PeerId}
    (opens : Opens cast payload settings behaviours rehearsal)
    (committed : rehearsal.primary.tally.phase = .committed) :
    Opens cast payload settings behaviours
      (late.foldl Rehearsal.join rehearsal) := by
  induction late generalizing rehearsal with
  | nil => exact opens
  | cons peer rest ih =>
      obtain ⟨opensThen, stillCommitted⟩ := opens.join_late committed
      exact ih opensThen stillCommitted

/-- When all were asked, the course begins. -/
theorem course (opens : Opens cast payload settings behaviours rehearsal)
    (behaves : ∀ member ∈ cast.members,
      behaviours.get? member.1 = some member.2) :
    Course cast payload settings cast.members [] [] rehearsal where
  conducts := opens.conducts
  within := List.nil_prefix
  behaves := opens.behaviours ▸ behaves
  answered := List.suffix_rfl
  channel := by simpa using opens.channel
  hosted := by
    rw [opens.replicas]
    exact ⟨fun _ _ isMember notWaiting => absurd isMember notWaiting,
      fun _ _ => PeerMap.get?_empty _⟩
  spread := by
    have fresh := opens.fresh
    exact ⟨by simp, by simp [fresh], fun _ => opens.callbacks, by simp [fresh]⟩
  outcome := by simp [opens.outcome]
  noRequests := by simp
  outlook := by simp [Cast.tidings]

end Opens

/-- The votes that are open at once decide only if there are none. -/
theorem stance_of_opening {cast : Cast} {settings : TransactionSettings}
    {tally : Tally} (voting : tally.phase = .voting)
    (heard : tally.Heard cast.peers []) :
    cast.Stance settings [] 0 (tally.resolve settings.threshold).1 ∧
      (tally.resolve settings.threshold).1.phase =
        if cast.peers = [] then .committed else .voting := by
  have nobody : tally.outstanding.isEmpty ↔ cast.peers = [] := by
    rw [PeerMap.isEmpty_iff, List.eq_nil_iff_forall_not_mem]
    constructor
    · intro none peer isPeer
      have outstanding := (heard.outstanding peer).2 ⟨isPeer, by simp⟩
      exact PeerMap.not_mem_empty peer (none ▸ outstanding)
    · intro none
      exact PeerSet.ext fun peer => by simp [heard.outstanding, none]
  refine ⟨.of_standing (.of_resolve_within voting heard (by simp)), ?_⟩
  simp [Tally.resolve, voting, heard.size, nobody, apply_ite]

/-- What holds of the primary after its first look. -/
theorem conducts_of_look (cast : Cast) (payload : List UInt8)
    (settings : TransactionSettings) (trigger : Trigger) :
    let party :=
      ((Party.start (primarySetup payload settings)).look trigger).1
    cast.Stance settings [] 0 party.tally → party.tally.deadline = none →
      Conducts cast payload settings [] 0 party := by
  intro party stance noDeadline
  have role : (primarySetup payload settings).role = .primary := rfl
  have sound : (Party.start (primarySetup payload settings)).tally.Sound :=
    .start objectId
  have advances :=
    Party.advancesOn_look (.start (primarySetup payload settings)) trigger
  exact
    { setup := advances.setup
      about := Party.about_look (.start objectId) trigger
      sound := advances.sound sound
      tidy := Party.tidy_look role sound (.start objectId) trigger
      decisive := Party.decisive_look (.start objectId) role sound trigger
      stance
      deadline := .inl ⟨rfl, noDeadline⟩ }

theorem opens_activated (shape : GroupShape) (settings : TransactionSettings)
    {cast : Cast} (members : cast.members = shape.peers) :
    Opens cast shape.payload settings (start shape settings).behaviours
        ((start shape settings).withPrimary (·.handle .activated)) ∧
      ((start shape settings).withPrimary
          (·.handle .activated)).primary.tally.phase =
        if cast.peers = [] then .committed else .voting := by
  have role : (primarySetup shape.payload settings).role = .primary := rfl
  have distinct : (shape.peers.map (·.1)).Nodup :=
    shape.nodup_names.sublist (List.sublist_append_left _ _)
  obtain ⟨tally, voting, heard, noDeadline, fresh, looked⟩ :=
    Party.look_activated role rfl distinct shape.primaryPeer_not_mem_peers
  obtain ⟨asking, isAsking⟩ : ∃ asking : Party, asking =
    { Party.start (primarySetup shape.payload settings) with
      tally }.resolve.announce := ⟨_, rfl⟩
  obtain ⟨duties, isDuties⟩ : ∃ duties : List Duty, duties =
    (shape.peers.map (·.1)).map fun peer => .opening (.request peer) := ⟨_, rfl⟩
  rw [← isAsking, ← isDuties] at looked
  have handled : (start shape settings).withPrimary (·.handle .activated) =
      { start shape settings with
        primary := asking
        channel := ⟨([] ++ duties.filterMap Duty.post?).map
          (Post.envelope shape.payload), true⟩
        callbacks := [] ++ duties.filterMap Duty.report? } :=
    withPrimary_handle rfl (Tally.Sound.start objectId) rfl .activated looked
  have posts : duties.filterMap Duty.post? =
      cast.members.map fun member => Post.request member.1 := by
    simp [isDuties, members, List.filterMap_map, Function.comp_def, Duty.post?]
  have reports : duties.filterMap Duty.report? = [] := by
    simp [isDuties, List.filterMap_map, Function.comp_def, Duty.report?]
  have resolved : asking.tally = (tally.resolve settings.threshold).1 := by
    rw [isAsking]
    rfl
  have peers : cast.peers = shape.peers.map (·.1) := by
    rw [Cast.peers, members]
  rw [← peers] at heard
  obtain ⟨stance, phase⟩ := stance_of_opening voting heard
  rw [← resolved] at stance phase
  rw [handled]
  have conducts := conducts_of_look cast shape.payload settings
    (.command (.handle .activated (.connected
      ((primarySetup shape.payload settings).localPeer ::
        shape.peers.map (·.1)))))
  rw [looked] at conducts
  refine ⟨⟨conducts stance ?_, ?_, rfl, ?_, rfl, rfl, ?_, rfl⟩, phase⟩
  · rw [resolved, deadline_resolve, noDeadline]
  · rw [resolved, Party.finalized_resolve, fresh]
  · simp [posts]
  · simp [reports]

/-- Every member of the cast behaves as the rehearsal has it. -/
theorem behaviours_of_cast (shape : GroupShape) (settings : TransactionSettings)
    {member : PeerId × Behaviour} (isMember : member ∈ shape.cast.members) :
    (start shape settings).behaviours.get? member.1 = some member.2 := by
  have distinct : ((shape.peers ++
      shape.latePeers.map (·, Behaviour.healthy)).map (·.1)).Nodup := by
    simpa [Function.comp_def] using shape.nodup_names
  refine (PeerMap.get?_ofList distinct).2 ?_
  rcases List.mem_append.1 isMember with isPeer | isLate
  · exact List.mem_append_left _ isPeer
  · unfold GroupShape.admittedLatePeers at isLate
    split at isLate
    · simp at isLate
    · exact List.mem_append_right _ isLate

/-- When the late peers have joined, every member of the cast was asked. -/
theorem opens_rehearsal (shape : GroupShape) (settings : TransactionSettings)
    (fits : shape.misbehaving ≤ shape.replicas) :
    Opens shape.cast shape.payload settings (start shape settings).behaviours
      ((start shape settings).activate shape.latePeers) := by
  obtain ⟨present, isPresent⟩ : ∃ present : Cast, present.members = shape.peers :=
    ⟨⟨shape.peers, shape.nodup_names.sublist (List.sublist_append_left _ _)⟩, rfl⟩
  have names : present.peers = GroupShape.peersFrom 0 shape.replicas := by
    have count : shape.misbehaving + shape.healthy = shape.replicas :=
      Nat.add_sub_cancel' fits
    rw [Cast.peers, isPresent, ← count]
    exact shape.map_fst_peers
  obtain ⟨opens, phase⟩ := opens_activated shape settings isPresent
  by_cases nobody : shape.replicas = 0
  · have noPeers : present.peers = [] := by simp [names, nobody, GroupShape.peersFrom]
    obtain rfl : present = shape.cast := Cast.ext <| by
      simp [GroupShape.cast, GroupShape.admittedLatePeers, nobody, isPresent]
    rw [if_pos noPeers] at phase
    exact opens.joins_late phase
  · have somePeers : present.peers ≠ [] := by
      simp [names, nobody, GroupShape.peersFrom]
    rw [if_neg somePeers] at phase
    refine opens.joins phase ?_ shape.primaryPeer_not_mem_latePeers ?_
    · rw [Cast.peers, isPresent]
      exact shape.nodup_names
    · rw [isPresent]
      simp [GroupShape.cast, GroupShape.admittedLatePeers, nobody]

/-- When the late peers have joined, the course of the rehearsal begins. -/
theorem course_begins (shape : GroupShape) (settings : TransactionSettings)
    (fits : shape.misbehaving ≤ shape.replicas) :
    Course shape.cast shape.payload settings shape.cast.members [] []
      ((start shape settings).activate shape.latePeers) :=
  (opens_rehearsal shape settings fits).course fun _ =>
    behaviours_of_cast shape settings

end Rehearsal

end CreationCommit

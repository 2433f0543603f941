import CreationCommit.Proofs.Admissions
import CreationCommit.Proofs.Deadlines
import CreationCommit.Proofs.PeerListings
import CreationCommit.Proofs.Repetition

/-!
# Who is selected

When a primary is activated in a group, the peers that it selects among the
members are those that take part, each once and without the primary itself.
The call that activates it asks them in the order in which the selection first
names them, whatever other calls do in between and however its sends end.  If
nobody is selected the creation commits at once.
-/

namespace CreationCommit

/-- Whether repetitions go before or after a selection makes no difference. -/
theorem eraseDups_filter {α : Type} [BEq α] [LawfulBEq α]
    (selects : α → Bool) (items : List α) :
    (items.filter selects).eraseDups = items.eraseDups.filter selects := by
  match items with
  | [] => rfl
  | first :: rest =>
      have shorter : (rest.filter fun item => !item == first).length <
          rest.length + 1 := Nat.lt_succ_of_le (List.length_filter_le _ _)
      have later := eraseDups_filter selects
        (rest.filter fun item => !item == first)
      rw [List.eraseDups_cons, List.filter_cons, List.filter_cons, ← later,
        List.filter_filter]
      by_cases selected : selects first
      · rw [if_pos selected, if_pos selected, List.eraseDups_cons,
          List.filter_filter]
        simp only [Bool.and_comm]
      · rw [if_neg selected, if_neg selected]
        refine congrArg List.eraseDups (List.filter_congr fun item _ => ?_)
        by_cases isFirst : item = first
        · simp [isFirst, selected]
        · simp [isFirst]
termination_by items.length

namespace Setup

/-- The peers that the primary of a group selects among its members: those that
the selection names, or every member if it leaves that open, at their first
occurrence and without the primary. -/
def chosen (setup : Setup) (members : List PeerId) : List PeerId :=
  (((setup.selection members).getD members).filter
    (· ≠ setup.localPeer)).eraseDups

end Setup

namespace Tally

theorem enlistAll_snd (outstanding : PeerSet) (peers : List PeerId) :
    (enlistAll outstanding peers).2 =
      (peers.filter (· ∉ outstanding)).eraseDups := by
  induction peers generalizing outstanding with
  | nil => rfl
  | cons first rest ih =>
      by_cases known : first ∈ outstanding
      · simp [enlistAll, known, ih]
      · have later : rest.filter (· ∉ outstanding.insert first) =
            (rest.filter (· ∉ outstanding)).filter fun peer =>
              !peer == first := by
          rw [List.filter_filter]
          refine List.filter_congr fun peer _ => Bool.eq_iff_iff.2 ?_
          simp
        have admits : (enlistAll outstanding (first :: rest)).2 =
            first :: (enlistAll (outstanding.insert first) rest).2 := by
          simp [enlistAll, known]
        rw [admits, ih, later, List.filter_cons_of_pos (by simpa using known),
          List.eraseDups_cons]

end Tally

/-- The party opens a creation in which the peers take part: it asks each of
them, or commits if there are none. -/
structure Party.Opens (party : Party) (duties : List Duty)
    (peers : List PeerId) : Prop where
  duties : duties = peers.map fun peer => .opening (.request peer)
  outstanding : party.tally.outstanding = .ofList peers
  phase : party.tally.phase = if peers = [] then .committed else .voting

namespace Party

variable {party : Party}

theorem opens_of_lead (role : party.setup.role = .primary)
    (sound : party.tally.Sound) (active : party.tally.phase = .active)
    (notActivated : party.tally.activated = false) (members : List PeerId) :
    (party.lead (.connected members)).1.Opens
      (opened (party.lead (.connected members))).2
      (party.setup.chosen members) := by
  obtain ⟨nobody, noFailures, -⟩ := sound.unopened (.inl active)
  obtain ⟨selected, isSelected⟩ : ∃ selected, selected =
      ((party.setup.selection members).getD members).filter
        (· ≠ party.setup.localPeer) := ⟨_, rfl⟩
  have chosen : party.setup.chosen members = selected.eraseDups := by
    rw [Setup.chosen, isSelected]
  have admitted : (Tally.enlistAll ∅ selected).2 = selected.eraseDups := by
    rw [Tally.enlistAll_snd]
    simp
  have outstanding : (Tally.enlistAll ∅ selected).1 =
      .ofList selected.eraseDups := by
    refine PeerSet.ext fun peer => ?_
    simp [Tally.mem_enlistAll_fst, PeerSet.mem_ofList]
  have isEmpty : (PeerSet.ofList selected.eraseDups).isEmpty ↔
      selected.eraseDups = [] := by
    rw [PeerMap.isEmpty_iff, List.eq_nil_iff_forall_not_mem]
    constructor
    · intro none peer isPeer
      exact PeerMap.not_mem_empty peer (none ▸ PeerSet.mem_ofList.2 isPeer)
    · intro none
      exact PeerSet.ext fun peer => by simp [PeerSet.mem_ofList, none]
  have leads : party.lead (.connected members) =
      ({ party with
          tally := ({ party.tally with
            phase := .voting
            outstanding := .ofList selected.eraseDups
            activated := true }.resolve
              party.setup.settings.threshold).1 }.announce,
        selected.eraseDups.map .request) := by
    have primary : party.isPrimary = true := isPrimary_iff.2 role
    simp only [lead, primary, Tally.activateOnce, notActivated, Bool.not_false,
      if_true, Tally.openVoting, active, nobody, Selection.choose, ← isSelected,
      admitted, outstanding]
    rfl
  rw [leads, chosen]
  refine ⟨?_, ?_, ?_⟩
  · simp [opened, Function.comp_def]
  · exact (Tally.sameVotes_resolve _ _).outstanding
  · have few : ¬ party.setup.settings.threshold < party.tally.failures.size := by
      rw [noFailures]
      exact Nat.not_lt_zero _
    simp only [Tally.resolve, announce, if_true, if_neg few, isEmpty]
    split <;> rfl

/-- The primary is activated by its event as it is when it is told to begin. -/
theorem look_of_begins (role : party.setup.role = .primary)
    {command : Command} {view : GroupView}
    (begins : command = .lead view ∨ command = .handle .activated view) :
    party.look (.command command) = opened (party.lead view) := by
  rcases begins with rfl | rfl
  · rfl
  · simp only [look, handle, isPrimary_iff.2 role, if_true]

end Party

/-- The peers that a call has still to ask, in order. -/
def Call.toAsk (call : Call) : List PeerId :=
  call.owed.filterMap Look.askedBy?

/-- A look that no command triggers asks nobody. -/
theorem Party.asked_of_no_command (party : Party) {trigger : Trigger}
    (noCommand : ∀ command, trigger ≠ .command command) :
    (party.look trigger).2.filterMap Look.askedBy? = [] := by
  refine List.eq_nil_iff_forall_not_mem.2 fun peer asked => ?_
  have admitted : peer ∈ Look.admitted ⟨party, trigger⟩ := asked
  obtain ⟨command, isCommand⟩ := Look.command_of_admitted admitted
  exact noCommand command isCommand

namespace Session

/-- The peers that a call asks with a move. -/
def askedWith (session next : Session) (index : Nat) (move : Move) :
    List PeerId :=
  if move.turn? = some index then next.asked.drop session.asked.length else []

/-- The peers that a call asks in the course of some moves, in order. -/
def askedByCall (session : Session) (index : Nat) : List Move → List PeerId
  | [] => []
  | move :: rest =>
      match session.move? move with
      | none => []
      | some next =>
          session.askedWith next index move ++ next.askedByCall index rest

/-- Whom a call asks with a move, and has still to ask after it, it had to ask
before, in this order; or it is given up with the move. -/
def AsksOn (session next : Session) (index : Nat) (move : Move) (call : Call) :
    Prop :=
  ∃ after, next.calls[index]? = some after ∧
    (call.toAsk = session.askedWith next index move ++ after.toAsk ∨
      move = .abandon index ∧ after.toAsk = [] ∧
        session.askedWith next index move = [])

section Steps

variable {session next : Session} {move : Move} {index : Nat} {call : Call}

/-- A call that attempts no letter has still to ask whom it had to ask. -/
theorem asksOn_of_attempts {after : Call}
    (there : next.calls[index]? = some after)
    (attempts : next.attempts = session.attempts)
    (toAsk : after.toAsk = call.toAsk) :
    session.AsksOn next index move call := by
  have nobody : session.askedWith next index move = [] := by
    simp [askedWith, asked, attempts]
  exact ⟨after, there, .inl (by rw [nobody, toAsk, List.nil_append])⟩

/-- The duties of a look that no command triggers come before what a call owes
already, and ask nobody. -/
theorem toAsk_of_look {trigger : Trigger} {rest : List Task}
    {outcome : Option Outcome}
    (noCommand : ∀ command, trigger ≠ .command command) :
    Call.toAsk ⟨tasksOf (session.party.look trigger).2 ++ rest, none, outcome⟩ =
      (rest.filterMap Task.duty?).filterMap Look.askedBy? := by
  simp only [Call.toAsk, Call.owed, Call.remaining_resting,
    List.filterMap_append, filterMap_tasksOf,
    session.party.asked_of_no_command noCommand, List.nil_append]

/-- With a step a call asks the first of those it has to ask, or nobody. -/
theorem Step.asksOn (step : Step session move next)
    (here : session.calls[index]? = some call) :
    session.AsksOn next index move call := by
  by_cases elsewhere : move.turn? ≠ some index
  · refine ⟨call, step.call_elsewhere here elsewhere, .inl ?_⟩
    rw [askedWith, if_neg elsewhere, List.nil_append]
  have turn := not_not.1 elsewhere
  have inRange := (List.getElem?_eq_some_iff.1 here).1
  cases step with
  | launches command => cases turn
  | begins position duty rest outcome party letter atTurn composed =>
      obtain rfl := Option.some.inj turn
      obtain rfl := Option.some.inj (atTurn.symm.trans here)
      obtain ⟨rfl, -⟩ := compose_letter composed
      refine ⟨_, List.getElem?_set_self inRange, .inl ?_⟩
      rw [askedWith, if_pos turn, asked, asked, List.filterMap_append,
        List.drop_left]
      exact List.filterMap_append (l := [letter.duty])
  | hears position opening rest letter outcome result atTurn =>
      obtain rfl := Option.some.inj turn
      obtain rfl := Option.some.inj (atTurn.symm.trans here)
      have noCommand : ∀ command,
          Trigger.result opening result ≠ .command command := by simp
      exact asksOn_of_attempts (List.getElem?_set_self inRange) rfl
        (toAsk_of_look noCommand)
  | closes position _ _ _ _ _ atTurn | reports position _ _ _ _ atTurn
  | watches position _ _ _ atTurn | wakes position _ _ _ _ _ atTurn
  | answers position _ _ _ _ atTurn | waits position _ _ _ _ _ atTurn =>
      obtain rfl := Option.some.inj turn
      obtain rfl := Option.some.inj (atTurn.symm.trans here)
      exact asksOn_of_attempts (List.getElem?_set_self inRange) rfl rfl
  | learns position now seen rest before closings outcome atTurn =>
      obtain rfl := Option.some.inj turn
      obtain rfl := Option.some.inj (atTurn.symm.trans here)
      have noCommand : ∀ command, Trigger.clock now ≠ .command command := by
        simp
      exact asksOn_of_attempts (List.getElem?_set_self inRange) rfl
        (toAsk_of_look noCommand)
  | abandons position old atTurn =>
      obtain rfl := Option.some.inj turn
      refine ⟨_, List.getElem?_set_self inRange, .inr ⟨rfl, rfl, ?_⟩⟩
      simp [askedWith, asked, setCall]

end Steps

/-- A call that has only duties left which a primary can carry out; if it is
sending, it carries out the first. -/
structure Delivers (call : Call) (duties : List Duty) : Prop where
  agenda : call.agenda = tasksOf duties
  casts : ∀ refusal, .opening (.vote refusal) ∉ duties
  sending : call.sending.isSome = true → duties ≠ []

section Deliveries

variable {session next : Session} {move : Move} {index : Nat} {call : Call}
  {duties : List Duty}

theorem Delivers.tail {duty : Duty} {rest : List Task}
    {letter : Option Letter} {outcome : Option Outcome}
    (delivers : Delivers ⟨.duty duty :: rest, letter, outcome⟩ duties) :
    ∃ later, duties = duty :: later ∧ rest = tasksOf later ∧
      ∀ refusal, .opening (.vote refusal) ∉ later := by
  obtain ⟨_, later, rfl, ⟨⟩, isRest⟩ := Busy.tasksOf_eq_cons delivers.agenda.symm
  exact ⟨later, rfl, isRest, fun refusal isLater =>
    delivers.casts refusal (List.mem_cons_of_mem _ isLater)⟩

theorem not_delivers {task : Task} {rest : List Task} {letter : Option Letter}
    {outcome : Option Outcome} (noDuty : task.duty? = none) :
    ¬ Delivers ⟨task :: rest, letter, outcome⟩ duties := by
  intro delivers
  obtain ⟨duty, _, -, rfl, -⟩ := Busy.tasksOf_eq_cons delivers.agenda.symm
  cases noDuty

/-- What a call takes on with a step it can carry out, too. -/
theorem Step.delivers (step : Step session move next)
    (here : session.calls[index]? = some call)
    (delivers : Delivers call duties) :
    ∃ after later, next.calls[index]? = some after ∧ Delivers after later := by
  by_cases elsewhere : move.turn? ≠ some index
  · exact ⟨call, duties, step.call_elsewhere here elsewhere, delivers⟩
  have turn := not_not.1 elsewhere
  have inRange := (List.getElem?_eq_some_iff.1 here).1
  cases step with
  | launches command => cases turn
  | begins position duty rest outcome party letter atTurn composed =>
      obtain rfl := Option.some.inj turn
      obtain rfl := Option.some.inj (atTurn.symm.trans here)
      obtain ⟨later, rfl, rfl, -⟩ := delivers.tail
      exact ⟨_, _, List.getElem?_set_self inRange, rfl, delivers.casts, by simp⟩
  | hears position opening rest letter outcome result atTurn =>
      obtain rfl := Option.some.inj turn
      obtain rfl := Option.some.inj (atTurn.symm.trans here)
      obtain ⟨later, rfl, rfl, casts⟩ := delivers.tail
      refine ⟨_, (session.party.look (.result opening result)).2 ++ later,
        List.getElem?_set_self inRange, by simp [tasksOf], ?_, by simp⟩
      intro refusal isLeft
      rcases List.mem_append.1 isLeft with fromResult | isLater
      · simp [Party.look, Party.closed] at fromResult
      · exact casts refusal isLater
  | closes position _ _ _ _ _ atTurn | reports position _ _ _ _ atTurn =>
      obtain rfl := Option.some.inj turn
      obtain rfl := Option.some.inj (atTurn.symm.trans here)
      obtain ⟨later, rfl, rfl, casts⟩ := delivers.tail
      exact ⟨_, later, List.getElem?_set_self inRange, rfl, casts, by simp⟩
  | watches position _ _ _ atTurn | wakes position _ _ _ _ _ atTurn
  | answers position _ _ _ _ atTurn | waits position _ _ _ _ _ atTurn
  | learns position _ _ _ _ _ _ atTurn =>
      obtain rfl := Option.some.inj turn
      obtain rfl := Option.some.inj (atTurn.symm.trans here)
      exact absurd delivers (not_delivers rfl)
  | abandons position old atTurn =>
      obtain rfl := Option.some.inj turn
      exact ⟨_, [], List.getElem?_set_self inRange, rfl, by simp, by simp⟩

/-- Such a call is never stuck. -/
theorem Delivers.goes_on (delivers : Delivers call duties)
    (here : session.calls[index]? = some call)
    (notReturned : call.hasReturned = false) :
    ∃ move next, move.turn? = some index ∧ move.isTurn = true ∧
      session.move? move = some next := by
  obtain ⟨agenda, sending, outcome⟩ := call
  obtain rfl := delivers.agenda
  cases duties with
  | nil => simp [Call.hasReturned, tasksOf] at notReturned
  | cons duty rest =>
      cases sending with
      | some letter =>
          refine ⟨.finish index (.ok ()), ?_⟩
          cases duty <;> simp [Move.turn?, Move.isTurn, move?, finish?, here, tasksOf]
      | none =>
          cases duty with
          | opening opening =>
              cases opening with
              | request peer =>
                  refine ⟨.begin index, ?_⟩
                  simp [Move.turn?, Move.isTurn, move?, begin?, here, tasksOf,
                    compose, Party.compose]
              | vote refusal =>
                  exact absurd List.mem_cons_self (delivers.casts refusal)
          | closing closing =>
              cases closing with
              | notify decision peer =>
                  refine ⟨.begin index, ?_⟩
                  simp [Move.turn?, Move.isTurn, move?, begin?, here, tasksOf,
                    compose]
              | report decision =>
                  refine ⟨.proceed index 0, ?_⟩
                  simp [Move.turn?, Move.isTurn, move?, proceed?, here, tasksOf]

end Deliveries

/-- Whatever else happens, a call asks the given peers in their order: at any
time the first of them, all of them once it has returned, and it is never stuck
before that, unless it is given up. -/
structure AsksInOrder (origin : Session) (index : Nat) (peers : List PeerId) :
    Prop where
  stays : ∀ moves last, origin.run? moves = some last →
    ∃ call, last.calls[index]? = some call
  first : ∀ moves last, origin.run? moves = some last →
    origin.askedByCall index moves <+: peers
  all : ∀ moves last call, origin.run? moves = some last →
    .abandon index ∉ moves → last.calls[index]? = some call →
      call.hasReturned = true → origin.askedByCall index moves = peers
  goes_on : ∀ moves last call, origin.run? moves = some last →
    last.calls[index]? = some call → call.hasReturned = false →
      ∃ move next, move.turn? = some index ∧ move.isTurn = true ∧
        last.move? move = some next

section Runs

variable {origin last : Session} {moves : List Move} {index : Nat} {call : Call}

/-- What a call asked and what it has still to ask is what it had to ask. -/
theorem asked_of_call (ran : origin.run? moves = some last)
    (here : origin.calls[index]? = some call) :
    ∃ after, last.calls[index]? = some after ∧
      origin.askedByCall index moves ++ after.toAsk <+: call.toAsk ∧
      (.abandon index ∉ moves →
        origin.askedByCall index moves ++ after.toAsk = call.toAsk) := by
  induction moves generalizing origin call with
  | nil =>
      obtain rfl : origin = last := by simpa [run?] using ran
      exact ⟨call, here, List.prefix_refl _, fun _ => rfl⟩
  | cons move rest ih =>
      rw [run?_cons] at ran
      obtain ⟨next, moved, onward⟩ := Option.bind_eq_some_iff.1 ran
      obtain ⟨between, there, asks⟩ := (step_of_move? moved).asksOn here
      obtain ⟨after, atEnd, atMost, exactly⟩ := ih onward there
      refine ⟨after, atEnd, ?_⟩
      rw [askedByCall, moved]
      dsimp only
      rw [List.append_assoc]
      rcases asks with split | ⟨rfl, nobody, noneAsked⟩
      · rw [split]
        refine ⟨(List.prefix_append_right_inj _).2 atMost, fun notGiven => ?_⟩
        rw [exactly fun later => notGiven (List.mem_cons_of_mem _ later)]
      · rw [nobody, List.prefix_nil] at atMost
        rw [noneAsked, atMost]
        exact ⟨List.nil_prefix, fun notGiven =>
          absurd List.mem_cons_self notGiven⟩

theorem delivers_of_run {duties : List Duty}
    (ran : origin.run? moves = some last)
    (here : origin.calls[index]? = some call)
    (delivers : Delivers call duties) :
    ∃ after later, last.calls[index]? = some after ∧ Delivers after later :=
  run_induction (motive := fun _ session => ∃ after later,
      session.calls[index]? = some after ∧ Delivers after later)
    ⟨call, duties, here, delivers⟩
    (fun _ _ _ _ _ ⟨_, _, there, still⟩ step => step.delivers there still) ran

/-- A call whose tasks are requests asks for them in their order. -/
theorem asksInOrder_of_requests {peers : List PeerId}
    (here : origin.calls[index]? = some
      (.ofTasks (tasksOf (peers.map fun peer => .opening (.request peer))))) :
    AsksInOrder origin index peers := by
  have toAsk : (Call.ofTasks (tasksOf (peers.map fun peer =>
      .opening (.request peer)))).toAsk = peers := by
    simp [Call.toAsk, Call.owed, filterMap_tasksOf, List.filterMap_map,
      Function.comp_def, Look.askedBy?]
  constructor
  · intro moves last ran
    obtain ⟨after, atEnd, -⟩ := asked_of_call ran here
    exact ⟨after, atEnd⟩
  · intro moves last ran
    obtain ⟨after, -, atMost, -⟩ := asked_of_call ran here
    rw [toAsk] at atMost
    exact (List.prefix_append _ _).trans atMost
  · intro moves last call ran notGiven there returned
    obtain ⟨after, atEnd, -, exactly⟩ := asked_of_call ran here
    obtain rfl : call = after := Option.some.inj (there.symm.trans atEnd)
    have nobody : call.toAsk = [] := by
      rw [Call.toAsk, Call.owed_of_hasReturned returned, List.filterMap_nil]
    simpa only [nobody, List.append_nil, toAsk] using exactly notGiven
  · intro moves last call ran there notReturned
    obtain ⟨after, later, atEnd, delivers⟩ :=
      delivers_of_run ran here ⟨rfl, by simp, by simp [Call.ofTasks]⟩
    obtain rfl : call = after := Option.some.inj (there.symm.trans atEnd)
    exact delivers.goes_on there notReturned

end Runs

/-- An active primary is activated in a group: the peers that take part are
those that its selection names, or all members if it leaves that open, at their
first occurrences and without the primary; for a list of allowed peers these are
the members allowed, in the order of the members.  They are asked in this order,
and if there are none the primary commits and the call has nothing to do. -/
theorem selection_at_activation {setup : Setup} {earlier : List Move}
    {session : Session} {command : Command} {members : List PeerId}
    (role : setup.role = .primary)
    (ran : (start setup).run? earlier = some session)
    (active : session.party.tally.phase = .active)
    (activates : command = .lead (.connected members) ∨
      command = .handle .activated (.connected members)) :
    let chosen := setup.chosen members
    let launched := session.launch command
    (setup.selection members = none →
      chosen = (members.filter (· ≠ setup.localPeer)).eraseDups) ∧
    (∀ selected, setup.selection members = some selected →
      chosen = (selected.filter (· ≠ setup.localPeer)).eraseDups) ∧
    (∀ allowed, setup.selection = .allowing allowed →
      chosen = members.eraseDups.filter fun peer =>
        peer ≠ setup.localPeer ∧ peer ∈ allowed) ∧
    launched.party.tally.outstanding = .ofList chosen ∧
    launched.party.tally.phase =
      (if chosen = [] then .committed else .voting) ∧
    launched.attempts = session.attempts ∧
    (chosen = [] → launched.calls = session.calls ++ [.ofTasks []]) ∧
    AsksInOrder launched session.calls.length chosen := by
  intro chosen launched
  have sameSetup : session.party.setup = setup := setup_of_run ran
  have isPrimary : session.party.setup.role = .primary := sameSetup ▸ role
  have notActivated : session.party.tally.activated = false := by
    rw [← Bool.not_eq_true]
    exact fun activated => not_active_of_activated role ran activated active
  have leads := Party.look_of_begins isPrimary activates
  have opens := Party.opens_of_lead isPrimary (sound_of_run ran) active
    notActivated members
  have notAwait : command ≠ .await := by
    rcases activates with rfl | rfl <;> simp
  have opened : launched = { session with
      party := (session.party.lead (.connected members)).1
      calls := session.calls ++ [.ofTasks (tasksOf (chosen.map fun peer =>
        .opening (.request peer)))] } := by
    rw [sameSetup] at opens
    simp only [launched, launch_eq, leads, opens.duties, if_neg notAwait,
      List.append_nil]
    rfl
  rw [sameSetup] at opens
  refine ⟨fun isOpen => ?_, fun selected isSelected => ?_,
    fun allowed isAllowing => ?_, ?_, ?_, ?_, ?_, ?_⟩
  · simp only [chosen, Setup.chosen, isOpen, Option.getD_none]
  · simp only [chosen, Setup.chosen, isSelected, Option.getD_some]
  · simp only [chosen, Setup.chosen, isAllowing, Selection.allowing,
      Option.getD_some, List.filter_filter, eraseDups_filter, Bool.decide_and]
  · rw [opened]
    exact opens.outstanding
  · rw [opened]
    exact opens.phase
  · rw [opened]
  · intro nobody
    rw [opened, nobody]
    rfl
  · apply asksInOrder_of_requests
    rw [opened]
    simp

/-- A primary that allows two peers, one of them listed twice. -/
def allowingSetup : Setup :=
  { Setup.primary ⟨"doc"⟩ ⟨"home"⟩ with
    selection := .allowing [⟨"far"⟩, ⟨"near"⟩, ⟨"home"⟩, ⟨"far"⟩] }

/-- Members of a group that lists one of them twice and the primary between. -/
def crowd : List PeerId :=
  [⟨"near"⟩, ⟨"home"⟩, ⟨"apart"⟩, ⟨"far"⟩, ⟨"near"⟩]

/-- The members allowed are asked once each, in the order of the members. -/
theorem allowed_members_asked_in_order :
    ∃ session, allowingSetup.role = .primary ∧
      (start allowingSetup).run? [.start .await] = some session ∧
      session.party.tally.phase = .active ∧
      let launched := session.launch (.handle .activated (.connected crowd))
      launched.party.tally.phase = .voting ∧
      AsksInOrder launched 1 [⟨"near"⟩, ⟨"far"⟩] := by
  obtain ⟨session, ran⟩ : ∃ session,
      (start allowingSetup).run? [.start .await] = some session := ⟨_, rfl⟩
  have atStart : session = (start allowingSetup).launch .await :=
    (Option.some.inj ran).symm
  have active : session.party.tally.phase = .active := by rw [atStart]; rfl
  have oneCall : session.calls.length = 1 := by rw [atStart]; rfl
  have chosen : allowingSetup.chosen crowd = [⟨"near"⟩, ⟨"far"⟩] := by
    decide +kernel
  obtain ⟨-, -, -, -, phase, -, -, asks⟩ :=
    selection_at_activation rfl ran active
      (.inr (rfl : Command.handle .activated (.connected crowd) = _))
  rw [chosen] at phase asks
  rw [oneCall] at asks
  exact ⟨session, rfl, ran, active, phase, asks⟩

end Session

end CreationCommit

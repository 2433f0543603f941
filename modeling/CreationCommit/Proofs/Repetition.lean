import CreationCommit.Proofs.Heeding
import CreationCommit.Proofs.Wakeups

/-!
# An event that is delivered twice

While an event is handled and nothing else is asked of the session, one call has
all the turns.  It begins and ends the sends that it owes, hears their results
and makes its reports, until nothing is left.

If the event is handled again then, the tally stays as it is, except that
another late refusal may be kept.  Nothing is reported and nobody is asked or
voted to; a voter that said yes is told the decision once more.
-/

namespace CreationCommit

/-- Whether a move gives a call its turn, so that nothing new is asked. -/
def Move.isTurn : Move → Bool
  | .start _ => false
  | .abandon _ => false
  | .begin _ => true
  | .finish _ _ => true
  | .proceed _ _ => true

namespace Session

/-- The session takes an event and carries out all that follows from it, while
nothing else is asked of it. -/
def Handles (session : Session) (event : Event) (next : Session) : Prop :=
  ∃ view moves,
    session.run? (.start (.handle event view) :: moves) = some next ∧
      (∀ move ∈ moves, move.isTurn = true) ∧ next.isIdle = true

/-- One call has these duties left and is sending the letter, if any; the other
calls have returned. -/
structure Busy (session : Session) (index : Nat) (duties : List Duty)
    (sending : Option Letter) : Prop where
  turn : session.calls[index]? = some ⟨tasksOf duties, sending, none⟩
  others : ∀ (position : Nat) (call : Call),
    session.calls[position]? = some call → position ≠ index → call.agenda = []

variable {session next : Session} {index : Nat} {duties : List Duty}
  {sending : Option Letter} {move : Move}

/-- How a call that has all the turns gets on with its duties. -/
inductive Progress (session : Session) (index : Nat) (duties : List Duty)
    (sending : Option Letter) (next : Session) : Prop
  | begins (duty : Duty) (rest : List Duty) (letter : Letter)
      (isFirst : duties = duty :: rest) (resting : sending = none)
      (composed : compose session.party duty = (next.party, some letter))
      (busy : next.Busy index duties (some letter))
      (attempts : next.attempts = session.attempts ++ [letter])
      (callbacks : next.callbacks = session.callbacks)
  | hears (opening : Opening) (rest : List Duty)
      (result : Except DeliveryError Unit)
      (isFirst : duties = .opening opening :: rest)
      (party : next.party = (session.party.look (.result opening result)).1)
      (busy : next.Busy index
        ((session.party.look (.result opening result)).2 ++ rest) none)
      (attempts : next.attempts = session.attempts)
      (callbacks : next.callbacks = session.callbacks)
  | closes (closing : Closing) (rest : List Duty) (letter : Letter)
      (isFirst : duties = .closing closing :: rest)
      (isSending : sending = some letter) (party : next.party = session.party)
      (busy : next.Busy index rest none)
      (attempts : next.attempts = session.attempts)
      (callbacks : next.callbacks = session.callbacks)
  | reports (decision : Decision) (rest : List Duty)
      (isFirst : duties = .closing (.report decision) :: rest)
      (resting : sending = none) (party : next.party = session.party)
      (busy : next.Busy index rest none)
      (attempts : next.attempts = session.attempts)
      (callbacks : next.callbacks = session.callbacks ++ [decision])

namespace Busy

/-- A call other than the busy one has no turn. -/
theorem index_eq (busy : session.Busy index duties sending) {position : Nat}
    {task : Task} {rest : List Task} {letter : Option Letter}
    {outcome : Option Outcome}
    (turn : session.calls[position]? = some ⟨task :: rest, letter, outcome⟩) :
    position = index ∧ tasksOf duties = task :: rest ∧ sending = letter ∧
      outcome = none := by
  by_cases isHere : position = index
  · subst isHere
    have same := busy.turn.symm.trans turn
    simp only [Option.some.injEq, Call.mk.injEq] at same
    exact ⟨rfl, same.1, same.2.1, same.2.2.symm⟩
  · exact absurd (busy.others position _ turn isHere) (by simp)

theorem set (busy : session.Busy index duties sending)
    {later : List Duty} {letter : Option Letter}
    (calls : next.calls =
      session.calls.set index ⟨tasksOf later, letter, none⟩) :
    next.Busy index later letter where
  turn := by
    have inRange := (List.getElem?_eq_some_iff.1 busy.turn).1
    rw [calls, List.getElem?_set_self inRange]
  others := by
    intro position call here elsewhere
    rw [calls, List.getElem?_set_ne (Ne.symm elsewhere)] at here
    exact busy.others position call here elsewhere

theorem tasksOf_eq_cons {task : Task} {rest : List Task}
    (same : tasksOf duties = task :: rest) :
    ∃ duty later, duties = duty :: later ∧ task = .duty duty ∧
      rest = tasksOf later := by
  obtain ⟨duty, later, isFirst, isTask, isRest⟩ := List.map_eq_cons_iff.1 same
  exact ⟨duty, later, isFirst, isTask.symm, isRest.symm⟩

/-- Every turn is the busy call's and gets it on with its duties. -/
theorem progress (busy : session.Busy index duties sending)
    (step : Step session move next) (isTurn : move.isTurn = true) :
    Progress session index duties sending next := by
  cases step with
  | launches | abandons => simp [Move.isTurn] at isTurn
  | begins position duty rest outcome party letter turn composed =>
      obtain ⟨rfl, tasks, rfl, rfl⟩ := busy.index_eq turn
      obtain ⟨_, later, rfl, ⟨⟩, rfl⟩ := tasksOf_eq_cons tasks
      exact .begins duty later letter rfl rfl composed (busy.set rfl) rfl rfl
  | hears position opening rest letter outcome result turn =>
      obtain ⟨rfl, tasks, rfl, rfl⟩ := busy.index_eq turn
      obtain ⟨_, later, rfl, ⟨⟩, rfl⟩ := tasksOf_eq_cons tasks
      refine .hears opening later result rfl rfl (busy.set ?_) rfl rfl
      simp [setCall, tasksOf]
  | closes position closing rest letter outcome result turn =>
      obtain ⟨rfl, tasks, rfl, rfl⟩ := busy.index_eq turn
      obtain ⟨_, later, rfl, ⟨⟩, rfl⟩ := tasksOf_eq_cons tasks
      exact .closes closing later letter rfl rfl rfl (busy.set rfl) rfl rfl
  | reports position now decision rest outcome turn =>
      obtain ⟨rfl, tasks, rfl, rfl⟩ := busy.index_eq turn
      obtain ⟨_, later, rfl, ⟨⟩, rfl⟩ := tasksOf_eq_cons tasks
      exact .reports decision later rfl rfl rfl (busy.set rfl) rfl rfl
  | watches _ _ _ _ turn | waits _ _ _ _ _ _ turn | learns _ _ _ _ _ _ _ turn
  | wakes _ _ _ _ _ _ turn | answers _ _ _ _ _ turn =>
      obtain ⟨-, tasks, -⟩ := busy.index_eq turn
      obtain ⟨_, _, -, ⟨⟩, -⟩ := tasksOf_eq_cons tasks

/-- Once the session is idle nothing is left. -/
theorem nothing_left (busy : session.Busy index duties sending)
    (idle : session.isIdle = true) : duties = [] := by
  have returned := List.all_eq_true.1 idle _ (List.mem_of_getElem? busy.turn)
  simpa [Call.hasReturned, tasksOf] using returned

theorem isIdle (busy : session.Busy index [] sending) :
    session.isIdle = true := by
  apply List.all_eq_true.2
  intro call callMem
  obtain ⟨position, here⟩ := List.mem_iff_getElem?.1 callMem
  by_cases isHere : position = index
  · subst isHere
    obtain rfl : _ = call := Option.some.inj (busy.turn.symm.trans here)
    rfl
  · simp [Call.hasReturned, busy.others position call here isHere]

end Busy

/-- What holds of the busy session, and after everything that its call does if it
held before, holds when it has done it all. -/
theorem busy_induction {motive : Session → List Duty → Option Letter → Prop}
    {moves : List Move} {last : Session} (busy : session.Busy index duties none)
    (begins : motive session duties none)
    (goes_on : ∀ session duties sending next,
      session.Busy index duties sending → motive session duties sending →
      Progress session index duties sending next →
        ∃ duties sending, next.Busy index duties sending ∧
          motive next duties sending)
    (ran : session.run? moves = some last)
    (turns : ∀ move ∈ moves, move.isTurn = true) (idle : last.isIdle = true) :
    ∃ sending, motive last [] sending := by
  have reached : (∀ move ∈ moves, move.isTurn = true) →
      ∃ duties sending, last.Busy index duties sending ∧
        motive last duties sending := by
    refine run_induction (motive := fun moves last =>
      (∀ move ∈ moves, move.isTurn = true) →
        ∃ duties sending, last.Busy index duties sending ∧
          motive last duties sending) (fun _ => ⟨_, _, busy, begins⟩) ?_ ran
    intro earlier session move next _ before step turns
    obtain ⟨earlierTurns, isTurn⟩ := List.forall_mem_append.1 turns
    obtain ⟨duties, sending, busy, holds⟩ := before earlierTurns
    exact goes_on session duties sending next busy holds
      (busy.progress step (isTurn move (List.mem_singleton_self move)))
  obtain ⟨duties, sending, busy, holds⟩ := reached turns
  obtain rfl := busy.nothing_left idle
  exact ⟨sending, holds⟩

theorem busy_launch (idle : session.isIdle = true) (event : Event)
    (view : GroupView) :
    (session.launch (.handle event view)).Busy session.calls.length
      (session.party.handle event view).2 none where
  turn := by
    rw [launch_eq, List.getElem?_append_right (Nat.le_refl _), Nat.sub_self]
    simp [Call.ofTasks, Party.look]
  others := by
    intro position call here elsewhere
    rw [launch_eq] at here
    have inRange := (List.getElem?_eq_some_iff.1 here).1
    simp only [List.length_append, List.length_singleton] at inRange
    rw [List.getElem?_append_left (by omega)] at here
    have returned := List.all_eq_true.1 idle call (List.mem_of_getElem? here)
    simpa [Call.hasReturned] using returned

end Session

/-- The letter that a closing duty sends. -/
def Closing.letter? (party : Party) : Closing → Option Letter
  | .notify decision peer => some (party.noticeFor decision peer)
  | .report _ => none

/-- The decision that a closing duty reports. -/
def Closing.reported? : Closing → Option Decision
  | .notify _ _ => none
  | .report decision => some decision

namespace Session

variable {session next : Session} {index : Nat} {event : Event}

/-- How far a call has come that only closes: what is done and what is left are
the closings, and a letter that is being sent is attempted already, although its
closing is still left. -/
inductive Closes (origin : Session) (closings : List Closing) (session : Session)
    (duties : List Duty) (sending : Option Letter) : Prop
  | halfway (done left : List Closing) (isAll : closings = done ++ left)
      (isLeft : duties = left.map .closing)
      (party : session.party = origin.party)
      (attempts : session.attempts = origin.attempts ++
        (done.filterMap (Closing.letter? origin.party) ++ sending.toList))
      (callbacks : session.callbacks =
        origin.callbacks ++ done.filterMap Closing.reported?)
      (begun : sending.isSome = true →
        sending = left.head?.bind (Closing.letter? origin.party))

theorem Closes.progress {origin : Session} {closings : List Closing}
    {duties : List Duty} {sending : Option Letter}
    (closes : Closes origin closings session duties sending)
    (progress : Progress session index duties sending next) :
    ∃ duties sending, next.Busy index duties sending ∧
      Closes origin closings next duties sending := by
  obtain ⟨done, left, isAll, isLeft, party, attempts, callbacks, begun⟩ := closes
  subst isLeft
  cases progress with
  | begins duty rest letter isFirst resting composed busy attempted reported =>
      obtain ⟨closing, later, rfl, rfl, rfl⟩ := List.map_eq_cons_iff.1 isFirst
      cases closing with
      | notify decision peer =>
          obtain ⟨sameParty, isLetter⟩ := Prod.mk.inj composed
          subst resting
          refine ⟨_, _, busy, .halfway done _ isAll rfl (sameParty ▸ party) ?_
            (reported.trans callbacks) ?_⟩
          · rw [attempted, attempts]
            simp
          · intro _
            rw [← isLetter, party]
            rfl
      | report decision => simp [compose] at composed
  | hears opening rest result isFirst =>
      obtain ⟨closing, later, rfl, different, rfl⟩ := List.map_eq_cons_iff.1 isFirst
      cases different
  | closes closing rest letter isFirst isSending sameParty busy attempted
      reported =>
      obtain ⟨_, later, rfl, ⟨⟩, rfl⟩ := List.map_eq_cons_iff.1 isFirst
      subst isSending
      cases closing with
      | notify decision peer =>
          obtain rfl : letter = origin.party.noticeFor decision peer := by
            simpa [Closing.letter?] using begun rfl
          refine ⟨_, _, busy, .halfway (done ++ [.notify decision peer]) later
            (by simp [isAll]) rfl (sameParty.trans party) ?_ ?_ (by simp)⟩
          · simp [attempted, attempts, Closing.letter?]
          · simp [reported, callbacks, Closing.reported?]
      | report decision => simp [Closing.letter?] at begun
  | reports decision rest isFirst resting sameParty busy attempted reported =>
      obtain ⟨_, later, rfl, ⟨⟩, rfl⟩ := List.map_eq_cons_iff.1 isFirst
      subst resting
      refine ⟨_, _, busy, .halfway (done ++ [.report decision]) later
        (by simp [isAll]) rfl (sameParty.trans party) ?_ ?_ (by simp)⟩
      · simp [attempted, attempts, Closing.letter?]
      · simp [reported, callbacks, Closing.reported?]

/-- A call that only closes leaves the party alone, attempts its letters and
makes its reports. -/
theorem busy_closings {moves : List Move} {last : Session}
    {closings : List Closing}
    (busy : session.Busy index (closings.map .closing) none)
    (ran : session.run? moves = some last)
    (turns : ∀ move ∈ moves, move.isTurn = true) (idle : last.isIdle = true) :
    last.party = session.party ∧
      last.attempts = session.attempts ++
        closings.filterMap (Closing.letter? session.party) ∧
      last.callbacks = session.callbacks ++
        closings.filterMap Closing.reported? := by
  have begins : Closes session closings session (closings.map .closing) none :=
    .halfway [] closings rfl rfl rfl (by simp) (by simp) (by simp)
  obtain ⟨sending, closes⟩ := busy_induction busy begins
    (fun _ _ _ _ _ closes progress => closes.progress progress) ran turns idle
  obtain ⟨done, left, isAll, isLeft, party, attempts, callbacks, begun⟩ := closes
  obtain rfl : left = [] := by simpa using isLeft.symm
  have resting : sending = none := by
    rw [← Option.not_isSome_iff_eq_none]
    intro isSome
    simp [begun isSome] at isSome
  rw [List.append_nil] at isAll
  subst isAll resting
  rw [Option.toList_none, List.append_nil] at attempts
  exact ⟨party, attempts, callbacks⟩

/-- Whatever a call does that an event left with its duties, the event stays
heeded; what is still to be opened was left by the event itself. -/
theorem Progress.heeded {party : Party} {view : GroupView} {duties : List Duty}
    {sending : Option Letter}
    (progress : Progress session index duties sending next)
    (heeded : session.party.Heeded event)
    (left : ∀ opening, .opening opening ∈ duties →
      .opening opening ∈ (party.handle event view).2) :
    ∃ duties sending, next.Busy index duties sending ∧
      next.party.Heeded event ∧ ∀ opening, .opening opening ∈ duties →
        .opening opening ∈ (party.handle event view).2 := by
  cases progress with
  | begins duty rest letter isFirst resting composed busy =>
      obtain ⟨-, -, setup, tally⟩ := compose_letter composed
      exact ⟨_, _, busy, heeded.of_same setup tally, left⟩
  | hears opening rest result isFirst isParty busy =>
      subst isFirst
      have isLeft := left opening List.mem_cons_self
      refine ⟨_, _, busy, isParty ▸ Party.heeded_result isLeft heeded result, ?_⟩
      intro later isLater
      rcases List.mem_append.1 isLater with fromResult | fromRest
      · simp [Party.look, Party.closed] at fromResult
      · exact left later (List.mem_cons_of_mem _ fromRest)
  | closes closing rest letter isFirst isSending sameParty busy
  | reports decision rest isFirst resting sameParty busy =>
      subst isFirst
      exact ⟨_, _, busy, sameParty ▸ heeded,
        fun later isLater => left later (List.mem_cons_of_mem _ isLater)⟩

/-- Once an event is handled it is heeded. -/
theorem heeded_of_handles (idle : session.isIdle = true)
    (handles : session.Handles event next) : next.party.Heeded event := by
  obtain ⟨view, moves, ran, turns, idleNext⟩ := handles
  rw [run?_cons] at ran
  obtain ⟨_, ⟨⟩, onward⟩ := Option.bind_eq_some_iff.1 ran
  have begins : (session.launch (.handle event view)).party.Heeded event := by
    rw [launch_eq]
    exact Party.heeded_handle event
  have reached := busy_induction
    (motive := fun last duties _ => last.party.Heeded event ∧
      ∀ opening, .opening opening ∈ duties →
        .opening opening ∈ (session.party.handle event view).2)
    (busy_launch idle event view) ⟨begins, fun _ isLeft => isLeft⟩
    (fun _ _ _ _ _ before progress => progress.heeded before.1 before.2)
    onward turns idleNext
  exact reached.choose_spec.1

/-- From any session of the setup in which a call has the duties left, turns lead
to its return. -/
def CanReturn (setup : Setup) (duties : List Duty) : Prop :=
  ∀ (session : Session) (index : Nat), session.party.setup = setup →
    session.Busy index duties none →
      ∃ moves last, session.run? moves = some last ∧
        (∀ move ∈ moves, move.isTurn = true) ∧ last.isIdle = true

theorem canReturn_nil (setup : Setup) : CanReturn setup [] :=
  fun session _ _ busy => ⟨[], session, rfl, by simp, busy.isIdle⟩

namespace Busy

variable {rest : List Duty} {letter : Letter}

theorem exists_begin {duty : Duty} (busy : session.Busy index (duty :: rest) none)
    {party : Party} (composed : compose session.party duty = (party, some letter)) :
    ∃ next, session.begin? index = some next ∧
      next.Busy index (duty :: rest) (some letter) ∧ next.party = party := by
  have turn : session.calls[index]? =
      some ⟨.duty duty :: tasksOf rest, none, none⟩ := busy.turn
  have begun : session.begin? index = some
      { session.setCall index ⟨.duty duty :: tasksOf rest, some letter, none⟩ with
        party, attempts := session.attempts ++ [letter] } := by
    simp only [begin?, turn, composed]
  exact ⟨_, begun, busy.set rfl, rfl⟩

theorem exists_hear {opening : Opening}
    (busy : session.Busy index (.opening opening :: rest) (some letter))
    (result : Except DeliveryError Unit) :
    ∃ next, session.finish? index result = some next ∧
      next.Busy index
        ((session.party.noteResult opening result).2.map .closing ++ rest) none ∧
      next.party = (session.party.noteResult opening result).1 := by
  have turn : session.calls[index]? =
      some ⟨.duty (.opening opening) :: tasksOf rest, some letter, none⟩ :=
    busy.turn
  have heard : session.finish? index result = some
      { session.setCall index
          ⟨closingTasks (session.party.noteResult opening result).2 ++
            tasksOf rest, none, none⟩ with
        party := (session.party.noteResult opening result).1 } := by
    simp only [finish?, turn]
  refine ⟨_, heard, busy.set ?_, rfl⟩
  simp [setCall, tasksOf, closingTasks, Function.comp_def]

theorem exists_close {closing : Closing}
    (busy : session.Busy index (.closing closing :: rest) (some letter))
    (result : Except DeliveryError Unit) :
    ∃ next, session.finish? index result = some next ∧
      next.Busy index rest none ∧ next.party = session.party := by
  have turn : session.calls[index]? =
      some ⟨.duty (.closing closing) :: tasksOf rest, some letter, none⟩ :=
    busy.turn
  have closed : session.finish? index result =
      some (session.setCall index ⟨tasksOf rest, none, none⟩) := by
    simp only [finish?, turn]
  exact ⟨_, closed, busy.set rfl, rfl⟩

theorem exists_report {decision : Decision}
    (busy : session.Busy index (.closing (.report decision) :: rest) none)
    (now : Instant) :
    ∃ next, session.proceed? index now = some next ∧
      next.Busy index rest none ∧ next.party = session.party := by
  have turn : session.calls[index]? =
      some ⟨.duty (.closing (.report decision)) :: tasksOf rest, none, none⟩ :=
    busy.turn
  have reported : session.proceed? index now = some
      { session.setCall index ⟨tasksOf rest, none, none⟩ with
        callbacks := session.callbacks ++ [decision] } := by
    simp only [proceed?, turn]
  exact ⟨_, reported, busy.set rfl, rfl⟩

end Busy

namespace CanReturn

variable {setup : Setup} {rest : List Duty}

theorem moves_on (canReturn : CanReturn setup rest) {moves : List Move}
    (ran : session.run? moves = some next)
    (turns : ∀ move ∈ moves, move.isTurn = true)
    (sameSetup : next.party.setup = setup) (busy : next.Busy index rest none) :
    ∃ moves last, session.run? moves = some last ∧
      (∀ move ∈ moves, move.isTurn = true) ∧ last.isIdle = true := by
  obtain ⟨later, last, onward, laterTurns, idle⟩ :=
    canReturn next index sameSetup busy
  refine ⟨moves ++ later, last, ?_, List.forall_mem_append.2 ⟨turns, laterTurns⟩,
    idle⟩
  rw [run?_append, ran, Option.bind_some, onward]

theorem closing (canReturn : CanReturn setup rest) (closing : Closing) :
    CanReturn setup (.closing closing :: rest) := by
  intro session index sameSetup busy
  cases closing with
  | notify decision peer =>
      obtain ⟨begun, begins, sending, party⟩ := busy.exists_begin (by rfl)
      obtain ⟨ended, ends, resting, sameParty⟩ := sending.exists_close (.ok ())
      have ran : session.run? [.begin index, .finish index (.ok ())] =
          some ended := by
        simp [run?, move?, begins, ends]
      apply canReturn.moves_on ran (by simp [Move.isTurn]) ?_ resting
      rw [sameParty, party, sameSetup]
  | report decision =>
      obtain ⟨ended, ends, resting, sameParty⟩ := busy.exists_report 0
      have ran : session.run? [.proceed index 0] = some ended := by
        simp [run?, move?, ends]
      apply canReturn.moves_on ran (by simp [Move.isTurn]) ?_ resting
      rw [sameParty, sameSetup]

theorem closings (canReturn : CanReturn setup rest) (closings : List Closing) :
    CanReturn setup (closings.map .closing ++ rest) := by
  induction closings with
  | nil => exact canReturn
  | cons closing closings ih => exact ih.closing closing

/-- A party that can write the letter of an opening can send it. -/
theorem opening (canReturn : CanReturn setup rest) {opening : Opening}
    (writes : ∀ party : Party, party.setup = setup →
      (party.compose opening).2.isSome = true) :
    CanReturn setup (.opening opening :: rest) := by
  intro session index sameSetup busy
  obtain ⟨letter, isLetter⟩ :=
    Option.isSome_iff_exists.1 (writes session.party sameSetup)
  have composed : compose session.party (.opening opening) =
      ((session.party.compose opening).1, some letter) := by
    rw [compose, ← isLetter]
  obtain ⟨begun, begins, sending, party⟩ := busy.exists_begin composed
  obtain ⟨ended, ends, resting, heard⟩ := sending.exists_hear (.ok ())
  have ran : session.run? [.begin index, .finish index (.ok ())] =
      some ended := by
    simp [run?, move?, begins, ends]
  apply (canReturn.closings _).moves_on ran (by simp [Move.isTurn]) ?_ resting
  rw [heard, (Party.advancesOn_noteResult _ _ _).setup, party,
    (compose_letter composed).2.2.1, sameSetup]

theorem openings (canReturn : CanReturn setup rest) {openings : List Opening}
    (writes : ∀ opening ∈ openings, ∀ party : Party, party.setup = setup →
      (party.compose opening).2.isSome = true) :
    CanReturn setup (openings.map .opening ++ rest) := by
  induction openings with
  | nil => exact canReturn
  | cons opening openings ih =>
      obtain ⟨first, others⟩ := List.forall_mem_cons.1 writes
      exact (ih others).opening first

end CanReturn

theorem canReturn_requests (setup : Setup) (peers : List PeerId) :
    CanReturn setup ((peers.map Opening.request).map .opening) := by
  rw [← List.append_nil (List.map _ _)]
  apply (canReturn_nil setup).openings
  intro opening isRequest party _
  obtain ⟨peer, -, rfl⟩ := List.mem_map.1 isRequest
  rfl

/-- What an event leaves can be carried out: a replica can write its vote, and a
primary asks for votes but casts none. -/
theorem canReturn_handle {party : Party} (sound : party.tally.Sound)
    (event : Event) (view : GroupView) :
    CanReturn party.setup (party.handle event view).2 := by
  have closes (closings : List Closing) :
      CanReturn party.setup (closings.map .closing) := by
    simpa using (canReturn_nil party.setup).closings closings
  cases event with
  | activated =>
      simp only [Party.handle]
      split
      · obtain ⟨peers, requests, -⟩ := Party.lead_opens sound view
        rw [Party.opened, requests]
        exact canReturn_requests party.setup peers
      · rename_i notPrimary
        have writes (refusal : Option String) (other : Party)
            (same : other.setup = party.setup) :
            (other.compose (.vote refusal)).2.isSome = true := by
          simp only [Party.compose, Party.castVote]
          split
          · rename_i role
            simp [Party.isPrimary, ← same, role] at notPrimary
          · rfl
        simp only [Party.enroll, notPrimary, Bool.false_eq_true, if_false,
          Party.opened]
        split
        · exact (canReturn_nil party.setup).opening (writes none)
        · exact canReturn_nil party.setup
  | memberJoined peer =>
      obtain ⟨peers, requests, -⟩ := Party.welcome_opens party peer
      simp only [Party.handle, Party.opened, requests]
      exact canReturn_requests party.setup peers
  | voteReceived vote => exact closes _
  | memberDeparted peer => exact closes _
  | noticeReceived decision objectId => exact closes _

theorem exists_handles (sound : session.party.tally.Sound)
    (idle : session.isIdle = true) (event : Event) :
    ∃ next, session.Handles event next := by
  have busy := busy_launch idle event .disconnected
  have setup : (session.launch (.handle event .disconnected)).party.setup =
      session.party.setup := by
    rw [launch_eq]
    exact (Party.advancesOn_handle _ _ _).setup
  obtain ⟨moves, last, ran, turns, idleLast⟩ :=
    canReturn_handle sound event .disconnected _ _ setup busy
  refine ⟨last, .disconnected, moves, ?_, turns, idleLast⟩
  rw [run?_cons]
  exact ran

variable {setup : Setup} {moves : List Move}

/-- Whatever event reaches a session in which no call is left, it can be handled,
and once it is handled, handling it again leaves the tally as it is, except that
another late refusal may be kept.  Nothing is reported then, and nothing is sent
but a notice of the decision to a voter whose yes came again. -/
theorem repeated_event_is_harmless (ran : (start setup).run? moves = some session)
    (idle : session.isIdle = true) (event : Event) :
    (∃ once, session.Handles event once) ∧
      ∀ once, session.Handles event once →
        (∃ twice, once.Handles event twice) ∧
          ∀ twice, once.Handles event twice →
            once.party.tally.SameRecord twice.party.tally ∧
              once.party.tally.SameButLate twice.party.tally ∧
              twice.callbacks = once.callbacks ∧
              (twice.attempts = once.attempts ∨
                ∃ vote decision, event = .voteReceived vote ∧
                  vote.refusal = none ∧
                  once.party.tally.phase = decision.phase ∧
                  twice.attempts = once.attempts ++
                    [once.party.noticeFor decision vote.voter]) := by
  refine ⟨exists_handles (sound_of_run ran) idle event, fun once handles => ?_⟩
  have heeded := heeded_of_handles idle handles
  obtain ⟨view, first, ranFirst, -, idleOnce⟩ := handles
  have reached : (start setup).run?
      (moves ++ .start (.handle event view) :: first) = some once := by
    rw [run?_append, ran, Option.bind_some, ranFirst]
  refine ⟨exists_handles (sound_of_run reached) idleOnce event, ?_⟩
  rintro twice ⟨again, second, ranSecond, turns, idleTwice⟩
  obtain ⟨sameTally, closings, isLeft, reminds⟩ :
      Party.Shrugs once.party event (once.party.handle event again) :=
    Party.shrugs_handle heeded (finalized_of_aborted reached)
      (decisive_of_isPrimary reached)
  have busy := busy_launch idleOnce event again
  rw [isLeft] at busy
  rw [run?_cons] at ranSecond
  obtain ⟨_, ⟨⟩, onward⟩ := Option.bind_eq_some_iff.1 ranSecond
  obtain ⟨party, attempts, callbacks⟩ :=
    busy_closings busy onward turns idleTwice
  rw [launch_eq] at party attempts callbacks
  dsimp only [Party.look] at party attempts callbacks
  rw [← party] at sameTally
  refine ⟨sameTally.sameRecord, sameTally, ?_, ?_⟩
  · rcases reminds with rfl | ⟨vote, decision, -, -, -, rfl⟩
    · simpa using callbacks
    · rwa [List.filterMap_cons_none rfl, List.filterMap_nil,
        List.append_nil] at callbacks
  · rcases reminds with rfl | ⟨vote, decision, isVote, yes, phase, rfl⟩
    · exact .inl (by simpa using attempts)
    · refine .inr ⟨vote, decision, isVote, yes, phase, ?_⟩
      have setup := (Party.advancesOn_handle once.party event again).setup
      rw [attempts]
      simp [Closing.letter?, Party.noticeFor, setup]

/-- The primary asks its only peer, which then says yes. -/
def askingMoves : List Move :=
  [.start (.lead (.connected [⟨"home"⟩, ⟨"near"⟩])), .begin 0, .finish 0 (.ok ())]

/-- The yes that decides the creation comes twice: the commit stays as it is, and
the voter is told. -/
theorem repeated_yes_is_answered :
    let yes := Event.voteReceived ⟨⟨"near"⟩, ⟨"doc"⟩, 1, none⟩
    ∃ session once twice,
      (start (.primary ⟨"doc"⟩ ⟨"home"⟩)).run? askingMoves = some session ∧
        session.isIdle = true ∧ session.Handles yes once ∧
        once.Handles yes twice ∧ once.party.tally.phase = .committed ∧
        once.party.tally.SameRecord twice.party.tally ∧
        twice.callbacks = once.callbacks ∧
        twice.attempts =
          once.attempts ++ [once.party.noticeFor .commit ⟨"near"⟩] := by
  intro yes
  obtain ⟨session, once, twice, ran, idle, handles, again, committed, told⟩ :
      ∃ session once twice,
        (start (.primary ⟨"doc"⟩ ⟨"home"⟩)).run? askingMoves = some session ∧
          session.isIdle = true ∧ session.Handles yes once ∧
          once.Handles yes twice ∧ once.party.tally.phase = .committed ∧
          twice.attempts =
            once.attempts ++ [once.party.noticeFor .commit ⟨"near"⟩] :=
    ⟨_, _, _, rfl, rfl, ⟨.disconnected, [], rfl, by simp, rfl⟩,
      ⟨.disconnected, [.begin 2, .finish 2 (.ok ())], rfl, by simp [Move.isTurn],
        rfl⟩, rfl, rfl⟩
  obtain ⟨-, harmless⟩ := repeated_event_is_harmless ran idle yes
  obtain ⟨record, -, callbacks, -⟩ := (harmless once handles).2 twice again
  exact ⟨session, once, twice, ran, idle, handles, again, committed, record,
    callbacks, told⟩

end Session

end CreationCommit

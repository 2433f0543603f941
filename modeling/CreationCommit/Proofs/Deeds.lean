import CreationCommit.Proofs.History
import CreationCommit.Proofs.SiteInvariants
import Mathlib.Algebra.GroupWithZero.Nat
import Mathlib.Data.List.Perm.Subperm

/-!
# What a session did and what it still owes

Every duty that a look leaves is with one call until its turn comes.  Then its
letter is attempted or its report is made, and this is a deed of the session.
So the deeds and the duties owed are together the duties that the looks left,
and once every call has returned the deeds alone are.  A call that is given up
takes what it owes with it.  A result is heard only of a letter that was
attempted, and of each letter once.
-/

namespace CreationCommit

namespace Call

/-- The tasks of a call that it has not begun. -/
def remaining (call : Call) : List Task :=
  if call.sending.isSome then call.agenda.tail else call.agenda

@[simp]
theorem remaining_resting (agenda : List Task) (outcome : Option Outcome) :
    remaining ⟨agenda, none, outcome⟩ = agenda :=
  rfl

@[simp]
theorem remaining_ofTasks (agenda : List Task) :
    (ofTasks agenda).remaining = agenda :=
  rfl

/-- The duties that a call has not begun. -/
def owed (call : Call) : List Duty :=
  call.remaining.filterMap Task.duty?

theorem owed_of_hasReturned {call : Call} (returned : call.hasReturned = true) :
    call.owed = [] := by
  have nothingLeft : call.agenda = [] := by
    simpa [hasReturned] using returned
  simp [owed, remaining, nothingLeft]

end Call

namespace Session

/-- The letters that the session attempted and the reports that it made, as the
duties that they carry out. -/
def deeds (session : Session) : List Duty :=
  session.attempts.map Letter.duty ++
    session.callbacks.map fun decision => .closing (.report decision)

/-- The duties that no call has begun. -/
def owed (session : Session) : List Duty :=
  session.calls.flatMap Call.owed

/-- The duties that the look of a move leaves, if the move takes one. -/
def leaves (session : Session) (move : Move) : List Duty :=
  (session.look? move).elim [] Look.duties

/-- The reports among the deeds are those made. -/
theorem count_reports (session : Session) (decision : Decision) :
    session.deeds.count (.closing (.report decision)) =
      session.callbacks.count decision := by
  have noLetter : (session.attempts.map Letter.duty).count
      (.closing (.report decision)) = 0 := by
    refine List.count_eq_zero.2 fun isLetter => ?_
    obtain ⟨letter, -, same⟩ := List.mem_map.1 isLetter
    exact letter.duty_ne_report decision same
  have injective : Function.Injective fun decision =>
      Duty.closing (.report decision) := by
    intro first second same
    simpa using same
  rw [deeds, List.count_append, noLetter, Nat.zero_add]
  exact List.count_map_of_injective _ _ injective decision

/-- What is picked from the deeds is picked from the letters attempted, if the
reports are left out. -/
theorem filterMap_deeds {α : Type} (session : Session) {pick : Duty → Option α}
    (noReport : ∀ decision, pick (.closing (.report decision)) = none) :
    session.deeds.filterMap pick =
      session.attempts.filterMap fun letter => pick letter.duty := by
  simp [deeds, List.filterMap_append, List.filterMap_map, noReport]

/-- The duties that a step carries out: none, or one. -/
inductive Does (session next : Session) : List Duty → Prop
  | nothing (attempts : next.attempts = session.attempts)
      (callbacks : next.callbacks = session.callbacks) : Does session next []
  | sends (letter : Letter) (attempts : next.attempts = session.attempts ++ [letter])
      (callbacks : next.callbacks = session.callbacks) :
      Does session next [letter.duty]
  | reports (decision : Decision) (attempts : next.attempts = session.attempts)
      (callbacks : next.callbacks = session.callbacks ++ [decision]) :
      Does session next [.closing (.report decision)]

/-- How a step changes what the calls owe: it launches a call, it has one call
begin its first duty, if that, and take on what a look leaves, or it gives a call
up. -/
inductive Exchange (session next : Session) (move : Move) : Prop
  | launches (new : Call) (calls : next.calls = session.calls ++ [new])
      (takes : new.owed = session.leaves move) (does : Does session next [])
  | turns (index : Nat) (old new : Call) (spent rest : List Duty)
      (turn : session.calls[index]? = some old)
      (calls : next.calls = session.calls.set index new)
      (before : old.owed = spent ++ rest)
      (after : new.owed = session.leaves move ++ rest)
      (does : Does session next spent)
  | drops (index : Nat) (old new : Call) (given : move = .abandon index)
      (turn : session.calls[index]? = some old)
      (calls : next.calls = session.calls.set index new)
      (after : new.owed = []) (nothingNew : session.leaves move = [])
      (does : Does session next [])

variable {session next : Session} {move : Move}

theorem filterMap_tasksOf (duties : List Duty) :
    (tasksOf duties).filterMap Task.duty? = duties := by
  simp [tasksOf, List.filterMap_map, Function.comp_def, Task.duty?]

theorem leaves_of_no_look (noLook : session.look? move = none) :
    session.leaves move = [] := by
  simp [leaves, noLook]

theorem leaves_of_look {look : Look} (isLook : session.look? move = some look) :
    session.leaves move = look.duties := by
  simp [leaves, isLook]

/-- A call that is sending, or has nothing to send, and turns to other tasks
that are no duties. -/
theorem exchange_of_rest {index : Nat} {old new : Call} {rest : List Duty}
    (noLook : session.look? move = none)
    (turn : session.calls[index]? = some old)
    (calls : next.calls = session.calls.set index new)
    (before : old.owed = rest) (after : new.owed = rest)
    (attempts : next.attempts = session.attempts)
    (callbacks : next.callbacks = session.callbacks) :
    Exchange session next move := by
  refine .turns index old new [] rest turn calls before ?_
    (.nothing attempts callbacks)
  rw [leaves_of_no_look noLook, after, List.nil_append]

/-- A call that is launched takes on what its look leaves. -/
theorem exists_launched (session : Session) (command : Command) :
    ∃ new, (session.launch command).calls = session.calls ++ [new] ∧
      new.owed = session.leaves (.start command) := by
  rw [launch_eq]
  refine ⟨_, rfl, ?_⟩
  have isLook : session.look? (.start command) =
      some ⟨session.party, .command command⟩ := rfl
  rw [leaves_of_look isLook, Call.owed, Call.remaining_ofTasks,
    List.filterMap_append, filterMap_tasksOf]
  split <;> simp [Task.duty?, Look.duties]

/-- Every step is such an exchange. -/
theorem Step.exchange (step : Step session move next) :
    Exchange session next move := by
  cases step with
  | launches command =>
      obtain ⟨new, calls, takes⟩ := exists_launched session command
      exact .launches new calls takes (.nothing rfl rfl)
  | begins index duty rest outcome party letter turn composed =>
      obtain ⟨rfl, -⟩ := compose_letter composed
      refine .turns index _ _ [letter.duty] _ turn rfl rfl ?_
        (.sends letter rfl rfl)
      rw [leaves_of_no_look rfl]
      rfl
  | hears index opening rest letter outcome result turn =>
      have isLook : session.look? (.finish index result) =
          some ⟨session.party, .result opening result⟩ := by
        simp [look?, trigger?, turn]
      refine .turns index _ _ [] _ turn rfl rfl ?_ (.nothing rfl rfl)
      rw [leaves_of_look isLook, Call.owed, Call.remaining_resting,
        List.filterMap_append, filterMap_tasksOf]
      rfl
  | closes index closing rest letter outcome result turn =>
      exact exchange_of_rest (by simp [look?, trigger?, turn]) turn rfl rfl rfl
        rfl rfl
  | reports index now decision rest outcome turn =>
      refine .turns index _ _ [.closing (.report decision)] _ turn rfl rfl ?_
        (.reports decision rfl rfl)
      rw [leaves_of_no_look (by simp [look?, trigger?, turn])]
      rfl
  | watches index now rest outcome turn
  | wakes index now seen deadline rest outcome turn awake
  | answers index now outcome rest before turn =>
      exact exchange_of_rest (by simp [look?, trigger?, turn]) turn rfl rfl rfl
        rfl rfl
  | waits index now seen rest outcome deadline turn found idle =>
      have isLook : session.look? (.proceed index now) =
          some ⟨session.party, .clock now⟩ := by
        simp [look?, trigger?, turn]
      refine .turns index _ _ [] _ turn rfl rfl ?_ (.nothing rfl rfl)
      rw [leaves_of_look isLook, Look.duties, idle]
      rfl
  | learns index now seen rest before closings outcome turn found =>
      have isLook : session.look? (.proceed index now) =
          some ⟨session.party, .clock now⟩ := by
        simp [look?, trigger?, turn]
      refine .turns index _ _ [] _ turn rfl rfl ?_ (.nothing rfl rfl)
      rw [leaves_of_look isLook, Call.owed, Call.remaining_ofTasks,
        List.filterMap_append, filterMap_tasksOf]
      rfl
  | abandons index call turn =>
      exact .drops index _ _ rfl turn rfl rfl (leaves_of_no_look rfl)
        (.nothing rfl rfl)

theorem sum_map_set (weight : Call → Nat) {calls : List Call} {index : Nat}
    {old : Call} (turn : calls[index]? = some old) (new : Call) :
    ((calls.set index new).map weight).sum + weight old =
      (calls.map weight).sum + weight new := by
  induction calls generalizing index with
  | nil => simp at turn
  | cons first rest ih =>
      cases index with
      | zero =>
          obtain rfl : first = old := by simpa using turn
          simp only [List.set_cons_zero, List.map_cons, List.sum_cons]
          omega
      | succ index =>
          have later := ih (by simpa using turn)
          simp only [List.set_cons_succ, List.map_cons, List.sum_cons]
          omega

namespace Does

variable {duties : List Duty}

theorem count_deeds (does : Does session next duties) (duty : Duty) :
    next.deeds.count duty = session.deeds.count duty + duties.count duty := by
  cases does with
  | nothing attempts callbacks => simp [deeds, attempts, callbacks]
  | sends letter attempts callbacks =>
      simp only [deeds, attempts, callbacks, List.map_append, List.map_cons,
        List.map_nil, List.count_append]
      omega
  | reports decision attempts callbacks =>
      simp only [deeds, attempts, callbacks, List.map_append, List.map_cons,
        List.map_nil, List.count_append]
      omega

/-- What was attempted stays so. -/
theorem attempts_prefix (does : Does session next duties) :
    session.attempts <+: next.attempts := by
  cases does with
  | nothing attempts => rw [attempts]
  | sends letter attempts => exact ⟨[letter], attempts.symm⟩
  | reports decision attempts => rw [attempts]

end Does

theorem Exchange.does (exchange : Exchange session next move) :
    ∃ duties, Does session next duties := by
  cases exchange with
  | launches _ _ _ does | turns _ _ _ _ _ _ _ _ _ does
  | drops _ _ _ _ _ _ _ _ does => exact ⟨_, does⟩

/-- A call stays as it is, or it has its turn, or it is given up. -/
theorem Exchange.call_cases (exchange : Exchange session next move)
    {index : Nat} {call : Call} (here : session.calls[index]? = some call) :
    next.calls[index]? = some call ∨
      (∃ new spent rest, next.calls[index]? = some new ∧
        call.owed = spent ++ rest ∧ new.owed = session.leaves move ++ rest ∧
        Does session next spent) ∨
      (move = .abandon index ∧ ∃ new, next.calls[index]? = some new) := by
  have inRange := (List.getElem?_eq_some_iff.1 here).1
  cases exchange with
  | launches new calls =>
      left
      rw [calls, List.getElem?_append_left inRange, here]
  | turns position old new spent rest turn calls before after does =>
      by_cases isHere : position = index
      · subst isHere
        obtain rfl : old = call := by simpa [turn] using here
        have newHere : next.calls[position]? = some new := by
          rw [calls, List.getElem?_set_self inRange]
        exact .inr (.inl ⟨new, spent, rest, newHere, before, after, does⟩)
      · left
        rw [calls, List.getElem?_set_ne isHere, here]
  | drops position old new given turn calls =>
      by_cases isHere : position = index
      · subst isHere
        have newHere : next.calls[position]? = some new := by
          rw [calls, List.getElem?_set_self inRange]
        exact .inr (.inr ⟨given, new, newHere⟩)
      · left
        rw [calls, List.getElem?_set_ne isHere, here]

theorem count_owed (session : Session) (duty : Duty) :
    session.owed.count duty =
      (session.calls.map fun call => call.owed.count duty).sum :=
  List.count_flatMap

/-- A step keeps the account of a duty, unless it gives a call up: then it may
drop what the call owed. -/
theorem Exchange.count (exchange : Exchange session next move) (duty : Duty) :
    next.deeds.count duty + next.owed.count duty ≤
        session.deeds.count duty + session.owed.count duty +
          (session.leaves move).count duty ∧
      ((∀ index, move ≠ .abandon index) →
        next.deeds.count duty + next.owed.count duty =
          session.deeds.count duty + session.owed.count duty +
            (session.leaves move).count duty) := by
  rw [count_owed, count_owed]
  cases exchange with
  | launches new calls takes does =>
      have deeds := does.count_deeds duty
      simp only [calls, List.map_append, List.map_cons, List.map_nil,
        List.sum_append, takes]
      simp only [List.sum_cons, List.sum_nil, List.count_nil] at deeds ⊢
      omega
  | turns index old new spent rest turn calls before after does =>
      have deeds := does.count_deeds duty
      have changed := sum_map_set (fun call => call.owed.count duty) turn new
      simp only [before, after, List.count_append, ← calls] at changed
      omega
  | drops index old new given turn calls after nothingNew does =>
      have deeds := does.count_deeds duty
      have changed := sum_map_set (fun call => call.owed.count duty) turn new
      simp only [after, List.count_nil, ← calls] at changed deeds
      exact ⟨by omega, fun notAbandoned => absurd given (notAbandoned index)⟩

/-- The duties that the looks of a history left, in their order. -/
theorem duties_concat {origin : Session} {moves : List Move}
    (ran : origin.run? moves = some session) (move : Move) :
    (origin.history (moves ++ [move])).flatMap Look.duties =
      (origin.history moves).flatMap Look.duties ++ session.leaves move := by
  rw [history_concat ran, List.flatMap_append]
  cases isLook : session.look? move <;> simp [leaves, isLook]

variable {setup : Setup} {moves : List Move} {last : Session}

theorem count_deeds_of_run (ran : (start setup).run? moves = some last)
    (duty : Duty) :
    last.deeds.count duty + last.owed.count duty ≤
        (((start setup).history moves).flatMap Look.duties).count duty ∧
      ((∀ index, .abandon index ∉ moves) →
        last.deeds.count duty + last.owed.count duty =
          (((start setup).history moves).flatMap Look.duties).count duty) := by
  refine run_induction (motive := fun moves session =>
    session.deeds.count duty + session.owed.count duty ≤
        (((start setup).history moves).flatMap Look.duties).count duty ∧
      ((∀ index, .abandon index ∉ moves) →
        session.deeds.count duty + session.owed.count duty =
          (((start setup).history moves).flatMap Look.duties).count duty))
    ?_ ?_ ran
  · simp [start, deeds, owed, history]
  · rintro earlier session move next ranEarlier ⟨atMost, exactly⟩ step
    obtain ⟨stepAtMost, stepExactly⟩ := step.exchange.count duty
    rw [duties_concat ranEarlier, List.count_append]
    refine ⟨by omega, fun notAbandoned => ?_⟩
    have now := stepExactly fun index given =>
      notAbandoned index (by simp [given])
    have before := exactly fun index given =>
      notAbandoned index (List.mem_append_left _ given)
    omega

/-- What a session did and owes was left by its looks. -/
theorem deeds_subperm_of_run (ran : (start setup).run? moves = some last) :
    (last.deeds ++ last.owed).Subperm
      (((start setup).history moves).flatMap Look.duties) := by
  refine List.subperm_ext_iff.2 fun duty _ => ?_
  rw [List.count_append]
  exact (count_deeds_of_run ran duty).1

theorem owed_of_isIdle (idle : last.isIdle = true) : last.owed = [] := by
  refine List.flatMap_eq_nil_iff.2 fun call callMem => ?_
  exact Call.owed_of_hasReturned (List.all_eq_true.1 idle call callMem)

/-- Once every call has returned, and none was given up, the session did what
its looks left to do. -/
theorem deeds_perm_of_run (ran : (start setup).run? moves = some last)
    (notAbandoned : ∀ index, .abandon index ∉ moves)
    (idle : last.isIdle = true) :
    last.deeds.Perm (((start setup).history moves).flatMap Look.duties) := by
  refine List.perm_iff_count.2 fun duty => ?_
  have counted := (count_deeds_of_run ran duty).2 notAbandoned
  rwa [owed_of_isIdle idle, List.count_nil, Nat.add_zero] at counted

end Session

/-- The opening whose result the look hears. -/
def Look.answered? (look : Look) : Option Opening :=
  match look.trigger with
  | .result opening _ => some opening
  | _ => none

/-- The openings whose results a history hears, in their order. -/
def answered (history : List Look) : List Opening :=
  history.filterMap Look.answered?

/-- The duty whose letter a call is sending. -/
def Call.underway (call : Call) : List Duty :=
  (call.sending.map Letter.duty).toList

namespace Session

/-- The duties whose letters are being sent. -/
def underway (session : Session) : List Duty :=
  session.calls.flatMap Call.underway

variable {session next : Session} {move : Move}

theorem count_underway (session : Session) (duty : Duty) :
    session.underway.count duty =
      (session.calls.map fun call => call.underway.count duty).sum :=
  List.count_flatMap

/-- A step at one call keeps the balance if the call does. -/
theorem results_of_set {index : Nat} {old new : Call} {heard : Nat}
    {duty : Duty} (turn : session.calls[index]? = some old)
    (calls : next.calls = session.calls.set index new)
    (balance : heard + new.underway.count duty +
        (session.attempts.map Letter.duty).count duty ≤
      old.underway.count duty + (next.attempts.map Letter.duty).count duty) :
    heard + next.underway.count duty +
        (session.attempts.map Letter.duty).count duty ≤
      session.underway.count duty +
        (next.attempts.map Letter.duty).count duty := by
  have changed := sum_map_set (fun call => call.underway.count duty) turn new
  rw [← calls, ← count_underway, ← count_underway] at changed
  omega

/-- A result is heard of a letter that was being sent, and a letter is being
sent only once it was attempted. -/
theorem Step.results (step : Step session move next)
    (composed : session.Composed) (duty : Duty) :
    ((answered (session.look? move).toList).map Duty.opening).count duty +
        next.underway.count duty +
        (session.attempts.map Letter.duty).count duty ≤
      session.underway.count duty +
        (next.attempts.map Letter.duty).count duty := by
  cases step with
  | launches command =>
      rw [launch_eq]
      simp [count_underway, answered, Look.answered?, look?, trigger?,
        List.filterMap_cons, Call.underway, Call.ofTasks]
  | begins index task rest outcome party letter turn =>
      refine results_of_set turn rfl ?_
      simp [answered, look?, trigger?, Call.underway, Nat.add_comm]
  | hears index opening rest letter outcome result turn =>
      obtain ⟨-, tasks, isAgenda⟩ :=
        composed _ (List.mem_of_getElem? turn) letter rfl
      have carriesOut : letter.duty = .opening opening :=
        (Task.duty.inj (List.cons.inj isAgenda).1).symm
      refine results_of_set turn rfl ?_
      simp [answered, Look.answered?, look?, trigger?, turn, Call.underway,
        carriesOut, setCall]
  | closes _ _ _ _ _ _ turn | reports _ _ _ _ _ turn | watches _ _ _ _ turn
  | wakes _ _ _ _ _ _ turn | waits _ _ _ _ _ _ turn
  | learns _ _ _ _ _ _ _ turn | answers _ _ _ _ _ turn
  | abandons _ _ turn =>
      refine results_of_set turn rfl ?_
      simp [answered, Look.answered?, look?, trigger?, turn,
        List.filterMap_cons, Call.underway, Call.ofTasks, setCall]

/-- Every result of a run, and every letter under way, is of a letter that was
attempted. -/
theorem results_subperm_of_run {setup : Setup} {moves : List Move}
    {last : Session} (ran : (start setup).run? moves = some last) :
    ((answered ((start setup).history moves)).map Duty.opening ++
      last.underway).Subperm (last.attempts.map Letter.duty) := by
  have kept := run_induction (motive := fun moves session => ∀ duty,
      ((answered ((start setup).history moves)).map Duty.opening).count duty +
        session.underway.count duty ≤
          (session.attempts.map Letter.duty).count duty) ?_ ?_ ran
  · refine List.subperm_ext_iff.2 fun duty _ => ?_
    rw [List.count_append]
    exact kept duty
  · simp [start, history, answered, underway]
  · intro earlier session move next ranEarlier counted step duty
    have before := counted duty
    have stepped := step.results (composed_of_run ranEarlier) duty
    rw [history_concat ranEarlier, answered, List.filterMap_append,
      List.map_append, List.count_append]
    rw [answered] at before stepped
    omega

end Session

end CreationCommit

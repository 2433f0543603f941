import CreationCommit.Action
import CreationCommit.Session

/-!
# Sessions on a clock

A timeline plays the steps of a plan, each from the instant it is planned for,
on one party.  A step goes on until it has to wait for the clock or for an
announcement; then the next step that is ready has its turn.  The clock moves
only while no step is ready, and then to the next alarm.  Steps become ready
in the order in which their alarms were set, or in which they fell asleep.

At first every step has a turn, in the order of the plan: a step whose instant
has come begins, and any other sets an alarm for it.  A call sets the alarm for
its bound once, when it first has to wait, and an alarm for what it waits for
each time.  The play ends when the clock reaches its end, before any step that
becomes ready there has its turn.

Playing a step amounts to moves of the session underneath, so a timeline is
one of the ways in which the calls of a session may overlap.
-/

namespace CreationCommit

/-- A step of a plan. -/
structure Step where
  start : Instant
  action : Action

/-- What can be seen of a party at an instant. -/
structure Sight where
  party : Party
  accepted : List Letter
  callbacks : List Decision
  now : Instant

/-- How a step ended. -/
structure Ending where
  sight : Sight
  answer : Answer

/-- A send under way, and the instant at which it ends. -/
structure Sending where
  letter : Letter
  passage : Passage
  finish : Instant

/-- How far a step has come. -/
inductive Progress
  | planned (start : Instant) (action : Action)
  | calling (call : Nat) (bound : Option Instant) (sending : Option Sending)
  | pausing (finish : Instant)
  | ended (ending : Ending)

/-- An instant at which a step becomes ready, and whether it is the bound of
the step's call. -/
structure Alarm where
  due : Instant
  step : Nat
  isBound : Bool
deriving DecidableEq, Repr

/-- The play of a plan. -/
structure Timeline where
  session : Session
  carrier : Carrier
  group : Group
  now : Instant
  steps : List Progress
  ready : List Nat
  sleepers : List Nat
  alarms : List Alarm

namespace Timeline

def start (setup : Setup) (carrier : Carrier) (group : Group)
    (plan : List Step) : Timeline where
  session := .start setup
  carrier := carrier
  group := group
  now := 0
  steps := plan.map fun step => .planned step.start step.action
  ready := List.range plan.length
  sleepers := []
  alarms := []

def sight (timeline : Timeline) : Sight where
  party := timeline.session.party
  accepted := timeline.carrier.accepted
  callbacks := timeline.session.callbacks
  now := timeline.now

def setStep (timeline : Timeline) (step : Nat) (progress : Progress) :
    Timeline :=
  { timeline with steps := timeline.steps.set step progress }

/-- End a step and its turn; nothing wakes it any more. -/
def finish (timeline : Timeline) (step : Nat) (answer : Answer) : Timeline :=
  { timeline.setStep step (.ended ⟨timeline.sight, answer⟩) with
    ready := timeline.ready.erase step
    sleepers := timeline.sleepers.erase step
    alarms := timeline.alarms.filter (·.step ≠ step) }

/-- The alarms that a step leaves standing when its turn ends: those of other
steps and that of its own bound. -/
def standingAlarms (timeline : Timeline) (step : Nat) : List Alarm :=
  timeline.alarms.filter fun alarm => alarm.step ≠ step || alarm.isBound

/-- The alarm for the bound of a step's call, unless it stands already. -/
def boundAlarm (timeline : Timeline) (step : Nat) (bound : Option Instant) :
    List Alarm :=
  if timeline.alarms.any fun alarm => alarm.step = step && alarm.isBound then
    []
  else
    bound.toList.map fun due => ⟨due, step, true⟩

/-- End the turn of a step until `due` or the bound of its call. -/
def wait (timeline : Timeline) (step : Nat) (due bound : Option Instant) :
    Timeline :=
  { timeline with
    ready := timeline.ready.erase step
    alarms := timeline.standingAlarms step ++
      (due.toList.map fun due => ⟨due, step, false⟩) ++
      timeline.boundAlarm step bound }

/-- Wake the sleeping steps, if a change was announced since `before`. -/
def rouse (timeline : Timeline) (before : Nat) : Timeline :=
  if before < timeline.session.party.announcements then
    { timeline with
      ready := timeline.ready ++
        timeline.sleepers.filter (· ∉ timeline.ready)
      sleepers := [] }
  else
    timeline

/-- Make a move of the session and wake who waits for its announcement. -/
def play (timeline : Timeline) (move : Move) : Timeline :=
  match timeline.session.move? move with
  | none => timeline
  | some session =>
      { timeline with session }.rouse
        timeline.session.party.announcements

def call (timeline : Timeline) (step : Nat) (command : Command)
    (bound : Option Instant) : Timeline :=
  let index := timeline.session.calls.length
  (timeline.play (.start command)).setStep step (.calling index bound none)

def act (timeline : Timeline) (step : Nat) : Action → Timeline
  | .event event =>
      timeline.call step (.handle event timeline.group.view) none
  | .lead view => timeline.call step (.lead view) none
  | .enroll refusal => timeline.call step (.enroll refusal) none
  | .await limit => timeline.call step .await (some (timeline.now.after limit))
  | .pause duration =>
      timeline.setStep step (.pausing (timeline.now.after duration))
  | .setDelay delay =>
      { timeline with carrier := timeline.carrier.setDelay delay }.finish step
        .silent
  | .refuse refusal =>
      { timeline with carrier := timeline.carrier.refuse refusal }.finish step
        .silent
  | .closeCarrier =>
      { timeline with carrier := timeline.carrier.close }.finish step .silent
  | .group change =>
      let (group, changed) := timeline.group.change change
      { timeline with group }.finish step (.ofChange changed)
  | .look => timeline.finish step .silent

def beginSend (timeline : Timeline) (step call : Nat)
    (bound : Option Instant) : Timeline :=
  let passage := timeline.carrier.passage
    (some timeline.session.party.setup.settings.sendTimeout)
  let timeline := timeline.play (.begin call)
  match timeline.session.calls[call]?.bind (·.sending) with
  | none => timeline.finish step .silent
  | some letter =>
      timeline.setStep step (.calling call bound
        (some ⟨letter, passage, timeline.now.after passage.duration⟩))

def endSend (timeline : Timeline) (step call : Nat) (bound : Option Instant)
    (sending : Sending) : Timeline :=
  let (carrier, result) :=
    timeline.carrier.finish sending.letter sending.passage
  ({ timeline with carrier }.play (.finish call result)).setStep step
    (.calling call bound none)

/-- Let a call that cannot go on wait for `due`, or give it up at its bound. -/
def block (timeline : Timeline) (step call : Nat) (bound due : Option Instant) :
    Timeline :=
  if bound.any (· ≤ timeline.now) then
    (timeline.play (.abandon call)).finish step .silent
  else
    timeline.wait step due bound

/-- Let a call fall asleep until an announcement or its deadline. -/
def fallAsleep (timeline : Timeline) (step call : Nat)
    (bound deadline : Option Instant) : Timeline :=
  { timeline with sleepers := timeline.sleepers ++ [step] }.block step call
    bound deadline

def continueCall (timeline : Timeline) (step call : Nat)
    (bound : Option Instant) : Timeline :=
  match timeline.session.calls[call]? with
  | none => timeline.finish step .silent
  | some made =>
      match made.agenda with
      | [] => timeline.finish step (.ofOutcome made.outcome)
      | .duty (.closing (.report _)) :: _ =>
          timeline.play (.proceed call timeline.now)
      | .duty _ :: _ => timeline.beginSend step call bound
      | .sleep seen deadline :: _ =>
          if Session.isAwake timeline.session.party timeline.now seen deadline
          then timeline.play (.proceed call timeline.now)
          else timeline.fallAsleep step call bound deadline
      | _ => timeline.play (.proceed call timeline.now)

def advance (timeline : Timeline) (step : Nat) : Timeline :=
  match timeline.steps[step]? with
  | some (.planned start action) =>
      if start ≤ timeline.now then timeline.act step action
      else timeline.wait step (some start) none
  | some (.calling call bound none) => timeline.continueCall step call bound
  | some (.calling call bound (some sending)) =>
      if sending.finish ≤ timeline.now then
        timeline.endSend step call bound sending
      else
        timeline.block step call bound (some sending.finish)
  | some (.pausing due) =>
      if due ≤ timeline.now then timeline.finish step .silent
      else timeline.wait step (some due) none
  | _ => timeline.wait step none none

/-- The instant of the next alarm. -/
def nextAlarm? (timeline : Timeline) : Option Instant :=
  (timeline.alarms.map (·.due)).min?

/-- Move the clock to an instant, and make the steps ready whose alarms are
due. -/
def moveTo (timeline : Timeline) (instant : Instant) : Timeline :=
  let due := timeline.alarms.filter (·.due ≤ instant)
  let woken := (due.map (·.step)).eraseDups
  { timeline with
    now := instant
    ready := timeline.ready ++ woken
    sleepers := timeline.sleepers.filter (· ∉ woken)
    alarms := timeline.alarms.filter (fun alarm => instant < alarm.due) }

/-- Give the next step its turn, or move the clock to the next alarm if no
step is ready. -/
def next? (timeline : Timeline) : Option Timeline :=
  match timeline.ready, timeline.nextAlarm? with
  | step :: _, _ => some (timeline.advance step)
  | [], some due => some (timeline.moveTo (max timeline.now due))
  | [], none => none

/-- Play on until the clock reaches `last` or nothing can happen any more, at
most for some turns. -/
def playUntil (last : Instant) : Nat → Timeline → Timeline
  | 0, timeline => timeline
  | turns + 1, timeline =>
      if timeline.now < last then
        match timeline.next? with
        | some timeline => playUntil last turns timeline
        | none => timeline
      else
        timeline

def peersOf (step : Step) : List PeerId :=
  match step.action with
  | .lead (.connected members) => members
  | .event (.memberJoined peer) => [peer]
  | .group (.join peer) => [peer]
  | _ => []

/-- More turns than the steps of a plan take: every step may send to every
peer, and every wait may be woken by every change. -/
def turnBound (setup : Setup) (group : Group) (plan : List Step) : Nat :=
  let peers := group.members ++ plan.flatMap peersOf
  let reached := peers.length + (setup.selection.choose peers).length + 4
  32 * (plan.length + 2) * (plan.length + 2) * reached

/-- Play a plan up to `last`, where the clock stops. -/
def ofPlan (setup : Setup) (carrier : Carrier) (group : Group)
    (plan : List Step) (last : Instant) : Timeline :=
  let timeline := (start setup carrier group plan).playUntil last
    (turnBound setup group plan)
  { timeline with now := last }

/-- How the steps ended; a step that has not ended has no ending. -/
def endings (timeline : Timeline) : List (Option Ending) :=
  timeline.steps.map fun progress =>
    match progress with
    | .ended ending => some ending
    | _ => none

end Timeline

end CreationCommit

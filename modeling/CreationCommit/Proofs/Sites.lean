import CreationCommit.Proofs.SessionSteps
import Mathlib.Algebra.BigOperators.Group.Finset.Basic
import Mathlib.Algebra.Order.Group.Multiset

/-!
# Sessions that write to a transport

The transport may take a letter while the send still lasts, so that the letter
can arrive before its sender hears that it was accepted.  A site is a session
with the calls whose letter was taken in this way.  What a site still has to
do is the multiset of its dues: the duties of all its calls, without those
whose letter was taken.
-/

namespace CreationCommit

/-- A session, and the calls whose letter the transport took while their send
still lasts. -/
structure Site where
  session : Session
  carried : List Nat

namespace Site

/-- The site of a setup before anything happened. -/
def start (setup : Setup) : Site where
  session := .start setup
  carried := []

/-- The party of a site. -/
abbrev party (site : Site) : Party :=
  site.session.party

/-- The tally of a site. -/
abbrev tally (site : Site) : Tally :=
  site.session.party.tally

/-- The setup of a site. -/
abbrev setup (site : Site) : Setup :=
  site.session.party.setup

/-- The letter that a call is sending. -/
def sending? (site : Site) (index : Nat) : Option Letter :=
  site.session.calls[index]?.bind (·.sending)

/-- What may happen at a site: a move of its session, or the transport takes
the letter that a call is sending. -/
inductive Act
  | own (move : Move)
  | hand (call : Nat)

/-- Let something happen at a site, if it is possible, and tell which letter
the transport took.  A send whose letter was taken ends well, and a send that
ends well has its letter taken. -/
def act? (site : Site) : Act → Option (Site × Option Letter)
  | .hand index =>
      if index ∈ site.carried then
        none
      else
        (site.sending? index).map fun letter =>
          ({ site with carried := index :: site.carried }, some letter)
  | .own (.finish index (.ok ())) =>
      (site.session.finish? index (.ok ())).map fun session =>
        (⟨session, site.carried.filter (· ≠ index)⟩,
          if index ∈ site.carried then none else site.sending? index)
  | .own (.finish index (.error error)) =>
      if index ∈ site.carried then
        none
      else
        (site.session.finish? index (.error error)).map fun session =>
          (⟨session, site.carried⟩, none)
  | .own (.abandon index) =>
      (site.session.abandon? index).map fun session =>
        (⟨session, site.carried.filter (· ≠ index)⟩, none)
  | .own move =>
      (site.session.move? move).map fun session => ({ site with session }, none)

/-- Whether every call of the site has returned. -/
def isIdle (site : Site) : Bool :=
  site.session.isIdle

/-- Whether the transport took a letter whose send still lasts. -/
def Carries (site : Site) (letter : Letter) : Prop :=
  ∃ index ∈ site.carried, site.sending? index = some letter

/-- Only a call that sends has had its letter taken, and every call sends the
letter of its first duty. -/
structure Fit (site : Site) : Prop where
  composed : site.session.Composed
  carried : ∀ index ∈ site.carried, (site.sending? index).isSome

end Site

/-- The duty of a task, if it has one. -/
def Task.duty? : Task → Option Duty
  | .duty owed => some owed
  | _ => none

/-- The duties among tasks. -/
def dutiesOf (agenda : List Task) : Multiset Duty :=
  agenda.filterMap Task.duty?

@[simp]
theorem dutiesOf_nil : dutiesOf [] = 0 :=
  rfl

@[simp]
theorem dutiesOf_duty (duty : Duty) (rest : List Task) :
    dutiesOf (.duty duty :: rest) = {duty} + dutiesOf rest :=
  rfl

theorem dutiesOf_append (first second : List Task) :
    dutiesOf (first ++ second) = dutiesOf first + dutiesOf second := by
  simp [dutiesOf]

@[simp]
theorem dutiesOf_tasksOf (duties : List Duty) :
    dutiesOf (Session.tasksOf duties) = (duties : Multiset Duty) := by
  simp [dutiesOf, Session.tasksOf, List.filterMap_map, Function.comp_def,
    Task.duty?]

namespace Site

/-- The duties that a call still has to do, or whose letter is still with it. -/
def dueAt (site : Site) (index : Nat) : Multiset Duty :=
  match site.session.calls[index]? with
  | some call =>
      dutiesOf (if index ∈ site.carried then call.agenda.tail else call.agenda)
  | none => 0

/-- The dues of all calls together. -/
def dues (site : Site) : Multiset Duty :=
  ∑ index ∈ Finset.range site.session.calls.length, site.dueAt index

variable {site next : Site} {index : Nat}

theorem dueAt_of_carried {call : Call}
    (turn : site.session.calls[index]? = some call)
    (carried : index ∈ site.carried) :
    site.dueAt index = dutiesOf call.agenda.tail := by
  simp [dueAt, turn, carried]

theorem dueAt_of_not_carried {call : Call}
    (turn : site.session.calls[index]? = some call)
    (notCarried : index ∉ site.carried) :
    site.dueAt index = dutiesOf call.agenda := by
  simp [dueAt, turn, notCarried]

/-- A change at one call changes the dues by the dues of that call. -/
theorem dues_of_change
    (sameLength : next.session.calls.length = site.session.calls.length)
    (inRange : index < site.session.calls.length)
    (others : ∀ other ≠ index, next.dueAt other = site.dueAt other) :
    next.dues + site.dueAt index = site.dues + next.dueAt index := by
  have isCall : index ∈ Finset.range site.session.calls.length :=
    Finset.mem_range.2 inRange
  have sameRest :
      ∑ other ∈ (Finset.range site.session.calls.length).erase index,
          next.dueAt other =
        ∑ other ∈ (Finset.range site.session.calls.length).erase index,
          site.dueAt other :=
    Finset.sum_congr rfl fun other otherMem =>
      others other (Finset.ne_of_mem_erase otherMem)
  rw [dues, dues, sameLength, ← Finset.sum_erase_add _ _ isCall,
    ← Finset.sum_erase_add _ _ isCall, sameRest]
  exact add_right_comm _ _ _

/-- What the party of a site does for a cause, if there is one. -/
def react (site : Site) : Option Trigger → Party × List Duty
  | none => (site.party, [])
  | some trigger => site.party.look trigger

theorem duties_of_no_cause (site : Site) :
    ((site.react none).2 : Multiset Duty) = 0 :=
  rfl

/-- What an act changes: the party reacts to a cause, some dues are gone, and
the transport may have taken a letter. -/
structure Effect (site next : Site) (cause : Option Trigger)
    (gone : Multiset Duty) (taken : Option Letter) : Prop where
  fit : next.Fit
  setup : next.setup = site.setup
  tally : next.tally = (site.react cause).1.tally
  dues : next.dues + gone = site.dues + ((site.react cause).2 : Multiset Duty)
  carries : ∀ letter, next.Carries letter →
    site.Carries letter ∨ taken = some letter

/-- The cause, the dues that are gone and the letter taken, for each act. -/
inductive Turn (site : Site) : Act → Option Trigger → Multiset Duty →
    Option Letter → Prop
  | launches (command : Command) :
      Turn site (.own (.start command)) (some (.command command)) 0 none
  | examines (index : Nat) (now : Instant) :
      Turn site (.own (.proceed index now)) (some (.clock now)) 0 none
  | delivers (index : Nat) (opening : Opening) (letter : Letter)
      (duty : letter.duty = .opening opening)
      (sends : site.sending? index = some letter) :
      Turn site (.own (.finish index (.ok ())))
        (some (.result opening (.ok ()))) {.opening opening} (some letter)
  | learns (index : Nat) (opening : Opening) (letter : Letter)
      (duty : letter.duty = .opening opening) (carried : site.Carries letter) :
      Turn site (.own (.finish index (.ok ())))
        (some (.result opening (.ok ()))) 0 none
  | fails (index : Nat) (opening : Opening) (letter : Letter)
      (error : DeliveryError) (duty : letter.duty = .opening opening)
      (sends : site.sending? index = some letter) :
      Turn site (.own (.finish index (.error error)))
        (some (.result opening (.error error))) {.opening opening} none
  | hands (index : Nat) (letter : Letter)
      (sends : site.sending? index = some letter) :
      Turn site (.hand index) none {letter.duty} (some letter)
  | tells (index : Nat) (closing : Closing) (letter : Letter)
      (duty : letter.duty = .closing closing)
      (sends : site.sending? index = some letter) :
      Turn site (.own (.finish index (.ok ()))) none {.closing closing}
        (some letter)
  | drops (index : Nat) (closing : Closing) (letter : Letter)
      (error : DeliveryError) (duty : letter.duty = .closing closing)
      (sends : site.sending? index = some letter) :
      Turn site (.own (.finish index (.error error))) none {.closing closing}
        none
  | reports (index : Nat) (now : Instant) (decision : Decision) :
      Turn site (.own (.proceed index now)) none
        {.closing (.report decision)} none
  | rests (act : Act) : Turn site act none 0 none
  | abandons (index : Nat) (gone : Multiset Duty) :
      Turn site (.own (.abandon index)) none gone none

/-- A call that sends is at the duty of its letter. -/
theorem Fit.duty (fit : site.Fit) {duty : Duty} {rest : List Task}
    {letter : Letter} {outcome : Option Outcome}
    (turn : site.session.calls[index]? =
      some ⟨.duty duty :: rest, some letter, outcome⟩) :
    letter.duty = duty := by
  obtain ⟨-, _, agenda⟩ :=
    fit.composed _ (List.mem_of_getElem? turn) letter rfl
  simpa [eq_comm] using (List.cons.inj agenda).1

theorem Fit.not_carried (fit : site.Fit) {call : Call}
    (turn : site.session.calls[index]? = some call)
    (notSending : call.sending = none) : index ∉ site.carried := by
  intro carried
  simpa [sending?, turn, notSending] using fit.carried index carried

theorem dueAt_of_set {old new : Call}
    (turn : site.session.calls[index]? = some old)
    (calls : next.session.calls = site.session.calls.set index new)
    (notCarried : index ∉ next.carried) :
    next.dueAt index = dutiesOf new.agenda := by
  have inRange := (List.getElem?_eq_some_iff.1 turn).1
  refine dueAt_of_not_carried ?_ notCarried
  rw [calls, List.getElem?_set_self inRange]

/-- An act at one call has the effect that it has at that call. -/
theorem effect_of_set (fit : site.Fit) {old new : Call}
    {cause : Option Trigger} {gone : Multiset Duty} {taken : Option Letter}
    (turn : site.session.calls[index]? = some old)
    (calls : next.session.calls = site.session.calls.set index new)
    (others : ∀ other ≠ index, (other ∈ next.carried ↔ other ∈ site.carried))
    (here : index ∈ next.carried → ∃ letter, new.sending = some letter ∧
      (site.Carries letter ∨ taken = some letter))
    (composed : next.session.Composed) (setup : next.setup = site.setup)
    (tally : next.tally = (site.react cause).1.tally)
    (dues : next.dueAt index + gone =
      site.dueAt index + ((site.react cause).2 : Multiset Duty)) :
    Effect site next cause gone taken := by
  have inRange := (List.getElem?_eq_some_iff.1 turn).1
  have nextTurn : next.session.calls[index]? = some new := by
    rw [calls, List.getElem?_set_self inRange]
  have sameCall (other : Nat) (differs : other ≠ index) :
      next.session.calls[other]? = site.session.calls[other]? := by
    rw [calls, List.getElem?_set_ne differs.symm]
  refine ⟨⟨composed, ?_⟩, setup, tally, ?_, ?_⟩
  · intro other carried
    by_cases isHere : other = index
    · subst isHere
      obtain ⟨letter, sends, -⟩ := here carried
      simp [sending?, nextTurn, sends]
    · simpa [sending?, sameCall other isHere] using
        fit.carried other ((others other isHere).1 carried)
  · have changed : next.dues + site.dueAt index =
        site.dues + next.dueAt index := by
      apply dues_of_change (by rw [calls, List.length_set]) inRange
      intro other differs
      simp [dueAt, sameCall other differs, others other differs]
    have balanced : next.dues + gone + site.dueAt index =
        site.dues + ((site.react cause).2 : Multiset Duty) +
          site.dueAt index := by
      rw [add_right_comm, changed, add_assoc, dues, add_assoc,
        add_comm (site.dueAt index)]
    exact add_right_cancel balanced
  · rintro letter ⟨other, carried, sends⟩
    by_cases isHere : other = index
    · subst isHere
      obtain ⟨known, sendsKnown, provenance⟩ := here carried
      obtain rfl : known = letter := by
        simpa [sending?, nextTurn, sendsKnown] using sends
      exact provenance
    · refine .inl ⟨other, (others other isHere).1 carried, ?_⟩
      simpa [sending?, sameCall other isHere] using sends

/-- An act after which the transport holds no letter of the call any more. -/
theorem effect_of_turn (fit : site.Fit) {old new : Call}
    {cause : Option Trigger} {gone : Multiset Duty} {taken : Option Letter}
    (turn : site.session.calls[index]? = some old)
    (calls : next.session.calls = site.session.calls.set index new)
    (others : ∀ other ≠ index, (other ∈ next.carried ↔ other ∈ site.carried))
    (notCarried : index ∉ next.carried)
    (composed : next.session.Composed) (setup : next.setup = site.setup)
    (tally : next.tally = (site.react cause).1.tally)
    (dues : dutiesOf new.agenda + gone =
      site.dueAt index + ((site.react cause).2 : Multiset Duty)) :
    Effect site next cause gone taken :=
  effect_of_set fit turn calls others (absurd · notCarried) composed setup tally
    (dueAt_of_set turn calls notCarried ▸ dues)

theorem sending?_of_turn {call : Call}
    (turn : site.session.calls[index]? = some call) :
    site.sending? index = call.sending := by
  simp [sending?, turn]

theorem mem_filter_ne {carried : List Nat} {other : Nat}
    (differs : other ≠ index) :
    other ∈ carried.filter (· ≠ index) ↔ other ∈ carried := by
  simp [differs]

theorem turn_of_finish_ok (fit : site.Fit) {session : Session}
    (step : site.session.Step (.finish index (.ok ())) session) :
    ∃ cause gone,
      Turn site (.own (.finish index (.ok ()))) cause gone
        (if index ∈ site.carried then none else site.sending? index) ∧
      Effect site ⟨session, site.carried.filter (· ≠ index)⟩ cause gone
        (if index ∈ site.carried then none else site.sending? index) := by
  have composed := step.composed fit.composed
  have setup := step.setup
  have isNotHere : index ∉ site.carried.filter (· ≠ index) := by simp
  cases step with
  | hears _ opening rest letter outcome _ turn =>
      have sends := sending?_of_turn turn
      have duty := fit.duty turn
      by_cases carried : index ∈ site.carried
      · rw [if_pos carried]
        refine ⟨_, _, .learns index opening letter duty ⟨index, carried, sends⟩,
          effect_of_turn fit turn rfl (fun _ => mem_filter_ne) isNotHere
            composed setup rfl ?_⟩
        rw [dueAt_of_carried turn carried,
          dutiesOf_append, dutiesOf_tasksOf, add_zero, add_comm]
        rfl
      · rw [if_neg carried, sends]
        refine ⟨_, _, .delivers index opening letter duty sends,
          effect_of_turn fit turn rfl (fun _ => mem_filter_ne) isNotHere
            composed setup rfl ?_⟩
        rw [dueAt_of_not_carried turn carried,
          dutiesOf_append, dutiesOf_tasksOf, dutiesOf_duty, add_comm,
          add_comm (Multiset.ofList _), add_assoc]
        rfl
  | closes _ closing rest letter outcome _ turn =>
      have sends := sending?_of_turn turn
      have duty := fit.duty turn
      by_cases carried : index ∈ site.carried
      · rw [if_pos carried]
        refine ⟨_, _, .rests _,
          effect_of_turn fit turn rfl (fun _ => mem_filter_ne) isNotHere
            composed setup rfl ?_⟩
        rw [dueAt_of_carried turn carried]
        rfl
      · rw [if_neg carried, sends]
        refine ⟨_, _, .tells index closing letter duty sends,
          effect_of_turn fit turn rfl (fun _ => mem_filter_ne) isNotHere
            composed setup rfl ?_⟩
        rw [dueAt_of_not_carried turn carried,
          dutiesOf_duty, add_comm, duties_of_no_cause, add_zero]

theorem turn_of_finish_error (fit : site.Fit) {session : Session}
    {error : DeliveryError} (notCarried : index ∉ site.carried)
    (step : site.session.Step (.finish index (.error error)) session) :
    ∃ cause gone,
      Turn site (.own (.finish index (.error error))) cause gone none ∧
      Effect site ⟨session, site.carried⟩ cause gone none := by
  have composed := step.composed fit.composed
  have setup := step.setup
  cases step with
  | hears _ opening rest letter outcome _ turn =>
      have sends := sending?_of_turn turn
      refine ⟨_, _, .fails index opening letter error (fit.duty turn) sends,
        effect_of_turn fit turn rfl (fun _ _ => Iff.rfl) notCarried composed
          setup rfl ?_⟩
      rw [dueAt_of_not_carried turn notCarried, dutiesOf_append,
        dutiesOf_tasksOf, dutiesOf_duty, add_comm,
        add_comm (Multiset.ofList _), add_assoc]
      rfl
  | closes _ closing rest letter outcome _ turn =>
      have sends := sending?_of_turn turn
      refine ⟨_, _, .drops index closing letter error (fit.duty turn) sends,
        effect_of_turn fit turn rfl (fun _ _ => Iff.rfl) notCarried composed
          setup rfl ?_⟩
      rw [dueAt_of_not_carried turn notCarried, dutiesOf_duty, add_comm,
        duties_of_no_cause, add_zero]

theorem turn_of_proceed (fit : site.Fit) {session : Session} {now : Instant}
    (step : site.session.Step (.proceed index now) session) :
    ∃ cause gone,
      Turn site (.own (.proceed index now)) cause gone none ∧
      Effect site { site with session } cause gone none := by
  have composed := step.composed fit.composed
  have setup := step.setup
  cases step with
  | reports _ _ decision rest outcome turn =>
      have notCarried := fit.not_carried turn rfl
      refine ⟨_, _, .reports index now decision,
        effect_of_turn fit turn rfl (fun _ _ => Iff.rfl) notCarried composed
          setup rfl ?_⟩
      rw [dueAt_of_not_carried turn notCarried, dutiesOf_duty, add_comm,
        duties_of_no_cause, add_zero]
  | watches _ _ rest outcome turn =>
      have notCarried := fit.not_carried turn rfl
      refine ⟨_, _, .rests _,
        effect_of_turn fit turn rfl (fun _ _ => Iff.rfl) notCarried composed
          setup rfl ?_⟩
      rw [dueAt_of_not_carried turn notCarried]
      rfl
  | waits _ _ seen rest outcome deadline turn found idle =>
      have notCarried := fit.not_carried turn rfl
      refine ⟨_, _, .examines index now,
        effect_of_turn fit turn rfl (fun _ _ => Iff.rfl) notCarried composed
          setup rfl ?_⟩
      rw [dueAt_of_not_carried turn notCarried, react, party, idle]
      rfl
  | learns _ _ seen rest before closings outcome turn found =>
      have notCarried := fit.not_carried turn rfl
      refine ⟨_, _, .examines index now,
        effect_of_turn fit turn rfl (fun _ _ => Iff.rfl) notCarried composed
          setup rfl ?_⟩
      rw [dueAt_of_not_carried turn notCarried, Call.ofTasks, dutiesOf_append,
        dutiesOf_tasksOf, add_zero, add_comm]
      rfl
  | wakes _ _ seen deadline rest outcome turn awake =>
      have notCarried := fit.not_carried turn rfl
      refine ⟨_, _, .rests _,
        effect_of_turn fit turn rfl (fun _ _ => Iff.rfl) notCarried composed
          setup rfl ?_⟩
      rw [dueAt_of_not_carried turn notCarried]
      rfl
  | answers _ _ outcome rest before turn =>
      have notCarried := fit.not_carried turn rfl
      refine ⟨_, _, .rests _,
        effect_of_turn fit turn rfl (fun _ _ => Iff.rfl) notCarried composed
          setup rfl ?_⟩
      rw [dueAt_of_not_carried turn notCarried]
      rfl

theorem effect_of_start (fit : site.Fit) (command : Command) :
    Effect site { site with session := site.session.launch command }
      (some (.command command)) 0 none := by
  have step : site.session.Step (.start command)
      (site.session.launch command) := .launches command
  have composed := step.composed fit.composed
  have setup := step.setup
  rw [Session.launch_eq] at composed setup ⊢
  have isNew : site.session.calls.length ∉ site.carried := by
    intro carried
    simpa [sending?] using fit.carried _ carried
  have old (index : Nat) (inRange : index < site.session.calls.length) :
      (site.session.calls ++ [Call.ofTasks
        (Session.tasksOf (site.session.party.look (.command command)).2 ++
          if command = .await then [.watch] else [])])[index]? =
        site.session.calls[index]? :=
    List.getElem?_append_left inRange
  have carriedInRange (index : Nat) (carried : index ∈ site.carried) :
      index < site.session.calls.length := by
    by_contra outside
    have noCall := List.getElem?_eq_none (Nat.le_of_not_lt outside)
    simpa [sending?, noCall] using fit.carried index carried
  refine ⟨⟨composed, ?_⟩, setup, rfl, ?_, ?_⟩
  · intro index carried
    simpa [sending?, old index (carriedInRange index carried)] using
      fit.carried index carried
  · have dueAtEnd : dutiesOf (Call.ofTasks
        (Session.tasksOf (site.session.party.look (.command command)).2 ++
          if command = .await then [.watch] else [])).agenda =
        ((site.react (some (.command command))).2 : Multiset Duty) := by
      rw [Call.ofTasks, dutiesOf_append, dutiesOf_tasksOf]
      split <;> exact add_zero _
    rw [dues, List.length_append, List.length_singleton,
      Finset.sum_range_succ, add_zero, dues]
    congr 1
    · apply Finset.sum_congr rfl
      intro index indexMem
      simp only [dueAt, old index (Finset.mem_range.1 indexMem)]
    · rw [← dueAtEnd]
      simp [dueAt, isNew]
  · rintro letter ⟨index, carried, sends⟩
    refine .inl ⟨index, carried, ?_⟩
    simpa [sending?, old index (carriedInRange index carried)] using sends

theorem effect_of_begin (fit : site.Fit) {session : Session}
    (step : site.session.Step (.begin index) session) :
    Effect site { site with session } none 0 none := by
  have composed := step.composed fit.composed
  have setup := step.setup
  cases step with
  | begins _ duty rest outcome party letter turn composes =>
      have notCarried := fit.not_carried turn rfl
      refine effect_of_turn fit turn rfl (fun _ _ => Iff.rfl) notCarried
        composed setup (Session.compose_letter composes).2.2.2 ?_
      rw [dueAt_of_not_carried turn notCarried]
      rfl

theorem effect_of_abandon (fit : site.Fit) {session : Session}
    (step : site.session.Step (.abandon index) session) :
    ∃ gone, Effect site ⟨session, site.carried.filter (· ≠ index)⟩ none gone
      none := by
  have composed := step.composed fit.composed
  have setup := step.setup
  cases step with
  | abandons _ call turn =>
      refine ⟨site.dueAt index, effect_of_turn fit turn rfl
        (fun _ => mem_filter_ne) (by simp) composed setup rfl ?_⟩
      rw [dutiesOf_nil, zero_add, duties_of_no_cause, add_zero]

theorem effect_of_hand (fit : site.Fit) {letter : Letter}
    (notCarried : index ∉ site.carried)
    (sends : site.sending? index = some letter) :
    Effect site { site with carried := index :: site.carried } none
      {letter.duty} (some letter) := by
  obtain ⟨call, turn, callSends⟩ := Option.bind_eq_some_iff.1 sends
  obtain ⟨agenda, sending, outcome⟩ := call
  cases callSends
  obtain ⟨-, rest, isAgenda⟩ :=
    fit.composed _ (List.mem_of_getElem? turn) letter rfl
  dsimp only at isAgenda
  subst isAgenda
  obtain ⟨inRange, isThere⟩ := List.getElem?_eq_some_iff.1 turn
  have unchanged : site.session.calls = site.session.calls.set index
      ⟨.duty letter.duty :: rest, some letter, outcome⟩ := by
    rw [← isThere, List.set_getElem_self]
  refine effect_of_set fit turn unchanged ?_ ?_ fit.composed rfl rfl ?_
  · intro other differs
    simp [differs]
  · exact fun _ => ⟨letter, rfl, .inr rfl⟩
  · have after : Site.dueAt { site with carried := index :: site.carried }
        index = dutiesOf rest := by
      simp [dueAt, turn]
    rw [after, dueAt_of_not_carried turn notCarried, dutiesOf_duty, add_comm,
      duties_of_no_cause, add_zero]

/-- Every act that is possible is one of the turns, with its effect. -/
theorem turn_of_act? {act : Act} {taken : Option Letter} (fit : site.Fit)
    (acted : site.act? act = some (next, taken)) :
    ∃ cause gone, Turn site act cause gone taken ∧
      Effect site next cause gone taken := by
  unfold act? at acted
  split at acted
  · rename_i index
    split at acted
    · simp at acted
    · rename_i notCarried
      obtain ⟨letter, sends, same⟩ := Option.map_eq_some_iff.1 acted
      cases same
      exact ⟨none, {letter.duty}, .hands index letter sends,
        effect_of_hand fit notCarried sends⟩
  · obtain ⟨session, finished, same⟩ := Option.map_eq_some_iff.1 acted
    cases same
    exact turn_of_finish_ok fit (Session.step_of_finish? finished)
  · split at acted
    · simp at acted
    · rename_i notCarried
      obtain ⟨session, finished, same⟩ := Option.map_eq_some_iff.1 acted
      cases same
      exact turn_of_finish_error fit notCarried
        (Session.step_of_finish? finished)
  · rename_i index
    obtain ⟨session, abandoned, same⟩ := Option.map_eq_some_iff.1 acted
    cases same
    have step : site.session.Step (.abandon index) session :=
      Session.step_of_move? abandoned
    obtain ⟨gone, effect⟩ := effect_of_abandon fit step
    exact ⟨none, gone, .abandons index gone, effect⟩
  · rename_i move notFinished notFailed notAbandoned
    obtain ⟨session, moved, same⟩ := Option.map_eq_some_iff.1 acted
    cases same
    have step := Session.step_of_move? moved
    cases move with
    | start command =>
        cases moved
        exact ⟨_, _, .launches command, effect_of_start fit command⟩
    | begin index => exact ⟨_, _, .rests _, effect_of_begin fit step⟩
    | finish index result =>
        cases result with
        | ok => exact absurd rfl (notFinished index)
        | error error => exact absurd rfl (notFailed index error)
    | proceed index now => exact turn_of_proceed fit step
    | abandon index => exact absurd rfl (notAbandoned index)

/-- What an act does to the session: nothing, or one of the session's steps. -/
def Stepped (site next : Site) (act : Act) : Prop :=
  next.session = site.session ∨
    ∃ move, act = .own move ∧ site.session.Step move next.session

theorem stepped_of_act? {act : Act} {taken : Option Letter}
    (acted : site.act? act = some (next, taken)) : site.Stepped next act := by
  unfold act? at acted
  split at acted
  · split at acted
    · simp at acted
    · obtain ⟨letter, -, same⟩ := Option.map_eq_some_iff.1 acted
      cases same
      exact .inl rfl
  · obtain ⟨session, finished, same⟩ := Option.map_eq_some_iff.1 acted
    cases same
    exact .inr ⟨_, rfl, Session.step_of_finish? finished⟩
  · split at acted
    · simp at acted
    · obtain ⟨session, finished, same⟩ := Option.map_eq_some_iff.1 acted
      cases same
      exact .inr ⟨_, rfl, Session.step_of_finish? finished⟩
  · obtain ⟨session, abandoned, same⟩ := Option.map_eq_some_iff.1 acted
    cases same
    exact .inr ⟨_, rfl, Session.step_of_move? abandoned⟩
  · obtain ⟨session, moved, same⟩ := Option.map_eq_some_iff.1 acted
    cases same
    exact .inr ⟨_, rfl, Session.step_of_move? moved⟩

theorem Fit.writes (fit : site.Fit) {letter : Letter}
    (sends : site.sending? index = some letter) : site.setup.Writes letter := by
  obtain ⟨call, turn, callSends⟩ := Option.bind_eq_some_iff.1 sends
  exact (fit.composed call (List.mem_of_getElem? turn) letter callSends).1

/-- A letter taken is one that the site was sending, and its duty is gone. -/
theorem Turn.taken {act : Act} {cause : Option Trigger} {gone : Multiset Duty}
    {letter : Letter} (turn : Turn site act cause gone (some letter)) :
    gone = {letter.duty} ∧ ∃ index, site.sending? index = some letter := by
  cases turn with
  | delivers index _ _ duty sends => exact ⟨by rw [duty], index, sends⟩
  | hands index _ sends => exact ⟨rfl, index, sends⟩
  | tells index _ _ duty sends => exact ⟨by rw [duty], index, sends⟩

theorem fit_start (setup : Setup) : (start setup).Fit where
  composed := by simp [start, Session.start, Session.Composed]
  carried := by simp [start]

@[simp]
theorem dues_start (setup : Setup) : (start setup).dues = 0 :=
  rfl

theorem not_carries_start (setup : Setup) (letter : Letter) :
    ¬ (start setup).Carries letter := by
  simp [Carries, start]

theorem agenda_of_isIdle (idle : site.isIdle = true) {call : Call}
    (callMem : call ∈ site.session.calls) : call.agenda = [] := by
  have returned := List.all_eq_true.1 idle call callMem
  simpa [Call.hasReturned] using returned

/-- A site at rest has nothing to do. -/
theorem dues_of_isIdle (idle : site.isIdle = true) : site.dues = 0 := by
  apply Finset.sum_eq_zero
  intro index _
  unfold dueAt
  split
  · rename_i call turn
    simp [agenda_of_isIdle idle (List.mem_of_getElem? turn)]
  · rfl

end Site

end CreationCommit

import CreationCommit.Delivery
import Mathlib.Data.List.Induction

/-!
# Deliveries and their reports

A send reports success exactly if its letter was added at the end of what the
carrier holds, and after an error nothing has changed.  How long a send to a
recorder takes, and what it reports, follows from the latest delay, the latest
refusal that names its letter, and its limit; a channel takes every letter until
it is closed, and no time.
-/

namespace CreationCommit

/-- What is done with a carrier.  Only a recorder is told to refuse letters and to
take a delay; only a channel has other writers, a reader and an end. -/
inductive Use
  | refuse (refusal : Refusal)
  | setDelay (delay : Duration)
  | writeAs (sender : PeerId)
  | take
  | close
  | send (letter : Letter) (limit : Option Duration)
deriving DecidableEq, Repr

/-- A letter and its sender, where the carrier knows it. -/
structure Parcel where
  sender? : Option PeerId
  letter : Letter
deriving DecidableEq, Repr

/-- What a send was for and what it reported. -/
structure Report where
  parcel : Parcel
  result : Except DeliveryError Unit

/-- The parcel of a send that reported success. -/
def Report.delivered? (report : Report) : Option Parcel :=
  match report.result with
  | .ok _ => some report.parcel
  | .error _ => none

namespace Carrier

variable {carrier next : Carrier} {letter : Letter} {limit : Option Duration}

/-- What the carrier accepted and still holds, in order. -/
def holds : Carrier → List Parcel
  | .silent => []
  | .recording recorder => recorder.accepted.map fun letter => ⟨none, letter⟩
  | .queueing _ channel =>
      channel.queue.map fun envelope => ⟨some envelope.sender, envelope.letter⟩

/-- Take the next parcel from the carrier, where it can be read. -/
def take? : Carrier → Option (Parcel × Carrier)
  | .queueing writer channel =>
      channel.take?.map fun (envelope, channel) =>
        (⟨some envelope.sender, envelope.letter⟩, .queueing writer channel)
  | _ => none

/-- The letter was added at the end of what is held, and nothing else changed. -/
inductive Appends (letter : Letter) : Carrier → Carrier → Prop
  | recording (recorder : Recorder) :
      Appends letter (.recording recorder)
        (.recording { recorder with accepted := recorder.accepted ++ [letter] })
  | queueing (sender : PeerId) (channel : Channel) :
      Appends letter (.queueing sender channel)
        (.queueing sender
          { channel with
            queue := channel.queue ++
              [⟨sender, letter.recipient, letter.message⟩] })

/-- Either success is reported and the letter was added, or an error is and
nothing has changed. -/
inductive Delivers (carrier : Carrier) (letter : Letter) :
    Carrier → Except DeliveryError Unit → Prop
  | added (next : Carrier) (appends : Appends letter carrier next) :
      Delivers carrier letter next (.ok ())
  | lost (error : DeliveryError) : Delivers carrier letter carrier (.error error)

theorem holds_of_appends (appends : Appends letter carrier next) :
    next.holds = carrier.holds ++ [⟨carrier.sender?, letter⟩] := by
  cases appends <;> simp [holds, sender?, Envelope.letter]

theorem not_appends_self : ¬ Appends letter carrier carrier := fun appends => by
  simpa using holds_of_appends appends

/-- Whether a letter was added can be read off the report. -/
theorem Delivers.ok_iff {result : Except DeliveryError Unit}
    (delivers : Delivers carrier letter next result) :
    result = .ok () ↔ Appends letter carrier next := by
  cases delivers with
  | added next appends => exact iff_of_true rfl appends
  | lost error => exact iff_of_false (by simp) not_appends_self

theorem Delivers.unchanged {error : DeliveryError}
    (delivers : Delivers carrier letter next (.error error)) : next = carrier := by
  cases delivers
  rfl

/-- What a carrier holds grows by what is reported as delivered. -/
theorem Delivers.holds {result : Except DeliveryError Unit}
    (delivers : Delivers carrier letter next result) :
    next.holds = carrier.holds ++
      (Report.delivered? ⟨⟨carrier.sender?, letter⟩, result⟩).toList := by
  cases delivers with
  | added next appends => exact holds_of_appends appends
  | lost error => exact (List.append_nil _).symm

theorem delivers_hand (audible : carrier ≠ .silent) :
    Delivers carrier letter (carrier.hand letter).1 (carrier.hand letter).2 := by
  cases carrier with
  | silent => exact absurd rfl audible
  | recording recorder =>
      rw [hand, Recorder.hand]
      cases recorder.reason? letter with
      | none => exact .added _ (.recording recorder)
      | some reason => exact .lost _
  | queueing sender channel =>
      rw [hand, Channel.hand]
      by_cases isOpen : channel.isOpen = true
      · rw [if_pos isOpen]
        exact .added _ (.queueing sender channel)
      · rw [if_neg isOpen]
        exact .lost _

/-- However the passage began, at its end the letter is added or lost. -/
theorem delivers_finish (audible : carrier ≠ .silent) (letter : Letter)
    (passage : Passage) :
    Delivers carrier letter (carrier.finish letter passage).1
      (carrier.finish letter passage).2 := by
  rw [finish]
  by_cases inTime : passage.inTime = true
  · rw [if_pos inTime]
    exact delivers_hand audible
  · rw [if_neg inTime]
    exact .lost _

theorem delivers_send (audible : carrier ≠ .silent) (now : Instant)
    (letter : Letter) (limit : Option Duration) :
    Delivers carrier letter (carrier.send now letter limit).1
      (carrier.send now letter limit).2.1 :=
  delivers_finish audible letter (carrier.passage limit)

/-- A delay up to the limit is waited for, and then the letter is handed over. -/
theorem send_of_le {limit : Duration} {now : Instant}
    (inTime : carrier.delay.nanos ≤ limit.nanos) :
    carrier.send now letter (some limit) =
      ((carrier.hand letter).1, (carrier.hand letter).2,
        now.after carrier.delay) := by
  simp only [send, passage, if_pos inTime, finish, if_true]

/-- With a longer delay the letter is lost at the limit. -/
theorem send_of_lt {limit : Duration} {now : Instant}
    (tooLong : limit.nanos < carrier.delay.nanos) :
    carrier.send now letter (some limit) =
      (carrier, .error (.ofTimeout letter.recipient limit), now.after limit) := by
  simp only [send, passage, if_neg (Nat.not_le.2 tooLong), finish]
  rfl

@[simp]
theorem holds_refuse (carrier : Carrier) (refusal : Refusal) :
    (carrier.refuse refusal).holds = carrier.holds := by
  cases carrier <;> rfl

@[simp]
theorem holds_setDelay (carrier : Carrier) (delay : Duration) :
    (carrier.setDelay delay).holds = carrier.holds := by
  cases carrier <;> rfl

@[simp]
theorem holds_writtenBy (carrier : Carrier) (sender : PeerId) :
    (carrier.writtenBy sender).holds = carrier.holds := by
  cases carrier <;> rfl

@[simp]
theorem holds_close (carrier : Carrier) : carrier.close.holds = carrier.holds := by
  cases carrier <;> rfl

/-- Only an open channel is read, and its first envelope is what is taken. -/
theorem eq_of_take? {parcel : Parcel}
    (taken : carrier.take? = some (parcel, next)) :
    ∃ writer envelope queue,
      carrier = .queueing writer ⟨envelope :: queue, true⟩ ∧
        parcel = ⟨some envelope.sender, envelope.letter⟩ ∧
        next = .queueing writer ⟨queue, true⟩ := by
  cases carrier with
  | silent => cases taken
  | recording recorder => cases taken
  | queueing writer channel =>
      obtain ⟨queue, isOpen⟩ := channel
      cases queue with
      | nil => cases taken
      | cons envelope queue =>
          cases isOpen with
          | false => cases taken
          | true =>
              cases taken
              exact ⟨writer, envelope, queue, rfl, rfl, rfl⟩

theorem holds_of_take? {parcel : Parcel}
    (taken : carrier.take? = some (parcel, next)) :
    carrier.holds = parcel :: next.holds := by
  obtain ⟨writer, envelope, queue, rfl, rfl, rfl⟩ := eq_of_take? taken
  rfl

end Carrier

/-- A carrier in use: what was taken from it, and the reports of all sends. -/
structure Outbox where
  carrier : Carrier
  now : Instant
  taken : List Parcel
  reports : List Report

namespace Outbox

def ofCarrier (carrier : Carrier) : Outbox where
  carrier := carrier
  now := 0
  taken := []
  reports := []

def use (outbox : Outbox) : Use → Outbox
  | .refuse refusal =>
      { outbox with carrier := outbox.carrier.refuse refusal }
  | .setDelay delay => { outbox with carrier := outbox.carrier.setDelay delay }
  | .writeAs sender => { outbox with carrier := outbox.carrier.writtenBy sender }
  | .take =>
      match outbox.carrier.take? with
      | some (parcel, carrier) =>
          { outbox with carrier, taken := outbox.taken ++ [parcel] }
      | none => outbox
  | .close => { outbox with carrier := outbox.carrier.close }
  | .send letter limit =>
      let (carrier, result, now) := outbox.carrier.send outbox.now letter limit
      { outbox with
        carrier, now
        reports := outbox.reports ++
          [⟨⟨outbox.carrier.sender?, letter⟩, result⟩] }

def after (outbox : Outbox) (uses : List Use) : Outbox :=
  uses.foldl use outbox

/-- The parcels of all sends that reported success, in order. -/
def delivered (outbox : Outbox) : List Parcel :=
  outbox.reports.filterMap Report.delivered?

theorem after_concat (outbox : Outbox) (uses : List Use) (use : Use) :
    outbox.after (uses ++ [use]) = (outbox.after uses).use use := by
  rw [after, List.foldl_append]
  rfl

/-- What is held, and was taken before, is what was delivered. -/
def IsBalanced (outbox : Outbox) : Prop :=
  outbox.taken ++ outbox.carrier.holds = outbox.delivered

theorem delivered_send (outbox : Outbox) (letter : Letter)
    (limit : Option Duration) :
    (outbox.use (.send letter limit)).delivered = outbox.delivered ++
      (Report.delivered? ⟨⟨outbox.carrier.sender?, letter⟩,
        (outbox.carrier.send outbox.now letter limit).2.1⟩).toList := by
  simp only [use, delivered, List.filterMap_append, List.filterMap_cons,
    List.filterMap_nil]
  split <;> simp [*]

theorem IsBalanced.use {outbox : Outbox} (balanced : outbox.IsBalanced)
    (audible : outbox.carrier ≠ .silent) (use : Use) :
    (outbox.use use).IsBalanced := by
  unfold IsBalanced at balanced ⊢
  cases use with
  | refuse refusal => simpa [Outbox.use, delivered] using balanced
  | setDelay delay => simpa [Outbox.use, delivered] using balanced
  | writeAs sender => simpa [Outbox.use, delivered] using balanced
  | close => simpa [Outbox.use, delivered] using balanced
  | take =>
      rw [Outbox.use]
      split
      · rename_i parcel carrier taken
        rw [Carrier.holds_of_take? taken] at balanced
        simpa [delivered] using balanced
      · exact balanced
  | send letter limit =>
      have held :=
        (Carrier.delivers_send audible outbox.now letter limit).holds
      rw [delivered_send, ← balanced, List.append_assoc, ← held]
      rfl

end Outbox

/-- Where letters go: to a recorder, or to a channel with its first writer. -/
inductive Outlet
  | recorder
  | channel (writer : PeerId)

def Outlet.carrier : Outlet → Carrier
  | recorder => .recording .start
  | channel writer => .queueing writer .start

/-- The carrier after the uses, from the start. -/
def Outlet.after (outlet : Outlet) (uses : List Use) : Outbox :=
  (Outbox.ofCarrier outlet.carrier).after uses

def Use.delay? : Use → Option Duration
  | .setDelay delay => some delay
  | _ => none

/-- The reason that the use gives for refusing the letter. -/
def Use.reasonFor? (letter : Letter) : Use → Option String
  | .refuse refusal =>
      if refusal.kind = letter.message.kind ∧
          refusal.recipient = letter.recipient then
        some refusal.reason
      else
        none
  | _ => none

/-- The delay that was set last; at the start there is none. -/
def lastDelay (uses : List Use) : Duration :=
  (uses.filterMap Use.delay?).getLast?.getD ⟨0⟩

/-- The reason that was given last for refusing the letter. -/
def lastReason? (uses : List Use) (letter : Letter) : Option String :=
  (uses.filterMap (Use.reasonFor? letter)).getLast?

theorem lastDelay_concat (uses : List Use) (use : Use) :
    lastDelay (uses ++ [use]) = use.delay?.getD (lastDelay uses) := by
  rw [lastDelay, lastDelay, List.filterMap_append, List.getLast?_append]
  cases use <;> rfl

theorem lastReason?_concat (uses : List Use) (use : Use) (letter : Letter) :
    lastReason? (uses ++ [use]) letter =
      (use.reasonFor? letter).or (lastReason? uses letter) := by
  rw [lastReason?, lastReason?, List.filterMap_append, List.getLast?_append]
  cases reason : use.reasonFor? letter <;> simp [reason]

theorem Recorder.reason?_refuse (recorder : Recorder) (refusal : Refusal)
    (letter : Letter) :
    (recorder.refuse refusal).reason? letter =
      ((Use.refuse refusal).reasonFor? letter).or (recorder.reason? letter) := by
  rw [reason?, refuse, List.find?_cons, Use.reasonFor?]
  by_cases named : refusal.kind = letter.message.kind ∧
      refusal.recipient = letter.recipient
  · simp [named]
  · simp only [named, decide_false, if_false, Option.none_or]
    rfl

/-- The carrier is as the latest uses left it. -/
inductive Outlet.Shows (uses : List Use) : Outlet → Carrier → Prop
  | recorder (recorder : Recorder) (delay : recorder.delay = lastDelay uses)
      (reasons : ∀ letter,
        recorder.reason? letter = lastReason? uses letter) :
      Shows uses .recorder (.recording recorder)
  | channel (first writer : PeerId) (channel : Channel)
      (isOpen : channel.isOpen = true ↔ .close ∉ uses) :
      Shows uses (.channel first) (.queueing writer channel)

/-- What a bounded send reports, and when it ends.  A recorder is in time up to
the limit and only then looks whether the letter is refused. -/
inductive Outlet.Reports (uses : List Use) (letter : Letter) (limit : Duration)
    (now : Instant) : Outlet → Except DeliveryError Unit → Instant → Prop
  | accepted (inTime : (lastDelay uses).nanos ≤ limit.nanos)
      (noReason : lastReason? uses letter = none) :
      Reports uses letter limit now .recorder (.ok ())
        (now.after (lastDelay uses))
  | refused (inTime : (lastDelay uses).nanos ≤ limit.nanos) (reason : String)
      (isReason : lastReason? uses letter = some reason) :
      Reports uses letter limit now .recorder
        (.error (.rejected letter.recipient reason)) (now.after (lastDelay uses))
  | late (tooLong : limit.nanos < (lastDelay uses).nanos) (millis : UInt64)
      (isLimit : millis.toNat = min (limit.nanos / 1000000) (UInt64.size - 1)) :
      Reports uses letter limit now .recorder
        (.error (.timedOut letter.recipient millis)) (now.after limit)
  | queued (first : PeerId) (isOpen : .close ∉ uses) :
      Reports uses letter limit now (.channel first) (.ok ()) now
  | closed (first : PeerId) (isClosed : .close ∈ uses) :
      Reports uses letter limit now (.channel first)
        (.error (.channelClosed letter.recipient)) now

namespace Outlet

variable {outlet : Outlet} {uses : List Use} {carrier : Carrier}

theorem Shows.audible (shows : Shows uses outlet carrier) :
    carrier ≠ .silent := by
  cases shows <;> simp

theorem Shows.carrier_eq (shows : Shows uses outlet carrier) :
    (∃ recorder, outlet = .recorder ∧ carrier = .recording recorder) ∨
      ∃ first writer channel, outlet = .channel first ∧
        carrier = .queueing writer channel := by
  cases shows with
  | recorder recorder => exact .inl ⟨recorder, rfl, rfl⟩
  | channel first writer channel =>
      exact .inr ⟨first, writer, channel, rfl, rfl⟩

theorem Shows.reports (shows : Shows uses outlet carrier) (now : Instant)
    (letter : Letter) (limit : Duration) :
    Reports uses letter limit now outlet
      (carrier.send now letter (some limit)).2.1
      (carrier.send now letter (some limit)).2.2 := by
  cases shows with
  | recorder recorder delay reasons =>
      rcases Nat.lt_or_ge limit.nanos (Carrier.recording recorder).delay.nanos with
        tooLong | inTime
      · rw [Carrier.send_of_lt tooLong]
        exact .late (delay ▸ tooLong) _ limit.toNat_cappedMillis
      · rw [Carrier.send_of_le inTime, Carrier.delay, Carrier.hand, Recorder.hand,
          reasons letter, delay]
        rw [Carrier.delay, delay] at inTime
        cases isReason : lastReason? uses letter with
        | none => exact .accepted inTime isReason
        | some reason => exact .refused inTime reason isReason
  | channel first writer channel isOpen =>
      rw [Carrier.send_of_le (Nat.zero_le _), Carrier.hand, Channel.hand]
      by_cases isClosed : .close ∈ uses
      · rw [if_neg (by simp [isOpen, isClosed])]
        exact .closed first isClosed
      · rw [if_pos (isOpen.2 isClosed)]
        exact .queued first isClosed

theorem Shows.recorder_concat {recorder next : Recorder} {use : Use}
    (shows : Shows uses .recorder (.recording recorder))
    (delay : next.delay = use.delay?.getD recorder.delay)
    (reasons : ∀ letter, next.reason? letter =
      (use.reasonFor? letter).or (recorder.reason? letter)) :
    Shows (uses ++ [use]) .recorder (.recording next) := by
  cases shows with
  | recorder _ wasDelay wereReasons =>
      refine .recorder next ?_ fun letter => ?_
      · rw [delay, wasDelay, lastDelay_concat]
      · rw [reasons, wereReasons, lastReason?_concat]

theorem Shows.channel_concat {first writer other : PeerId} {channel next : Channel}
    {use : Use} (shows : Shows uses (.channel first) (.queueing writer channel))
    (isOpen : next.isOpen = true ↔ channel.isOpen = true ∧ use ≠ .close) :
    Shows (uses ++ [use]) (.channel first) (.queueing other next) := by
  cases shows with
  | channel _ _ _ wasOpen =>
      refine .channel first other next ?_
      rw [isOpen, wasOpen, List.mem_append, List.mem_singleton, not_or, ne_comm]

theorem Shows.send {letter : Letter} {next : Carrier}
    {result : Except DeliveryError Unit} (shows : Shows uses outlet carrier)
    (delivers : Carrier.Delivers carrier letter next result)
    (limit : Option Duration) :
    Shows (uses ++ [.send letter limit]) outlet next := by
  obtain ⟨recorder, rfl, rfl⟩ | ⟨first, writer, channel, rfl, rfl⟩ :=
    shows.carrier_eq
  case inl =>
    cases delivers with
    | added next appends =>
        cases appends
        exact shows.recorder_concat rfl fun _ => rfl
    | lost error => exact shows.recorder_concat rfl fun _ => rfl
  case inr =>
    cases delivers with
    | added next appends =>
        cases appends
        exact shows.channel_concat (by simp)
    | lost error => exact shows.channel_concat (by simp)

theorem Shows.take {next : Carrier} {parcel : Parcel}
    (shows : Shows uses outlet carrier)
    (taken : carrier.take? = some (parcel, next)) :
    Shows (uses ++ [.take]) outlet next := by
  obtain ⟨writer, envelope, queue, rfl, rfl, rfl⟩ := Carrier.eq_of_take? taken
  cases outlet with
  | recorder => cases shows
  | channel first => exact shows.channel_concat (by simp)

/-- Only a refusal, a delay and the end of a channel change how a carrier takes
letters. -/
theorem Shows.use {outbox : Outbox} (shows : Shows uses outlet outbox.carrier)
    (use : Use) : Shows (uses ++ [use]) outlet (outbox.use use).carrier := by
  obtain ⟨carrier, now, taken, reports⟩ := outbox
  change Shows uses outlet carrier at shows
  have sent (letter : Letter) (limit : Option Duration) :=
    shows.send (Carrier.delivers_send shows.audible now letter limit) limit
  obtain ⟨recorder, rfl, rfl⟩ | ⟨first, writer, channel, rfl, rfl⟩ :=
    shows.carrier_eq
  case inl =>
    cases use with
    | refuse refusal =>
        exact shows.recorder_concat rfl (recorder.reason?_refuse refusal)
    | send letter limit => exact sent letter limit
    | setDelay | writeAs | take | close =>
        exact shows.recorder_concat rfl fun _ => rfl
  case inr =>
    cases use with
    | take =>
        rw [Outbox.use]
        cases next : (Carrier.queueing writer channel).take? with
        | none => exact shows.channel_concat (by simp)
        | some _ => exact shows.take next
    | close => exact shows.channel_concat (by simp [Channel.close])
    | send letter limit => exact sent letter limit
    | refuse | setDelay | writeAs => exact shows.channel_concat (by simp)

theorem shows_after (outlet : Outlet) (uses : List Use) :
    Shows uses outlet (outlet.after uses).carrier := by
  -- the uses are taken off at the end, since it is the latest ones that count
  induction uses using List.reverseRecOn with
  | nil =>
      cases outlet with
      | recorder => exact .recorder _ rfl fun _ => rfl
      | channel writer => exact .channel _ _ _ (by simp [Channel.start])
  | append_singleton uses use ih =>
      rw [after, Outbox.after_concat]
      exact ih.use use

theorem isBalanced_after (outlet : Outlet) (uses : List Use) :
    (outlet.after uses).IsBalanced := by
  induction uses using List.reverseRecOn with
  | nil => cases outlet <;> rfl
  | append_singleton uses use ih =>
      rw [after, Outbox.after_concat]
      exact ih.use (shows_after outlet uses).audible use

end Outlet

/-- After any uses, a bounded send reports success exactly if its letter was added
at the end of what the carrier holds, and after an error nothing has changed; what
it reports and when it ends follows from the uses and the limit.  What is held,
and was taken before, are at any time the parcels of the sends that reported
success, in order. -/
theorem send_reports_delivery (outlet : Outlet) (uses : List Use)
    (letter : Letter) (limit : Duration) :
    (∃ next result now,
      (outlet.after uses).carrier.send (outlet.after uses).now letter
        (some limit) = (next, result, now) ∧
      (result = .ok () ↔
        Carrier.Appends letter (outlet.after uses).carrier next) ∧
      (∀ error, result = .error error → next = (outlet.after uses).carrier) ∧
      outlet.Reports uses letter limit (outlet.after uses).now result now) ∧
    (outlet.after uses).IsBalanced := by
  have shows := outlet.shows_after uses
  have delivers := Carrier.delivers_send shows.audible (outlet.after uses).now
    letter (some limit)
  have reports := shows.reports (outlet.after uses).now letter limit
  refine ⟨?_, outlet.isBalanced_after uses⟩
  obtain ⟨⟨next, result, now⟩, sent⟩ : ∃ outcome,
      (outlet.after uses).carrier.send (outlet.after uses).now letter
        (some limit) = outcome := ⟨_, rfl⟩
  rw [sent] at delivers reports
  refine ⟨next, result, now, sent, delivers.ok_iff, fun error failed => ?_, reports⟩
  subst failed
  exact delivers.unchanged

/-- A vote that is refused after five nanoseconds, which are just within its limit,
is not among what was accepted. -/
theorem send_refused_at_limit :
    ∃ next, Carrier.send
        (Outlet.recorder.after [.refuse ⟨.vote, ⟨"home"⟩, "full"⟩,
          .setDelay ⟨5⟩]).carrier 0
        ⟨⟨"home"⟩, .vote ⟨⟨"near"⟩, ⟨"doc"⟩, 1, none⟩⟩ (some ⟨5⟩) =
      (next, .error (.rejected ⟨"home"⟩ "full"), 5) ∧ next.holds = [] := by
  obtain ⟨⟨next, result, now, sent, -, unchanged, reports⟩, -⟩ :=
    send_reports_delivery .recorder
      [.refuse ⟨.vote, ⟨"home"⟩, "full"⟩, .setDelay ⟨5⟩]
      ⟨⟨"home"⟩, .vote ⟨⟨"near"⟩, ⟨"doc"⟩, 1, none⟩⟩ ⟨5⟩
  cases reports with
  | accepted _ noReason => cases noReason
  | late tooLong => exact absurd tooLong (by decide)
  | refused _ reason isReason =>
      cases isReason
      exact ⟨next, sent, by rw [unchanged _ rfl]; rfl⟩

end CreationCommit

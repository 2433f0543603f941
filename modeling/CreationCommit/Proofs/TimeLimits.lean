import CreationCommit.Proofs.Deadlines

/-!
# The time limit of a primary

The time limit of a primary is given as a duration and kept as whole
milliseconds of sixty-four bits.  So a fraction of a millisecond is not waited
for, nor is what no longer fits, and this is all that a wait may fall short of:
nobody gives up before the whole milliseconds have passed since the first
check.
-/

namespace CreationCommit

namespace Duration

/-- The whole milliseconds of a duration, as many as fit sixty-four bits. -/
def inWholeMillis (duration : Duration) : Duration :=
  .ofMillis (min duration.wholeMillis (UInt64.size - 1))

variable {duration : Duration}

/-- Less than a millisecond is lost of a duration that fits. -/
theorem nanos_lt_inWholeMillis (fits : duration.wholeMillis < UInt64.size) :
    duration.nanos < duration.inWholeMillis.nanos + 1000000 := by
  have rest := Nat.div_add_mod duration.nanos 1000000
  have below := Nat.mod_lt duration.nanos (show 0 < 1000000 by decide)
  have notCapped : min duration.wholeMillis (UInt64.size - 1) =
      duration.nanos / 1000000 := by
    rw [Nat.min_eq_left (by omega), wholeMillis]
  simp only [inWholeMillis, ofMillis, notCapped]
  omega

/-- Nothing is lost of whole milliseconds that fit. -/
theorem inWholeMillis_ofMillis {millis : Nat} (fits : millis < UInt64.size) :
    (ofMillis millis).inWholeMillis = ofMillis millis := by
  rw [inWholeMillis, wholeMillis_ofMillis, Nat.min_eq_left (by omega)]

end Duration

theorem TransactionSettings.timeout_waitingFor (settings : TransactionSettings)
    (limit : Duration) :
    (settings.waitingFor limit).timeout = limit.inWholeMillis := by
  rw [timeout, waitingFor, Duration.toNat_cappedMillis, Duration.inWholeMillis]

/-- The setup with a time limit for the wait. -/
def Setup.waitingFor (setup : Setup) (limit : Duration) : Setup :=
  { setup with settings := setup.settings.waitingFor limit }

namespace Session

variable {setup : Setup} {limit : Duration} {moves : List Move}
  {last : Session} {look : Look} {report : AbortReport}

/-- Whoever gives up because of the time limit does so when its whole
milliseconds have passed since the first check, whatever calls overlap on the
primary and whatever their clocks show.  If the limit fits, that is less than a
millisecond too early, and if it also is a whole number of milliseconds, it is
not too early at all. -/
theorem gives_up_after_whole_millis (role : setup.role = .primary)
    (ran : (start (setup.waitingFor limit)).run? moves = some last)
    (isKnown : look ∈ (start (setup.waitingFor limit)).history moves)
    (undecided : ¬ look.party.tally.isDecided)
    (reported : look.tally.abortReport = some report)
    (isTimeout : report.isTimeout = true) :
    ∃ first now,
      firstCheck? ((start (setup.waitingFor limit)).history moves) =
          some first ∧
        look.trigger = .clock now ∧
        Instant.after first limit.inWholeMillis ≤ now ∧
        (limit.wholeMillis < UInt64.size →
          Instant.after first limit < Instant.after now (.ofMillis 1)) ∧
        ((∃ millis < UInt64.size, limit = .ofMillis millis) →
          Instant.after first limit ≤ now) := by
  have isPrimary : (setup.waitingFor limit).role = .primary := role
  obtain ⟨now, deadline, checks, fixed, due, -, -⟩ :=
    (punctual_of_look isPrimary ran isKnown).timesOut report undecided reported
      isTimeout
  rw [deadline_of_run isPrimary ran] at fixed
  obtain ⟨first, isFirst, rfl⟩ := Option.map_eq_some_iff.1 fixed
  have isLimit : (setup.waitingFor limit).settings.timeout =
      limit.inWholeMillis := TransactionSettings.timeout_waitingFor _ _
  rw [isLimit] at due
  refine ⟨first, now, isFirst, checks, due, fun fits => ?_, ?_⟩
  · have short := Duration.nanos_lt_inWholeMillis fits
    calc first + limit.nanos
      _ < first + (limit.inWholeMillis.nanos + 1000000) :=
        Nat.add_lt_add_left short first
      _ = first + limit.inWholeMillis.nanos + 1000000 :=
        (Nat.add_assoc _ _ _).symm
      _ ≤ now + 1000000 := Nat.add_le_add_right due 1000000
  · rintro ⟨millis, fits, rfl⟩
    rwa [Duration.inWholeMillis_ofMillis fits] at due

/-- A waiter looks at once and again when its time has come, while the request
was delivered and the vote is outstanding. -/
def waitingMoves (deadline : Instant) : List Move :=
  [.start (.handle .activated (.connected [⟨"home"⟩, ⟨"near"⟩])),
    .begin 0,
    .finish 0 (.ok ()),
    .start .await,
    .proceed 1 0,
    .proceed 1 0,
    .proceed 1 deadline,
    .proceed 1 deadline,
    .proceed 1 deadline]

/-- Somebody who first looked when the clock started may give up at the given
instant, with a vote outstanding. -/
def GivesUpAt (setup : Setup) (now : Instant) : Prop :=
  ∃ moves session look report,
    (start setup).run? moves = some session ∧
      look ∈ (start setup).history moves ∧
      firstCheck? ((start setup).history moves) = some 0 ∧
      look.trigger = .clock now ∧ look.party.tally.outstanding ≠ ∅ ∧
      ¬ look.party.tally.isDecided ∧
      look.tally.abortReport = some report ∧ report.isTimeout = true

/-- A fraction of a millisecond is not waited for, nor is the millisecond that
sixty-four bits cannot count. -/
theorem gives_up_before_time_limit :
    (GivesUpAt ((Setup.primary ⟨"doc"⟩ ⟨"home"⟩).waitingFor ⟨10500000⟩)
        10000000 ∧
      10000000 < Instant.after 0 ⟨10500000⟩) ∧
    (GivesUpAt ((Setup.primary ⟨"doc"⟩ ⟨"home"⟩).waitingFor
        (.ofMillis 18446744073709551616)) 18446744073709551615000000 ∧
      18446744073709551615000000 <
        Instant.after 0 (.ofMillis 18446744073709551616)) := by
  refine ⟨⟨⟨waitingMoves 10000000, _, _, _, rfl,
      List.mem_of_getElem? (i := 4) rfl, rfl, rfl, ?_, ?_, rfl, rfl⟩, by decide⟩,
    ⟨waitingMoves 18446744073709551615000000, _, _, _, rfl,
      List.mem_of_getElem? (i := 4) rfl, rfl, rfl, ?_, ?_, rfl, rfl⟩, by decide⟩
  all_goals decide

/-- A limit of ten milliseconds and a half: the waiter gives up after ten. -/
theorem gives_up_half_a_milli_early :
    ∃ session look report,
      (start ((Setup.primary ⟨"doc"⟩ ⟨"home"⟩).waitingFor ⟨10500000⟩)).run?
          (waitingMoves 10000000) = some session ∧
        look ∈ (start ((Setup.primary ⟨"doc"⟩ ⟨"home"⟩).waitingFor
          ⟨10500000⟩)).history (waitingMoves 10000000) ∧
        ¬ look.party.tally.isDecided ∧
        look.tally.abortReport = some report ∧ report.isTimeout = true ∧
        ∃ first now, look.trigger = .clock now ∧
          Instant.after first ⟨10000000⟩ ≤ now ∧
          Instant.after first ⟨10500000⟩ < Instant.after now (.ofMillis 1) := by
  obtain ⟨session, ran⟩ : ∃ session,
      (start ((Setup.primary ⟨"doc"⟩ ⟨"home"⟩).waitingFor ⟨10500000⟩)).run?
        (waitingMoves 10000000) = some session := ⟨_, rfl⟩
  obtain ⟨look, report, isKnown, undecided, reported, isTimeout⟩ :
      ∃ look report, look ∈ (start ((Setup.primary ⟨"doc"⟩ ⟨"home"⟩).waitingFor
          ⟨10500000⟩)).history (waitingMoves 10000000) ∧
        ¬ look.party.tally.isDecided ∧
        look.tally.abortReport = some report ∧ report.isTimeout = true :=
    ⟨_, _, List.mem_of_getElem? (i := 4) rfl, by decide, rfl, rfl⟩
  obtain ⟨first, now, -, checks, due, short, -⟩ := gives_up_after_whole_millis
    rfl ran isKnown undecided reported isTimeout
  exact ⟨session, look, report, ran, isKnown, undecided, reported, isTimeout,
    first, now, checks, due, short (by decide)⟩

end Session

end CreationCommit

import CreationCommit.Proofs.SessionSteps
import Mathlib.Data.List.Basic
import Mathlib.Data.List.Induction

/-!
# The history of a session

A move has the party look at its tally once or not at all.  The history of a
run lists these looks in their order, each with the party as the look found it,
so that what a tally has become can be told from what its party was told.
-/

namespace CreationCommit

/-- A look at a tally: the party as it was then, and the reason for the look. -/
structure Look where
  party : Party
  trigger : Trigger

namespace Look

/-- The phase in which the look was made. -/
def phase (look : Look) : Phase :=
  look.party.tally.phase

/-- The tally that the look left. -/
def tally (look : Look) : Tally :=
  (look.party.look look.trigger).1.tally

/-- What the look left to do. -/
def duties (look : Look) : List Duty :=
  (look.party.look look.trigger).2

end Look

namespace Session

/-- The reason for which a move has the party look at its tally. -/
def trigger? (session : Session) : Move → Option Trigger
  | .start command => some (.command command)
  | .finish index result =>
      match session.calls[index]? with
      | some ⟨.duty (.opening opening) :: _, some _, _⟩ =>
          some (.result opening result)
      | _ => none
  | .proceed index now =>
      match session.calls[index]? with
      | some ⟨.examine _ :: _, none, _⟩ => some (.clock now)
      | _ => none
  | _ => none

/-- The look that a move has the party take. -/
def look? (session : Session) (move : Move) : Option Look :=
  (session.trigger? move).map (⟨session.party, ·⟩)

/-- The looks of a run, in their order. -/
def history (session : Session) : List Move → List Look
  | [] => []
  | move :: rest =>
      (session.look? move).toList ++
        match session.move? move with
        | some next => next.history rest
        | none => []

variable {origin session next last : Session} {move : Move}
  {moves : List Move}

theorem run?_concat :
    origin.run? (moves ++ [move]) =
      (origin.run? moves).bind fun session => session.move? move := by
  simp [run?, List.foldlM_append]

theorem run?_cons :
    origin.run? (move :: moves) =
      (origin.move? move).bind fun next => next.run? moves := by
  simp [run?]

theorem run?_append {earlier later : List Move} :
    origin.run? (earlier ++ later) =
      (origin.run? earlier).bind fun session => session.run? later := by
  simp [run?, List.foldlM_append]

/-- What holds at first, and after every move of a run if it held before, holds
after the whole run. -/
theorem run_induction_on_moves {motive : List Move → Session → Prop}
    (start : motive [] origin)
    (moves_on : ∀ earlier session move next,
      origin.run? earlier = some session → motive earlier session →
      session.move? move = some next → motive (earlier ++ [move]) next)
    (ran : origin.run? moves = some last) : motive moves last := by
  induction moves using List.reverseRecOn generalizing last with
  | nil =>
      obtain rfl : origin = last := by simpa [run?] using ran
      exact start
  | append_singleton earlier move ih =>
      rw [run?_concat] at ran
      obtain ⟨session, ranEarlier, moved⟩ := Option.bind_eq_some_iff.1 ran
      exact moves_on earlier session move last ranEarlier (ih ranEarlier) moved

/-- The same with the move taken as a step. -/
theorem run_induction {motive : List Move → Session → Prop}
    (start : motive [] origin)
    (step : ∀ earlier session move next, origin.run? earlier = some session →
      motive earlier session → Step session move next →
      motive (earlier ++ [move]) next)
    (ran : origin.run? moves = some last) : motive moves last :=
  run_induction_on_moves start
    (fun earlier session move next ranEarlier before moved =>
      step earlier session move next ranEarlier before (step_of_move? moved))
    ran

theorem history_concat (ran : origin.run? moves = some session)
    (move : Move) :
    origin.history (moves ++ [move]) =
      origin.history moves ++ (session.look? move).toList := by
  induction moves generalizing origin with
  | nil =>
      obtain rfl : origin = session := by simpa [run?] using ran
      simp only [history, List.nil_append]
      split <;> simp
  | cons first rest ih =>
      obtain ⟨next, moved, onward⟩ := Option.bind_eq_some_iff.1 ran
      simp [history, moved, ih onward]

namespace Step

/-- A step takes one look, or leaves the tally as it was. -/
theorem look_cases (step : Step session move next) :
    (session.look? move = none ∧ next.party.tally = session.party.tally) ∨
      ∃ look, session.look? move = some look ∧ look.party = session.party ∧
        next.party.tally = look.tally := by
  cases step with
  | launches command =>
      refine .inr ⟨⟨session.party, .command command⟩, rfl, rfl, ?_⟩
      rw [launch_eq]
      rfl
  | begins index duty rest outcome party letter turn composed =>
      exact .inl ⟨rfl, (compose_letter composed).2.2.2⟩
  | hears index opening rest letter outcome result turn =>
      refine .inr ⟨⟨session.party, .result opening result⟩, ?_, rfl, rfl⟩
      simp [look?, trigger?, turn]
  | waits index now seen rest outcome deadline turn =>
      refine .inr ⟨⟨session.party, .clock now⟩, ?_, rfl, rfl⟩
      simp [look?, trigger?, turn]
  | learns index now seen rest before closings outcome turn =>
      refine .inr ⟨⟨session.party, .clock now⟩, ?_, rfl, rfl⟩
      simp [look?, trigger?, turn]
  | closes _ _ _ _ _ _ turn | reports _ _ _ _ _ turn | watches _ _ _ _ turn
  | wakes _ _ _ _ _ _ turn | answers _ _ _ _ _ turn =>
      refine .inl ⟨?_, rfl⟩
      simp [look?, trigger?, turn]
  | abandons => exact .inl ⟨rfl, rfl⟩

end Step

/-- A step leaves the record of a decided creation alone. -/
theorem Step.sameRecord (step : Step session move next)
    (decided : session.party.tally.isDecided) :
    session.party.tally.SameRecord next.party.tally := by
  rcases step.look_cases with ⟨-, same⟩ | ⟨look, -, atParty, left⟩
  · exact same ▸ .refl _
  · rw [left]
    rw [← atParty] at decided ⊢
    exact (Party.advancesOn_look look.party look.trigger).sameRecord decided

theorem sameRecord_of_run (ran : origin.run? moves = some last)
    (decided : origin.party.tally.isDecided) :
    origin.party.tally.SameRecord last.party.tally := by
  refine run_induction (motive := fun _ session =>
    origin.party.tally.SameRecord session.party.tally) (.refl _) ?_ ran
  intro earlier session move next _ same step
  have stillDecided : session.party.tally.isDecided := by
    simpa [Tally.isDecided, same.phase] using decided
  exact same.trans (step.sameRecord stillDecided)

theorem setup_of_run (ran : origin.run? moves = some last) :
    last.party.setup = origin.party.setup :=
  run_induction (motive := fun _ session =>
      session.party.setup = origin.party.setup) rfl
    (fun _ _ _ _ _ same step => step.setup.trans same) ran

theorem composed_of_run {setup : Setup}
    (ran : (start setup).run? moves = some last) : last.Composed :=
  run_induction (motive := fun _ session => session.Composed)
    (by simp [start, Composed])
    (fun _ _ _ _ _ composed step => step.composed composed) ran

/-- Every look of a run was taken with one of its moves, at the session that the
moves before it reached and after the looks that they took. -/
theorem taken_of_history (ran : origin.run? moves = some last)
    {known rest : List Look} {look : Look}
    (split : origin.history moves = known ++ look :: rest) :
    ∃ earlier move later session, moves = earlier ++ move :: later ∧
      origin.run? earlier = some session ∧ origin.history earlier = known ∧
      session.look? move = some look := by
  revert known rest look
  refine run_induction_on_moves (motive := fun moves _ =>
    ∀ {known rest look}, origin.history moves = known ++ look :: rest →
      ∃ earlier move later session, moves = earlier ++ move :: later ∧
        origin.run? earlier = some session ∧ origin.history earlier = known ∧
        session.look? move = some look) (by simp [history]) ?_ ran
  intro before session move next ranBefore taken _ known rest look split
  have append (earlier : ∃ rest, origin.history before = known ++ look :: rest) :
      ∃ earlier turn later session, before ++ [move] = earlier ++ turn :: later ∧
        origin.run? earlier = some session ∧ origin.history earlier = known ∧
        session.look? turn = some look := by
    obtain ⟨rest, split⟩ := earlier
    obtain ⟨earlier, turn, later, session, rfl, found⟩ := taken split
    exact ⟨earlier, turn, later ++ [move], session, by simp, found⟩
  rw [history_concat ranBefore] at split
  cases isLook : session.look? move with
  | none => exact append ⟨rest, by simpa [isLook] using split⟩
  | some new =>
      rw [isLook, Option.toList_some] at split
      rcases List.eq_nil_or_concat' rest with rfl | ⟨others, newest, rfl⟩
      · obtain ⟨rfl, same⟩ := List.append_inj' split rfl
        obtain rfl := List.singleton_inj.1 same
        exact ⟨before, move, [], session, rfl, ranBefore, rfl, isLook⟩
      · rw [← List.cons_append, ← List.append_assoc] at split
        exact append ⟨others, (List.append_inj' split rfl).1⟩

/-- What holds of a tally that has just been started, and is kept by every look
of a party of the setup, holds after any run of what the history tells. -/
theorem history_induction {setup : Setup}
    {motive : List Look → Tally → Prop} (begins : motive [] (.start setup.objectId))
    (looks : ∀ known look, look.party.setup = setup →
      motive known look.party.tally → motive (known ++ [look]) look.tally)
    (ran : (start setup).run? moves = some last) :
    motive ((start setup).history moves) last.party.tally := by
  refine run_induction (motive := fun moves session =>
      motive ((start setup).history moves) session.party.tally)
    (show motive ((start setup).history []) (start setup).party.tally from
      begins) ?_ ran
  intro earlier session move next ranEarlier before step
  rw [history_concat ranEarlier]
  rcases step.look_cases with ⟨noLook, same⟩ | ⟨look, isLook, atParty, left⟩
  · simpa [noLook, same] using before
  · rw [isLook, left]
    exact looks _ look (atParty ▸ setup_of_run ranEarlier) (atParty ▸ before)

theorem tally_of_run {setup : Setup} {motive : Tally → Prop}
    (begins : motive (.start setup.objectId))
    (looks : ∀ look : Look, look.party.setup = setup →
      motive look.party.tally → motive look.tally)
    (ran : (start setup).run? moves = some last) : motive last.party.tally :=
  history_induction (motive := fun _ => motive) begins (fun _ => looks) ran

/-- What every look keeps is kept from any session on. -/
theorem kept_of_run {motive : Tally → Prop} (held : motive origin.party.tally)
    (looks : ∀ look : Look, motive look.party.tally → motive look.tally)
    (ran : origin.run? moves = some last) : motive last.party.tally := by
  refine run_induction (motive := fun _ session =>
    motive session.party.tally) held ?_ ran
  intro earlier session move next _ before step
  rcases step.look_cases with ⟨-, same⟩ | ⟨look, -, atParty, left⟩
  · exact same ▸ before
  · exact left ▸ looks look (atParty ▸ before)

theorem sound_of_run {setup : Setup}
    (ran : (start setup).run? moves = some last) : last.party.tally.Sound :=
  tally_of_run (motive := Tally.Sound) (.start setup.objectId)
    (fun look _ sound =>
      (Party.advancesOn_look look.party look.trigger).sound sound) ran

/-- The tally of a primary is sound and tidy after any run. -/
theorem tidy_of_run {setup : Setup} (role : setup.role = .primary)
    (ran : (start setup).run? moves = some last) :
    last.party.tally.Sound ∧ last.party.tally.Tidy :=
  tally_of_run (motive := fun tally => tally.Sound ∧ tally.Tidy)
    ⟨.start _, .start _⟩
    (fun look sameSetup before =>
      ⟨(Party.advancesOn_look look.party look.trigger).sound before.1,
        Party.tidy_look (sameSetup ▸ role) before.1 before.2 look.trigger⟩)
    ran

end Session

end CreationCommit

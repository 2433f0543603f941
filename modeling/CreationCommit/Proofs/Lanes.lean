import CreationCommit.Proofs.Reliable

/-!
# Letters that keep their order

All envelopes from one peer to another take the same lane.  If every envelope
that arrives is the first of its lane, what is in transit on a lane is always
the end of what was posted there, so a letter arrives only after all that were
posted on its lane before.
-/

namespace CreationCommit

/-- Whether two envelopes take the same lane. -/
def Envelope.sharesLane (first second : Envelope) : Bool :=
  first.sender = second.sender && first.recipient = second.recipient

/-- The envelopes on the lane from one peer to another. -/
def lane (sender recipient : PeerId) (envelopes : List Envelope) :
    List Envelope :=
  envelopes.filter fun envelope =>
    envelope.sender = sender && envelope.recipient = recipient

/-- Whether a letter for the first duty comes before one for the second. -/
def Precedes (first second : Duty) (envelopes : List Envelope) : Prop :=
  ∃ before after, envelopes = before ++ after ∧
    (∃ envelope ∈ before, envelope.letter.duty = first) ∧
    ∃ envelope ∈ after, envelope.letter.duty = second

variable {sender recipient : PeerId} {envelopes posted transit : List Envelope}
  {envelope : Envelope} {first second : Duty}

theorem mem_lane : envelope ∈ lane sender recipient envelopes ↔
    envelope ∈ envelopes ∧ envelope.sender = sender ∧
      envelope.recipient = recipient := by
  simp [lane]

/-- Taking the first envelope of its lane away leaves the end of each lane. -/
theorem lane_erase_suffix (isFirst :
      envelopes.find? (·.sharesLane envelope) = some envelope) :
    lane sender recipient (envelopes.erase envelope) <:+
      lane sender recipient envelopes := by
  induction envelopes with
  | nil => simp at isFirst
  | cons head rest ih =>
      rw [List.find?_cons] at isFirst
      split at isFirst
      · obtain rfl : head = envelope := by simpa using isFirst
        rw [List.erase_cons_head, lane, lane, List.filter_cons]
        split
        · exact List.suffix_cons _ _
        · exact List.suffix_refl _
      · rename_i otherLane
        have differs : head ≠ envelope := by
          rintro rfl
          simp [Envelope.sharesLane] at otherLane
        rw [List.erase_cons_tail (by simpa using differs)]
        by_cases inLane : head.sender = sender ∧ head.recipient = recipient
        · have elsewhere : lane sender recipient (rest.erase envelope) =
              lane sender recipient rest := by
            obtain ⟨rfl, rfl⟩ := inLane
            rw [lane, ← List.erase_filter, List.erase_of_not_mem]
            · rfl
            · simp only [List.mem_filter, not_and, Bool.and_eq_true,
                decide_eq_true_eq]
              rintro - isSender isRecipient
              simp [Envelope.sharesLane, isSender, isRecipient] at otherLane
          simp only [lane, List.filter_cons] at elsewhere ⊢
          rw [elsewhere]
        · have notInLane : (decide (head.sender = sender) &&
              decide (head.recipient = recipient)) = false := by
            simpa using inLane
          simpa [lane, List.filter_cons, notInLane] using ih isFirst

theorem lane_append_suffix (isEnd : lane sender recipient transit <:+
      lane sender recipient posted) (new : List Envelope) :
    lane sender recipient (transit ++ new) <:+
      lane sender recipient (posted ++ new) := by
  obtain ⟨arrived, split⟩ := isEnd
  refine ⟨arrived, ?_⟩
  rw [lane, lane, List.filter_append, List.filter_append, ← List.append_assoc]
  exact congrArg (· ++ _) split

/-- The order of letters on one lane is the order among all. -/
theorem precedes_lane
    (firstInLane : ∀ envelope ∈ envelopes, envelope.letter.duty = first →
      envelope.sender = sender ∧ envelope.recipient = recipient)
    (secondInLane : ∀ envelope ∈ envelopes, envelope.letter.duty = second →
      envelope.sender = sender ∧ envelope.recipient = recipient) :
    Precedes first second (lane sender recipient envelopes) ↔
      Precedes first second envelopes := by
  constructor
  · rintro ⟨before, after, split, ⟨one, oneMem, isFirst⟩,
      ⟨other, otherMem, isSecond⟩⟩
    obtain ⟨allBefore, allAfter, rfl, rfl, rfl⟩ :=
      List.filter_eq_append_iff.1 split
    exact ⟨allBefore, allAfter, rfl,
      ⟨one, List.mem_of_mem_filter oneMem, isFirst⟩,
      ⟨other, List.mem_of_mem_filter otherMem, isSecond⟩⟩
  · rintro ⟨before, after, rfl, ⟨one, oneMem, isFirst⟩,
      ⟨other, otherMem, isSecond⟩⟩
    refine ⟨lane sender recipient before, lane sender recipient after,
      List.filter_append .., ⟨one, mem_lane.2 ⟨oneMem, ?_⟩, isFirst⟩,
      ⟨other, mem_lane.2 ⟨otherMem, ?_⟩, isSecond⟩⟩
    · exact firstInLane one (List.mem_append_left _ oneMem) isFirst
    · exact secondInLane other (List.mem_append_right _ otherMem) isSecond

/-- A letter that is no longer in transit was posted before one that is. -/
theorem precedes_of_arrived (isEnd : transit <:+ posted)
    (isPosted : ∃ envelope ∈ posted, envelope.letter.duty = first)
    (arrived : ∀ envelope ∈ transit, envelope.letter.duty ≠ first)
    (inTransit : ∃ envelope ∈ transit, envelope.letter.duty = second) :
    Precedes first second posted := by
  obtain ⟨delivered, rfl⟩ := isEnd
  obtain ⟨envelope, isMember, isFirst⟩ := isPosted
  refine ⟨delivered, transit, rfl, ⟨envelope, ?_, isFirst⟩, inTransit⟩
  rcases List.mem_append.1 isMember with isDelivered | isLeft
  · exact isDelivered
  · exact absurd isFirst (arrived envelope isLeft)

/-- A letter posted once, before one that arrived, has arrived. -/
theorem arrived_of_precedes (isEnd : transit <:+ posted)
    (precedes : Precedes first second posted)
    (once : posted.countP (·.letter.duty = first) ≤ 1)
    (arrived : ∀ envelope ∈ transit, envelope.letter.duty ≠ second) :
    ∀ envelope ∈ transit, envelope.letter.duty ≠ first := by
  obtain ⟨delivered, rfl⟩ := isEnd
  obtain ⟨before, after, split, ⟨one, oneMem, isFirst⟩,
    ⟨other, otherMem, isSecond⟩⟩ := precedes
  intro envelope inTransit alsoFirst
  rcases List.append_eq_append_iff.1 split with
    ⟨middle, rfl, rfl⟩ | ⟨middle, rfl, rfl⟩
  · exact arrived other (List.mem_append_right _ otherMem) isSecond
  · have isDelivered : 0 < (before ++ middle).countP (·.letter.duty = first) :=
      List.countP_pos_iff.2
        ⟨one, List.mem_append_left _ oneMem, by simp [isFirst]⟩
    have isLeft : 0 < transit.countP (·.letter.duty = first) :=
      List.countP_pos_iff.2 ⟨envelope, inTransit, by simp [alsoFirst]⟩
    rw [List.countP_append] at once
    omega

theorem precedes_append (precedes : Precedes first second envelopes)
    (new : List Envelope) : Precedes first second (envelopes ++ new) := by
  obtain ⟨before, after, rfl, isFirst, other, otherMem, isSecond⟩ := precedes
  exact ⟨before, after ++ new, List.append_assoc .., isFirst, other,
    List.mem_append_left _ otherMem, isSecond⟩

/-- A new letter comes before none. -/
theorem precedes_concat {new : Envelope}
    (precedes : Precedes first second (envelopes ++ [new])) :
    Precedes first second envelopes ∨ new.letter.duty = second := by
  obtain ⟨before, after, split, isFirst, other, otherMem, isSecond⟩ := precedes
  rcases List.append_eq_append_iff.1 split with
    ⟨middle, -, isLast⟩ | ⟨middle, rfl, rfl⟩
  · have isNew : other ∈ [new] := isLast ▸ List.mem_append_right _ otherMem
    exact .inr (List.mem_singleton.1 isNew ▸ isSecond)
  · rcases List.mem_append.1 otherMem with earlier | isNew
    · exact .inl ⟨before, middle, rfl, isFirst, other, earlier, isSecond⟩
    · exact .inr (List.mem_singleton.1 isNew ▸ isSecond)

end CreationCommit

/-!
# Identities of peers and objects

A peer is known by a name and so is the object whose creation is decided.
Peers are ordered by their names, compared character by character, which is
also the order of the names' UTF-8 bytes.  The order is strict and total.
-/

namespace CreationCommit

/-- A peer of the group, known by its name. -/
structure PeerId where
  name : String
deriving DecidableEq, Repr, Inhabited

/-- A replicated object, known by its name. -/
structure ObjectId where
  name : String
deriving DecidableEq, Repr, Inhabited

namespace PeerId

instance : LT PeerId where
  lt first second := first.name < second.name

instance (first second : PeerId) : Decidable (first < second) :=
  inferInstanceAs (Decidable (first.name < second.name))

theorem lt_iff {first second : PeerId} :
    first < second ↔ first.name < second.name :=
  Iff.rfl

theorem lt_irrefl (peer : PeerId) : ¬ peer < peer :=
  String.lt_irrefl peer.name

theorem lt_trans {first second third : PeerId}
    (lower : first < second) (upper : second < third) : first < third :=
  String.lt_trans lower upper

theorem lt_asymm {first second : PeerId} (lower : first < second) :
    ¬ second < first :=
  String.lt_asymm lower

theorem ne_of_lt {first second : PeerId} (lower : first < second) :
    first ≠ second := by
  rintro rfl
  exact lt_irrefl _ lower

theorem eq_of_not_lt {first second : PeerId}
    (notLower : ¬ first < second) (notUpper : ¬ second < first) :
    first = second := by
  cases first
  cases second
  simp only [lt_iff, String.not_lt] at notLower notUpper
  exact congrArg PeerId.mk (String.le_antisymm notUpper notLower)

end PeerId

end CreationCommit

/-!
# Numbers of votes

Votes are numbered from zero, each number once.
-/

namespace CreationCommit

/-- The count of numbers given out so far. -/
structure Numbering where
  issued : Int64
deriving DecidableEq, Repr

namespace Numbering

def start : Numbering :=
  ⟨0⟩

/-- The number given out next. -/
def next (numbering : Numbering) : Int64 :=
  numbering.issued

def advance (numbering : Numbering) : Numbering :=
  ⟨numbering.issued + 1⟩

end Numbering

end CreationCommit

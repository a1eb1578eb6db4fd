/-!
# Observer priorities

Observers run in ascending order of priority.  The least priority is reserved for
interception: a host that asks for it gets the next one.
-/

namespace CompileOnLoad

/-- The place of an observer in the running order; smaller values run first. -/
structure Priority where
  value : Int32
  deriving DecidableEq, Repr

namespace Priority

/-- The priority of interception, before all that a host can ask for. -/
def reserved : Priority := ⟨Int32.minValue⟩

def standard : Priority := ⟨0⟩

def ofValue (value : Int32) : Priority :=
  if value = Int32.minValue then ⟨Int32.minValue + 1⟩ else ⟨value⟩

def isReserved (p : Priority) : Bool :=
  p.value = Int32.minValue

def rank (p : Priority) : Int := p.value.toInt

theorem reserved_rank_lt (value : Int32) : reserved.rank < (ofValue value).rank := by
  unfold ofValue
  split
  · decide
  · next h =>
    have hne : value.toInt ≠ Int32.minValue.toInt := fun he => h (Int32.toInt_inj.mp he)
    have hle := Int32.minValue_le_toInt value
    simp only [reserved, rank]
    omega

end Priority
end CompileOnLoad

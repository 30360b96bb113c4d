/-!
# Sources of random numbers

Generated names are made of random characters.  The engine never asks where the numbers
come from: it is given a stream of them and hands back the part that it has not used, so
every run is a function of its stream.

**Streams.**  A stream is an infinite sequence with a count of the numbers taken so far.
Two runs that start from one stream can be compared number by number, and "takes no
number" is an equation of counts.

## Main definitions

* `DrawStream`, `DrawStream.peek`, `DrawStream.take`: streams, what comes next, and taking
  it.
* `DrawStream.cycling`: a list of numbers over and over.
* `DrawStream.congruential`: the upper bits of a linear congruential generator modulo
  2^64.
-/

namespace WorkspaceVolumes

/-- An infinite sequence of numbers, some of which have been taken. -/
structure DrawStream where
  /-- The numbers, counted from zero. -/
  draw : Nat → Nat
  /-- How many have been taken. -/
  used : Nat

namespace DrawStream

/-- The next numbers, none of them taken. -/
def peek (draws : DrawStream) (count : Nat) : List Nat :=
  (List.range count).map fun k => draws.draw (draws.used + k)

/-- The stream with further numbers taken. -/
def take (draws : DrawStream) (count : Nat) : DrawStream :=
  { draws with used := draws.used + count }

@[simp] theorem length_peek (draws : DrawStream) (count : Nat) :
    (draws.peek count).length = count := by simp [peek]

@[simp] theorem used_take (draws : DrawStream) (count : Nat) :
    (draws.take count).used = draws.used + count := rfl

@[simp] theorem draw_take (draws : DrawStream) (count : Nat) :
    (draws.take count).draw = draws.draw := rfl

/-- The numbers of a list, over and over.  An empty list gives zeros. -/
def cycling (numbers : Array Nat) : DrawStream where
  draw k := numbers.getD (k % numbers.size) 0
  used := 0

/-! ### Linear congruential generators -/

/-- A map of the form "times a factor, plus a term", modulo 2^64. -/
structure AffineMap where
  factor : UInt64
  term : UInt64

namespace AffineMap

/-- The value of a map. -/
def apply (map : AffineMap) (x : UInt64) : UInt64 := map.factor * x + map.term

/-- The map that changes nothing. -/
def identity : AffineMap := ⟨1, 0⟩

/-- The first map after the second. -/
def after (outer inner : AffineMap) : AffineMap :=
  ⟨outer.factor * inner.factor, outer.factor * inner.term + outer.term⟩

/-- A map applied over and over, computed by repeated squaring. -/
def power (map : AffineMap) (count : Nat) : AffineMap :=
  if h : count = 0 then identity
  else
    let half := map.power (count / 2)
    if count % 2 = 0 then half.after half else map.after (half.after half)
termination_by count
decreasing_by omega

end AffineMap

/-- The step of the generator. -/
def congruentialStep : AffineMap := ⟨6364136223846793005, 1442695040888963407⟩

/-- The stream of a seed: each number is the upper 31 bits of the state behind one more
step. -/
def congruential (seed : UInt64) : DrawStream where
  draw k := (((congruentialStep.power (k + 1)).apply seed) >>> 33).toNat
  used := 0

end DrawStream

end WorkspaceVolumes

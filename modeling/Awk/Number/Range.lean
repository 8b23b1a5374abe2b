/-! The range of integers: those of 64 bits with a sign. -/

namespace Awk

def minInteger : Int := -9223372036854775808

def maxInteger : Int := 9223372036854775807

/-- Whether an integer has a signed form of 64 bits. -/
def inRange (i : Int) : Bool := minInteger ≤ i && i ≤ maxInteger

/-- The nearest integer in the range. -/
def clamp (i : Int) : Int := max minInteger (min maxInteger i)

theorem inRange_iff {i : Int} : inRange i ↔ minInteger ≤ i ∧ i ≤ maxInteger := by simp [inRange]

theorem inRange_clamp (i : Int) : inRange (clamp i) := by
  simp only [inRange_iff, clamp, minInteger, maxInteger]
  omega

theorem clamp_of_inRange {i : Int} (h : inRange i) : clamp i = i := by
  simp only [inRange_iff, clamp, minInteger, maxInteger] at h ⊢
  omega

end Awk

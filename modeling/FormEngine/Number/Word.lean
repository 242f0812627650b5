/-!
Integers that fit into a word of 64 bits.
-/

namespace FormEngine

namespace Word

/-- Half the number of words: signed words lie from minus this number on and below it. -/
def half : Int := Nat.pow 2 63

def isSigned (i : Int) : Bool := -half ≤ i && i < half

def isUnsigned (i : Int) : Bool := 0 ≤ i && i < 2 * half

/-- The nearest signed word. -/
def clamp (i : Int) : Int := max (-half) (min (half - 1) i)

end Word

end FormEngine

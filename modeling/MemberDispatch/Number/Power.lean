/-!
# Powers of two and of ten

The scales of binary and of decimal numbers. A mantissa or coefficient is moved from one exponent to
another by multiplying with a power or dividing by it.
-/

namespace MemberDispatch

def twoTo (exponent : Nat) : Nat :=
  Nat.pow 2 exponent

def tenTo (exponent : Nat) : Nat :=
  Nat.pow 10 exponent

end MemberDispatch

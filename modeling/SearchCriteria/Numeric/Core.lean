/-
# Powers and sums

The power and the zero that the core library has for numbers.  Algebraic libraries bring instances
of their own, which are equal to these but not the same terms.  Here the ones of the core library
come first, so that a definition elaborates alike whatever is imported beside it.
-/

namespace SearchCriteria

/-- A power with a natural number as exponent. -/
scoped instance (priority := high) powNat {α : Type} [NatPow α] : Pow α Nat := instPowNat

/-- The zero that the sum of a list starts from. -/
scoped instance (priority := high) zeroOfNat {α : Type} [OfNat α 0] : Zero α := Zero.ofOfNat0

end SearchCriteria

/-!
# Instances of the core library

In this namespace, powers of natural numbers and integers, and the zero that a sum of natural numbers
starts with, are those of the core library, also in proofs that have the structures of algebra in scope.
-/

namespace RecordFilter

attribute [scoped instance (high)] instPowNat Zero.ofOfNat0

end RecordFilter

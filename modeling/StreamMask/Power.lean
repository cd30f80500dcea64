/-
Powers of two, in which words are counted, and powers of ten, in which digits are.
-/
namespace StreamMask

/-- How many values `n` bits have. -/
abbrev twoTo (n : Nat) : Nat := Nat.pow 2 n

/-- How many values `n` decimal digits have. -/
abbrev tenTo (n : Nat) : Nat := Nat.pow 10 n

end StreamMask

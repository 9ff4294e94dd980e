namespace ContractClient.Width

/-! ## Widths

The numbers of a width are those that so many bits can hold. Words, offsets,
quantities and the integer types are all bounded by the limit of some width. -/

/-- The first number that does not fit in the given count of bits. -/
def limit (bits : Nat) : Nat :=
  Nat.pow 2 bits

theorem limit_zero : limit 0 = 1 := rfl

theorem limit_succ (bits : Nat) : limit (bits + 1) = limit bits * 2 := rfl

theorem limit_pos (bits : Nat) : 0 < limit bits := Nat.pow_pos (by decide)

theorem limit_le_limit {narrow wide : Nat} (le : narrow ≤ wide) : limit narrow ≤ limit wide :=
  Nat.pow_le_pow_right (by decide) le

end ContractClient.Width

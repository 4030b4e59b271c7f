set_option autoImplicit false

/-! Sets of characters given by closed intervals of their numbers. -/
namespace LiveConfig.Text

abbrev Ranges := List (Nat × Nat)

def Ranges.holds (ranges : Ranges) (c : Char) : Bool :=
  ranges.any fun r => r.1 ≤ c.toNat && c.toNat ≤ r.2

end LiveConfig.Text

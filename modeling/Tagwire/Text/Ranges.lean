namespace Tagwire.Ranges

abbrev Table := List (Nat × Nat)

def Table.holds (table : Table) (c : Char) : Bool :=
  table.any fun r => r.1 ≤ c.toNat && c.toNat ≤ r.2

end Tagwire.Ranges

/-
Digits: the values of single ones, and of whole numbers written with them.
-/

namespace SourceSync.Text

def digitValue (c : Char) : Nat :=
  c.toNat - 48

/-- The natural number that decimal digits stand for. -/
def naturalValue (ds : List Char) : Nat :=
  ds.foldl (fun n c => n * 10 + digitValue c) 0

def hexValue? (c : Char) : Option Nat :=
  let n := c.toNat
  if 48 ≤ n ∧ n ≤ 57 then some (n - 48)
  else if 97 ≤ n ∧ n ≤ 102 then some (n - 87)
  else if 65 ≤ n ∧ n ≤ 70 then some (n - 55)
  else none

/-- A whole number below `2 ^ 64` with an optional plus sign. -/
def unsigned64? (cs : List Char) : Option Nat :=
  let ds := match cs with
    | '+' :: rest => rest
    | cs => cs
  if ds.isEmpty || !ds.all Char.isDigit then none
  else if naturalValue ds < 0x10000000000000000 then some (naturalValue ds)
  else none

end SourceSync.Text

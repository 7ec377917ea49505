
namespace FieldRules.Unicode

/-- Run starts in increasing order, each with the value of its run; the first run starts at 0. -/
structure Runs where
  entries : Array (Nat × Nat)

namespace Runs

def hexValue? (c : Char) : Option Nat :=
  if '0' ≤ c && c ≤ '9' then some (c.toNat - '0'.toNat)
  else if 'a' ≤ c && c ≤ 'f' then some (c.toNat - 'a'.toNat + 10)
  else none

def decode (text : String) : Runs :=
  let step : Array (Nat × Nat) × Nat × Nat → Char → Array (Nat × Nat) × Nat × Nat :=
    fun (out, start, dist) c =>
      match hexValue? c with
      | some d => (out, start, dist * 16 + d)
      | none => (out.push (start + dist, c.toNat - 256), start + dist, 0)
  ⟨(text.toList.foldl step (#[], 0, 0)).1⟩

def search (rs : Runs) (c lo hi : Nat) : Nat :=
  if lo + 1 < hi then
    let mid := (lo + hi) / 2
    if (rs.entries[mid]?.map (·.1)).getD 0 ≤ c then search rs c mid hi else search rs c lo mid
  else lo
termination_by hi - lo
decreasing_by all_goals omega

def valueAt (rs : Runs) (c : Nat) : Nat :=
  ((rs.entries[search rs c 0 rs.entries.size]?).map (·.2)).getD 0

def contains (rs : Runs) (c : Char) : Bool := rs.valueAt c.toNat == 1

end Runs

end FieldRules.Unicode

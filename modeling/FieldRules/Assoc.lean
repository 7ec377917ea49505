
namespace FieldRules.Assoc

def insert {κ α : Type} [BEq κ] (entries : List (κ × α)) (key : κ) (v : α) : List (κ × α) :=
  if entries.any (·.1 == key) then entries.map fun (k, w) => if k == key then (k, v) else (k, w)
  else entries ++ [(key, v)]

def ofPairs {κ α : Type} [BEq κ] (pairs : List (κ × α)) : List (κ × α) :=
  pairs.foldl (fun acc (k, v) => insert acc k v) []

end FieldRules.Assoc

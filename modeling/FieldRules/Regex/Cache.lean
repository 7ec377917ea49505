import FieldRules.Regex.Match
import FieldRules.Assoc

namespace FieldRules.Regex

def cacheLimit : Nat := 256

/-- Compiled patterns under their text. -/
structure PatternCache where
  entries : List (String × Matcher)

namespace PatternCache

def empty : PatternCache := ⟨[]⟩

def compiled (pattern : String) : StateM PatternCache (Except String Matcher) := fun cache =>
  match cache.entries.lookup pattern with
  | some re => (.ok re, cache)
  | none =>
    match compile pattern with
    | .error e => (.error e, cache)
    | .ok re =>
      let kept := if cacheLimit ≤ cache.entries.length then [] else cache.entries
      (.ok re, ⟨Assoc.insert kept pattern re⟩)

end PatternCache

end FieldRules.Regex

import FieldRules.Context

namespace FieldRules

/-- The outcome of one rule check. -/
inductive Verdict where
  /-- The rule is satisfied. -/
  | pass
  /-- The rule failed; the handler's message is rendered. -/
  | fail
  /-- The rule failed and found extra placeholder values while checking. -/
  | failWith (details : List (String × String))
  /-- The rule failed with its own message template. -/
  | failMessage (template : String)
  /-- The rule is satisfied and the rest of the chain is skipped. -/
  | halt
deriving BEq, Repr, Inhabited

namespace Verdict

def isFailure : Verdict → Bool
  | fail | failWith _ | failMessage _ => true
  | _ => false

def ofBool (b : Bool) : Verdict := if b then pass else fail

end Verdict

/-- Rules that decide whether a field must hold a value. -/
inductive Presence where
  | required
  | requiredIf
  | requiredUnless
  | requiredWith
  | requiredWithout
  | nullable
deriving BEq, DecidableEq, Repr, Inhabited

/-- Rules that compare a value with parameters or with another field. -/
inductive Comparison where
  | inList
  | notInList
  | same
  | different
  | confirmed
  | accepted
  | declined
deriving BEq, DecidableEq, Repr, Inhabited

/-- Refinements of strings. -/
inductive TextRule where
  | min
  | max
  | length
  | between
  | email
  | url
  | uuid
  | alpha
  | alphaNum
  | alphaDash
  | pattern
  | startsWith
  | endsWith
  | includes
  | lowercase
  | uppercase
  | address
  | json
deriving BEq, DecidableEq, Repr, Inhabited

/-- Refinements of numbers. -/
inductive NumberRule where
  | min
  | max
  | between
  | integer
  | positive
  | negative
  | multipleOf
  | decimal
deriving BEq, DecidableEq, Repr, Inhabited

/-- Refinements of arrays. -/
inductive ListRule where
  | min
  | max
  | length
  | distinct
  | includes
deriving BEq, DecidableEq, Repr, Inhabited

/-- Comparisons and formats of dates. -/
inductive DateRule where
  | before
  | after
  | beforeOrEqual
  | afterOrEqual
  | between
  | format
deriving BEq, DecidableEq, Repr, Inhabited

/-- Refinements of objects. -/
inductive ObjectRule where
  | shape
  | strict
  | keys
deriving BEq, DecidableEq, Repr, Inhabited

/-- Refinements of file descriptors. -/
inductive FileRule where
  | min
  | max
  | mimes
  | types
deriving BEq, DecidableEq, Repr, Inhabited

/-- The builtin rules. -/
inductive Builtin where
  /-- The value is of a base type. -/
  | type (t : BaseType)
  | presence (r : Presence)
  | comparison (r : Comparison)
  /-- The value satisfies one of several rule sets. -/
  | union
  | text (r : TextRule)
  | number (r : NumberRule)
  /-- The value is a JSON boolean. -/
  | strictBoolean
  | list (r : ListRule)
  | date (r : DateRule)
  | object (r : ObjectRule)
  | file (r : FileRule)
deriving BEq, DecidableEq, Repr, Inhabited

def defaultTemplate : String := "The :attribute field is invalid."

namespace Builtin

def implicit : Builtin → Bool
  | presence _ | union => true
  | _ => false

def priority : Builtin → Int
  | union => -1000
  | _ => 0

def fallback : Builtin → String
  | type .string => "The :attribute field must be a string."
  | type .number => "The :attribute field must be a number."
  | type .boolean => "The :attribute field must be true or false."
  | type .array => "The :attribute field must be an array."
  | type .date => "The :attribute field must be a valid date."
  | type .object => "The :attribute field must be an object."
  | type .file => "The :attribute field must be a file."
  | presence .required => "The :attribute field is required."
  | presence .requiredIf => "The :attribute field is required when :other is :values."
  | presence .requiredUnless => "The :attribute field is required unless :other is in :values."
  | presence .requiredWith => "The :attribute field is required when :values is present."
  | presence .requiredWithout => "The :attribute field is required when :values is not present."
  | presence .nullable => defaultTemplate
  | comparison .inList | comparison .notInList => "The selected :attribute is invalid."
  | comparison .same => "The :attribute field must match :other."
  | comparison .different => "The :attribute field and :other must be different."
  | comparison .confirmed => "The :attribute field confirmation does not match."
  | comparison .accepted => "The :attribute field must be accepted."
  | comparison .declined => "The :attribute field must be declined."
  | union => "The :attribute field must match one of the following formats: :formats."
  | text .min => "The :attribute field must be at least :min characters."
  | text .max => "The :attribute field must not be greater than :max characters."
  | text .length => "The :attribute field must be :length characters."
  | text .between => "The :attribute field must be between :min and :max characters."
  | text .email => "The :attribute field must be a valid email address."
  | text .url => "The :attribute field must be a valid URL."
  | text .uuid => "The :attribute field must be a valid UUID."
  | text .alpha => "The :attribute field must only contain letters."
  | text .alphaNum => "The :attribute field must only contain letters and numbers."
  | text .alphaDash =>
    "The :attribute field must only contain letters, numbers, dashes, and underscores."
  | text .pattern => "The :attribute field format is invalid."
  | text .startsWith => "The :attribute field must start with one of the following: :values."
  | text .endsWith => "The :attribute field must end with one of the following: :values."
  | text .includes => "The :attribute field must contain: :values."
  | text .lowercase => "The :attribute field must be lowercase."
  | text .uppercase => "The :attribute field must be uppercase."
  | text .address => "The :attribute field must be a valid IP address."
  | text .json => "The :attribute field must be a valid JSON string."
  | number .min => "The :attribute field must be at least :min."
  | number .max => "The :attribute field must not be greater than :max."
  | number .between => "The :attribute field must be between :min and :max."
  | number .integer => "The :attribute field must be an integer."
  | number .positive => "The :attribute field must be greater than 0."
  | number .negative => "The :attribute field must be less than 0."
  | number .multipleOf => "The :attribute field must be a multiple of :multiple."
  | number .decimal => "The :attribute field must have :decimal decimal places."
  | strictBoolean => "The :attribute field must be a boolean."
  | list .min => "The :attribute field must have at least :min items."
  | list .max => "The :attribute field must not have more than :max items."
  | list .length => "The :attribute field must contain :length items."
  | list .distinct => "The :attribute field has a duplicate value."
  | list .includes => "The :attribute field must include: :values."
  | date .before => "The :attribute field must be a date before :date."
  | date .after => "The :attribute field must be a date after :date."
  | date .beforeOrEqual => "The :attribute field must be a date before or equal to :date."
  | date .afterOrEqual => "The :attribute field must be a date after or equal to :date."
  | date .between => "The :attribute field must be a date between :start and :end."
  | date .format => "The :attribute field must match the format :format."
  | object .shape => "The :attribute field does not match the expected shape (:errors)."
  | object .strict => "The :attribute field contains unexpected keys: :fields."
  | object .keys => "The :attribute field must contain the keys: :values."
  | file .min => "The :attribute field must be at least :min kilobytes."
  | file .max => "The :attribute field must not be greater than :max kilobytes."
  | file .mimes | file .types => "The :attribute field must be a file of type: :values."

def untyped : List (String × Builtin) :=
  (BaseType.all.map fun t => (t.name, type t)) ++
  [("required", presence .required), ("required_if", presence .requiredIf),
   ("required_unless", presence .requiredUnless), ("required_with", presence .requiredWith),
   ("required_without", presence .requiredWithout), ("nullable", presence .nullable),
   ("in", comparison .inList), ("not_in", comparison .notInList), ("same", comparison .same),
   ("different", comparison .different), ("confirmed", comparison .confirmed),
   ("accepted", comparison .accepted), ("declined", comparison .declined), ("union", union)]

def typed : BaseType → List (String × Builtin)
  | .string =>
    [("min", text .min), ("max", text .max), ("length", text .length),
     ("between", text .between), ("email", text .email), ("url", text .url),
     ("uuid", text .uuid), ("alpha", text .alpha), ("alpha_num", text .alphaNum),
     ("alpha_dash", text .alphaDash), ("regex", text .pattern),
     ("starts_with", text .startsWith), ("ends_with", text .endsWith),
     ("includes", text .includes), ("lowercase", text .lowercase),
     ("uppercase", text .uppercase), ("ip", text .address), ("json", text .json)]
  | .number =>
    [("min", number .min), ("max", number .max), ("between", number .between),
     ("integer", number .integer), ("positive", number .positive),
     ("negative", number .negative), ("multiple_of", number .multipleOf),
     ("decimal", number .decimal)]
  | .boolean => [("strict", strictBoolean)]
  | .array =>
    [("min", list .min), ("max", list .max), ("length", list .length),
     ("distinct", list .distinct), ("includes", list .includes)]
  | .date =>
    [("before", date .before), ("after", date .after),
     ("before_or_equal", date .beforeOrEqual), ("after_or_equal", date .afterOrEqual),
     ("between", date .between), ("format", date .format)]
  | .object => [("shape", object .shape), ("strict", object .strict), ("keys", object .keys)]
  | .file => [("min", file .min), ("max", file .max), ("mimes", file .mimes), ("types", file .types)]

end Builtin

/-- A handler given by its functions. Its check sees the value (absent only for implicit
handlers), the bound parameters and the context, and may answer with any fault instead of a
verdict, which aborts the validation. A handler with a `counter` name has each of its checks
recorded under that name. -/
structure Extension where
  check : Option Json → List String → Context → Except Fault Verdict
  implicit : Bool
  priority : Int
  validateParams : List String → Except String Unit
  fallback : String
  placeholders : List String → Context → List (String × String)
  counter : Option String

instance : Inhabited Extension :=
  ⟨⟨fun _ _ _ => .ok .pass, false, 0, fun _ => .ok (), defaultTemplate, fun _ _ => [], none⟩⟩

/-- A rule handler: builtin or extension. -/
inductive Handler where
  | builtin (b : Builtin)
  | extension (e : Extension)
deriving Inhabited

namespace Handler

def implicit : Handler → Bool
  | builtin b => b.implicit
  | extension e => e.implicit

def priority : Handler → Int
  | builtin b => b.priority
  | extension e => e.priority

def fallback : Handler → String
  | builtin b => b.fallback
  | extension e => e.fallback

end Handler

def requireParams (params : List String) (count : Nat) : Except String Unit :=
  if params.length ≥ count then .ok ()
  else .error ("expects at least " ++ Nat.repr count ++ " parameter" ++
    (if count == 1 then "" else "s") ++ ", got " ++ Nat.repr params.length)

def requireNumbers (params : List String) (count : Nat) : Except String Unit := do
  requireParams params count
  (params.take count).forM fun p =>
    if (Binary64.read? p).isSome then .ok () else .error ("parameter `" ++ p ++ "` is not a number")

end FieldRules

import FieldRules.Handler
import FieldRules.Calendar.Parse

namespace FieldRules.Check

open Calendar

def readDateText? (s : String) : Option Moment :=
  match readRfc3339? s with
  | some m => some m
  | none =>
    match readMoment? "%Y-%m-%d %H:%M:%S" s with
    | some m => some m
    | none =>
      match readMoment? "%Y-%m-%dT%H:%M:%S" s with
      | some m => some m
      | none => (readDate? "%Y-%m-%d" s).map Moment.midnight

def dateOf? : Json → Option Moment
  | .str s => readDateText? (Text.trim s)
  | .num n => n.toInt?.bind Moment.ofEpochMillis?
  | _ => none

def relativeWords : List String := ["now", "today", "tomorrow", "yesterday"]

def bound? (now : Moment) (ctx : Context) (param : String) : Option Moment :=
  match param with
  | "now" => some now
  | "today" => some (Moment.midnight now.date)
  | "tomorrow" => some (Moment.midnight (Date.ofDays (now.date.toDays + 1)))
  | "yesterday" => some (Moment.midnight (Date.ofDays (now.date.toDays - 1)))
  | other =>
    match readDateText? other with
    | some m => some m
    | none => (ctx.lookup other).bind dateOf?

def fitsFormat (pattern s : String) : Bool :=
  (readMoment? pattern s).isSome || (readDate? pattern s).isSome || (readTime? pattern s).isSome

def date (r : DateRule) (now : Moment) (ctx : Context) (v : Json) (params : List String) :
    Verdict :=
  let compare (accept : Moment → Moment → Bool) : Verdict :=
    .ofBool (match dateOf? v, params.head? with
      | some d, some p => ((bound? now ctx p).map (accept d)).getD false
      | _, _ => false)
  match r with
  | .before => compare Moment.lt
  | .after => compare fun d b => Moment.lt b d
  | .beforeOrEqual => compare Moment.le
  | .afterOrEqual => compare fun d b => Moment.le b d
  | .between =>
    let p (i : Nat) := (params[i]?).getD ""
    .ofBool (match dateOf? v, bound? now ctx (p 0), bound? now ctx (p 1) with
      | some d, some lo, some hi => lo.le d && d.le hi
      | _, _, _ => false)
  | .format =>
    .ofBool (match v with
      | .str s => fitsFormat ((params.head?).getD "") s
      | _ => false)

/-- The placeholders of a date rule. A comparison shows its bound as written when it is a date
or a relative word, else the display name of the field it names. -/
def datePlaceholders (r : DateRule) (ctx : Context) (params : List String) :
    List (String × String) :=
  let p (i : Nat) := (params[i]?).getD ""
  match r with
  | .between => [("start", p 0), ("end", p 1)]
  | .format => [("format", p 0)]
  | _ =>
    let literal := (readDateText? (p 0)).isSome || relativeWords.contains (p 0)
    [("date", if literal then p 0 else ctx.displayNameOf (p 0))]

end FieldRules.Check

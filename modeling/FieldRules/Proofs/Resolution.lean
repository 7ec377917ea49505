import FieldRules.Proofs.AcceptedParams

namespace FieldRules

/-- The tables of a registry. -/
inductive RuleTable where
  | base
  | additional (t : BaseType)
  | custom
deriving DecidableEq

/-- One registration call: a handler put under a name in a table. -/
structure Registration where
  table : RuleTable
  name : String
  handler : Handler

namespace Registration

/-- The handler of the latest call that registered a name in a table. -/
def latest (calls : List Registration) (τ : RuleTable) (n : String) : Option Handler :=
  ((calls.filter fun x => x.table = τ ∧ x.name = n).getLast?).map (·.handler)

/-- The base type of a call to a typed table. -/
def typed? (x : Registration) : Option BaseType :=
  match x.table with
  | .additional t => some t
  | _ => none

/-- The base types given typed rules, each at its first call. -/
def tableOrder (calls : List Registration) : List BaseType := (calls.filterMap typed?).eraseDups

theorem latest_append_singleton (calls : List Registration) (x : Registration) (τ : RuleTable)
    (n : String) :
    latest (calls ++ [x]) τ n =
      if x.table = τ ∧ x.name = n then some x.handler else latest calls τ n := by
  by_cases hx : x.table = τ ∧ x.name = n
  · simp [latest, hx, List.getLast?_append]
  · simp [latest, hx]

theorem tableOrder_append_singleton (calls : List Registration) (x : Registration) :
    tableOrder (calls ++ [x]) =
      tableOrder calls ++ x.typed?.toList.filter fun t => t ∉ tableOrder calls := by
  unfold tableOrder
  rw [List.filterMap_append, List.eraseDups_append]
  congr 1
  simp only [List.filterMap_cons, List.filterMap_nil, List.mem_eraseDups]
  cases x.typed? with
  | none => rfl
  | some t =>
    by_cases ht : t ∈ calls.filterMap typed?
    · simp only [Option.toList_some, List.removeAll, List.filter_cons, List.elem_eq_mem, ht,
        decide_true, Bool.not_true, not_true_eq_false, decide_false, List.filter_nil]
      rfl
    · simp only [Option.toList_some, List.removeAll, List.filter_cons, List.elem_eq_mem, ht,
        decide_false, Bool.not_false, not_false_eq_true, decide_true, List.filter_nil, if_true]
      rfl

end Registration

namespace Registry

/-- The handler a table holds under a name. -/
def held (r : Registry) : RuleTable → String → Option Handler
  | .base, n => r.base.lookup n
  | .additional t, n => (r.additional.lookup t).bind (·.lookup n)
  | .custom, n => r.custom.lookup n

/-- The base types that have a table, in the order the tables were made. -/
def tableTypes (r : Registry) : List BaseType := r.additional.map (·.1)

/-- Makes one registration call. -/
def apply (r : Registry) (x : Registration) : Registry :=
  match x.table with
  | .base => r.register x.name x.handler
  | .additional t => r.registerAdditional t x.name x.handler
  | .custom => r.registerCustom x.name x.handler

/-- The registry that registration calls make from the empty one. -/
def ofCalls (calls : List Registration) : Registry := calls.foldl apply empty

/-- A name found in the table of a type, with how it was found. -/
def typedIn (held : RuleTable → String → Option Handler) (t : BaseType) (n : String) :
    Option (RuleKind × Handler) :=
  (held (.additional t) n).map (.additional t n, ·)

/-- Resolution as six steps over what the tables hold (`held`) and the order of the typed tables,
the first step that applies deciding: (1) `custom` goes to the custom table under its first
parameter, and needs one; (2) a name of the untyped table goes there; (3) a name `T.n` whose part
before the first dot names a base type `T` goes to `T`'s table under `n`, or is unknown there;
(4) a name of the table of the chain's base type goes there; (5) a name goes to the first table
holding it, in table order; (6) any other name is unknown. -/
def resolveBy (held : RuleTable → String → Option Handler) (order : List BaseType) (rule : Rule)
    (bt : Option BaseType) : Except Fault (RuleKind × Handler) :=
  if rule.isCustom then
    match rule.params with
    | [] => .error (.invalidDefinition rule.display "custom rule requires a name")
    | c :: _ =>
      match held .custom c with
      | some h => .ok (.custom c, h)
      | none => .error (.unknownCustomRule c)
  else
    match held .base rule.name with
    | some h => .ok (.base, h)
    | none =>
      match (splitOnce rule.name '.').bind fun (p, n) => (BaseType.ofName? p).map (·, n) with
      | some (t, n) =>
        match typedIn held t n with
        | some res => .ok res
        | none => .error (.unknownRule n (some t))
      | none =>
        match bt.bind fun t => typedIn held t rule.name with
        | some res => .ok res
        | none =>
          match order.findSome? fun t => typedIn held t rule.name with
          | some res => .ok res
          | none => .error (.unknownRule rule.name bt)

theorem resolve_eq_resolveBy (r : Registry) (rule : Rule) (bt : Option BaseType) :
    r.resolve rule bt = resolveBy r.held r.tableTypes rule bt := by
  have htyped : r.additionalHandler = typedIn r.held := rfl
  unfold resolve resolveBy tableTypes
  rw [List.findSome?_map, htyped]
  rfl

theorem held_apply (r : Registry) (x : Registration) (τ : RuleTable) (n : String) :
    (r.apply x).held τ n = if x.table = τ ∧ x.name = n then some x.handler else r.held τ n := by
  obtain ⟨τ', n', h⟩ := x
  cases τ' with
  | base =>
    cases τ with
    | base => simp [apply, held, register, Assoc.lookup_insert, @eq_comm _ n n']
    | additional t => simp [apply, held, register]
    | custom => simp [apply, held, register]
  | custom =>
    cases τ with
    | base => simp [apply, held, registerCustom]
    | additional t => simp [apply, held, registerCustom]
    | custom => simp [apply, held, registerCustom, Assoc.lookup_insert, @eq_comm _ n n']
  | additional t' =>
    cases τ with
    | base => simp [apply, held, registerAdditional]
    | custom => simp [apply, held, registerAdditional]
    | additional t =>
      simp only [apply, held, registerAdditional, Assoc.lookup_insert]
      by_cases ht : t = t'
      · -- the call's own table: the name inserted into what the table held
        subst ht
        simp only [beq_self_eq_true, if_true, Option.bind_some, Assoc.lookup_insert]
        cases r.additional.lookup t <;> simp [@eq_comm _ n n']
      · -- another type's table is untouched
        simp [beq_false_of_ne ht, Ne.symm ht]

theorem tableTypes_apply (r : Registry) (x : Registration) :
    (r.apply x).tableTypes = r.tableTypes ++ x.typed?.toList.filter fun t => t ∉ r.tableTypes := by
  obtain ⟨τ, n, h⟩ := x
  cases τ with
  | additional t => exact Assoc.keys_insert _ _ _
  | base => simp [apply, register, tableTypes, Registration.typed?]
  | custom => simp [apply, registerCustom, tableTypes, Registration.typed?]

theorem ofCalls_append_singleton (calls : List Registration) (x : Registration) :
    ofCalls (calls ++ [x]) = (ofCalls calls).apply x := by
  simp [ofCalls, List.foldl_append]

theorem held_ofCalls (calls : List Registration) :
    (ofCalls calls).held = Registration.latest calls := by
  induction calls using List.reverseRecOn with
  | nil =>
    funext τ n
    cases τ <;> rfl
  | append_singleton calls x ih =>
    funext τ n
    rw [ofCalls_append_singleton, held_apply, ih, Registration.latest_append_singleton]

theorem tableTypes_ofCalls (calls : List Registration) :
    (ofCalls calls).tableTypes = Registration.tableOrder calls := by
  induction calls using List.reverseRecOn with
  | nil => rfl
  | append_singleton calls x ih =>
    rw [ofCalls_append_singleton, tableTypes_apply, ih, Registration.tableOrder_append_singleton]

/-- The calls that make the builtin registry: the untyped rules, then each type's rules. -/
def builtinCalls : List Registration :=
  Builtin.untyped.map (fun (n, b) => ⟨.base, n, .builtin b⟩) ++
    BaseType.all.flatMap fun t => (Builtin.typed t).map fun (n, b) => ⟨.additional t, n, .builtin b⟩

theorem foldl_extend_builtins (customs : List CustomRule) :
    customs.foldl extend builtins =
      ofCalls (builtinCalls ++ customs.map fun c => ⟨.custom, c.name, .extension c.handler⟩) := by
  simp only [ofCalls, builtinCalls, builtins, List.foldl_append, List.foldl_map,
    List.foldl_flatMap]
  -- each `register`, `registerAdditional` and `extend` is by definition the call `apply` makes
  rfl

/-- Resolution after any registration calls: a rule resolves by the first of the six steps of
`resolveBy` that applies, where each table holds under each name the handler of the latest call
that registered the name there and the typed tables are scanned in the order of their first
calls. A bare name resolves as the rule of that name without parameters. -/
theorem resolve_follows_latest_calls (calls : List Registration) (rule : Rule)
    (bt : Option BaseType) :
    (ofCalls calls).resolve rule bt =
        resolveBy (Registration.latest calls) (Registration.tableOrder calls) rule bt ∧
      ∀ name, (ofCalls calls).getHandler name bt =
        ((ofCalls calls).resolve (Rule.named name) bt).map (·.2) := by
  refine ⟨?_, fun name => rfl⟩
  rw [resolve_eq_resolveBy, held_ofCalls, tableTypes_ofCalls]

end Registry

end FieldRules

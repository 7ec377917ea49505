import FieldRules.Proofs.ChainRun
import FieldRules.Proofs.Grouping
import FieldRules.Validator
import FieldRules.Proofs.ExceptMaps

namespace FieldRules

namespace Registry

/-- The chain of a schema entry: its definition read as rules, compiled for its pattern. -/
def compileEntry (reg : Registry) (entry : String × Definition) : Except Fault (String × Chain) :=
  do
  let rules ← entry.2.toRules
  let c ← reg.compile entry.1 rules
  pure (entry.1, c)

end Registry

theorem map_fst_bind_pure {ε α β σ : Type} (x : Except ε (α × σ)) (f : α → β) :
    Except.map (·.1) (x >>= fun p => pure (f p.1, p.2)) = (x.map (·.1)).map f := by
  cases x <;> rfl

theorem Registry.compileEntry_fst {reg : Registry} {entry : String × Definition}
    {c : String × Chain} (h : reg.compileEntry entry = .ok c) : entry.1 = c.1 := by
  unfold Registry.compileEntry at h
  obtain ⟨rules, -, h⟩ := Except.bind_eq_ok h
  obtain ⟨k, -, h⟩ := Except.bind_eq_ok h
  cases h
  rfl

theorem Registry.mapM_compileEntry_patterns {reg : Registry}
    {entries : List (String × Definition)} {chains : List (String × Chain)}
    (h : entries.mapM reg.compileEntry = .ok chains) :
    chains.map (·.1) = entries.map (·.1) :=
  mapM_ok_map (fun _ _ hq => (Registry.compileEntry_fst hq).symm) h

namespace Engine

variable (e : Engine)

theorem run_succ_run (fuel : Nat) (data : Json) (schema : Schema) (t : List String) :
    (e.run (fuel + 1) data schema).run t =
      (schema.entries.mapM e.registry.compileEntry).bind fun chains =>
        (match e.instances data chains with
          | (output, insts) => do
            let bag ← forIn insts Bag.empty fun (p, c, path, v) bag => do
              let fs ← e.runChain fuel ⟨data, schema, p, path, v⟩ c e.config.bail
              if !fs.isEmpty then pure (ForInStep.yield (bag.record path fs))
              else pure (ForInStep.yield bag)
            pure (⟨bag.isEmpty, output, bag, e.config.responseType⟩ : Outcome) : Eval Outcome).run t := by
  rw [Engine.run.eq_2]
  change (liftM (schema.entries.mapM e.registry.compileEntry) >>= _ : Eval Outcome).run t = _
  rw [StateT.run_bind]
  cases schema.entries.mapM e.registry.compileEntry with
  | error f => rfl
  | ok chains => rfl

theorem run_of_compile_error {data : Json} {schema : Schema} {f : Fault}
    (h : schema.entries.mapM e.registry.compileEntry = .error f) (fuel : Nat) :
    e.run (fuel + 1) data schema = throw f := by
  apply StateT.ext
  intro t
  rw [e.run_succ_run, h]
  rfl

/-- When an entry of the schema does not compile and every entry before it does, validation
fails with that entry's error whatever the data, and the run is that error alone: no rule is
checked, so no counted check is made. -/
theorem validate_returns_first_compile_error {data : Json} {schema : Schema}
    {pre post : List (String × Definition)} {entry : String × Definition} {f : Fault}
    (hentries : schema.entries = pre ++ entry :: post)
    (hpre : ∀ q ∈ pre, ∃ c, e.registry.compileEntry q = .ok c)
    (hfail : e.registry.compileEntry entry = .error f) :
    e.validate data schema = .error f ∧ ∀ fuel, e.run (fuel + 1) data schema = throw f := by
  have hc : schema.entries.mapM e.registry.compileEntry = .error f := by
    rw [hentries]
    exact mapM_error_of_first hpre hfail
  refine ⟨?_, e.run_of_compile_error hc⟩
  rw [validate, e.run_of_compile_error hc]
  rfl

end Engine

/-- A schema whose second field declares two base types is refused with that conflict, for the
builtin rules and any data. -/
theorem conflicting_types_abort_validation :
    (∀ q ∈ [("name", Definition.text "required")],
      ∃ c, Registry.builtins.compileEntry q = .ok c) ∧
    Registry.builtins.compileEntry ("age", .text "string|number") =
      .error (.conflictingDataType "age" .string .number) ∧
    (⟨Registry.builtins, Config.default, ⟨Catalog.empty, none⟩, default⟩ : Engine).validate
        (.obj []) ⟨[("name", .text "required"), ("age", .text "string|number")]⟩ =
      .error (.conflictingDataType "age" .string .number) := by
  have hpre : ∀ q ∈ [("name", Definition.text "required")],
      ∃ c, Registry.builtins.compileEntry q = .ok c := by
    intro q hq
    rw [List.mem_singleton.1 hq]
    exact ⟨_, rfl⟩
  have hfail : Registry.builtins.compileEntry ("age", .text "string|number") =
      .error (.conflictingDataType "age" .string .number) := rfl
  exact ⟨hpre, hfail, (@Engine.validate_returns_first_compile_error
    ⟨Registry.builtins, Config.default, ⟨Catalog.empty, none⟩, default⟩ (.obj [])
    ⟨[("name", .text "required"), ("age", .text "string|number")]⟩ [("name", .text "required")] []
    ("age", .text "string|number") _ rfl hpre hfail).1⟩

/-- Each field instance compiled chains reach in the data: its pattern, chain, concrete path and
the value found there, in schema order and then data order. -/
def resolveChains (data : Json) (chains : List (String × Chain)) :
    List (String × Chain × String × Option Json) :=
  chains.flatMap fun (p, c) => (Path.resolve data p).map fun (path, raw) => (p, c, path, raw)

namespace Engine
variable (e : Engine)

/-- The output data after one concrete field: a value that coercion changed is written back at
the field's path, when the path can be written. -/
def writeBack (out : Json) (field : String × Option Json) : Json :=
  let v := Context.coerce e.config field.2
  match v with
  | some w => if coercionChanges field.2 v then (Path.assign out field.1 w).getD out else out
  | none => out

/-- The field instances of compiled chains, each with its coerced value. -/
def fieldInstances (data : Json) (chains : List (String × Chain)) :
    List (String × Chain × String × Option Json) :=
  (resolveChains data chains).map fun i => (i.1, i.2.1, i.2.2.1, Context.coerce e.config i.2.2.2)

/-- The failures a field instance records when its chain runs on it, from an empty tally. -/
def instanceFailures (fuel : Nat) (data : Json) (schema : Schema) :
    String × Chain × String × Option Json → Except Fault (List Failure)
  | (p, c, path, v) => (e.runChain fuel ⟨data, schema, p, path, v⟩ c e.config.bail).run' []

/-- The loop over the fields of one pattern does two things at once: it writes the changed
values back, and it lists the pattern's instances with their coerced values. -/
theorem resolve_foldl (p : String) (c : Chain) (l : List (String × Option Json)) (out : Json)
    (acc : List (String × Chain × String × Option Json)) :
    l.foldl (fun (out, acc) (path, raw) =>
        let v := Context.coerce e.config raw
        let out := match v with
          | some w => if coercionChanges raw v then (Path.assign out path w).getD out else out
          | none => out
        (out, acc ++ [(p, c, path, v)])) (out, acc) =
      (l.foldl e.writeBack out,
        acc ++ l.map fun (path, raw) => (p, c, path, Context.coerce e.config raw)) := by
  induction l generalizing out acc with
  | nil => simp
  | cons pr l ih =>
    obtain ⟨path, raw⟩ := pr
    rw [List.foldl_cons]
    dsimp only
    rw [ih]
    simp only [List.map_cons, List.foldl_cons, List.append_assoc, List.singleton_append]
    rfl

theorem instances_foldl (data : Json) (chains : List (String × Chain)) (out : Json)
    (acc : List (String × Chain × String × Option Json)) :
    chains.foldl (fun (out, acc) (p, c) =>
      (Path.resolve data p).foldl (fun (out, acc) (path, raw) =>
        let v := Context.coerce e.config raw
        let out := match v with
          | some w => if coercionChanges raw v then (Path.assign out path w).getD out else out
          | none => out
        (out, acc ++ [(p, c, path, v)])) (out, acc)) (out, acc) =
      (((chains.map (·.1)).flatMap (Path.resolve data)).foldl e.writeBack out,
        acc ++ e.fieldInstances data chains) := by
  induction chains generalizing out acc with
  | nil => simp [resolveChains, fieldInstances]
  | cons pc chains ih =>
    obtain ⟨p, c⟩ := pc
    rw [List.foldl_cons]
    dsimp only
    rw [resolve_foldl, ih]
    simp [resolveChains, fieldInstances, List.foldl_append, List.append_assoc]

/-- The output data and the field instances of compiled chains: every resolved instance with
its coerced value, and the data with each change written back in instance order. -/
theorem instances_eq (data : Json) (chains : List (String × Chain)) :
    e.instances data chains =
      (((chains.map (·.1)).flatMap (Path.resolve data)).foldl e.writeBack data,
        e.fieldInstances data chains) :=
  e.instances_foldl data chains data []

theorem mem_of_fieldInstances {data : Json} {chains : List (String × Chain)} {p : String}
    {c : Chain} {path : String} {v : Option Json} (h : (p, c, path, v) ∈ e.fieldInstances data chains) :
    (p, c) ∈ chains := by
  simp only [fieldInstances, resolveChains, List.mem_map, List.mem_flatMap] at h
  obtain ⟨_, ⟨⟨p', c'⟩, hpc, _, -, rfl⟩, heq⟩ := h
  obtain ⟨rfl, rfl, -⟩ := Prod.mk.inj heq
  exact hpc

/-- The report loop: each instance runs its chain on its own, and the bag records the failures
of the instances in order. -/
theorem forIn_record (fuel : Nat) (data : Json) (schema : Schema)
    (insts : List (String × Chain × String × Option Json)) (bag : Bag) (t : List String) :
    ((forIn insts bag fun (p, c, path, v) bag => do
        let fs ← e.runChain fuel ⟨data, schema, p, path, v⟩ c e.config.bail
        if !fs.isEmpty then pure (ForInStep.yield (bag.record path fs))
        else pure (ForInStep.yield bag) : Eval Bag).run t).map (·.1) =
      (insts.mapM (e.instanceFailures fuel data schema)).map fun fss =>
        ((insts.map (·.2.2.1)).zip fss).foldl Bag.recordOutcome bag := by
  induction insts generalizing bag t with
  | nil => simp [Except.map, pure, Except.pure, StateT.run, StateT.pure]
  | cons i insts ih =>
    obtain ⟨p, c, path, v⟩ := i
    have hfs : e.instanceFailures fuel data schema (p, c, path, v) =
        ((e.runChain fuel ⟨data, schema, p, path, v⟩ c e.config.bail).run []).map (·.1) := rfl
    rw [List.forIn_cons, StateT.run_bind, StateT.run_bind, e.runChain_appends, List.mapM_cons, hfs]
    cases (e.runChain fuel ⟨data, schema, p, path, v⟩ c e.config.bail).run [] with
    | error f => rfl
    | ok r =>
      obtain ⟨fs, u⟩ := r
      have hstep : (if (!fs.isEmpty) = true then pure (ForInStep.yield (bag.record path fs))
          else pure (ForInStep.yield bag) : Eval (ForInStep Bag)) =
          pure (ForInStep.yield (Bag.recordOutcome bag (path, fs))) := by
        by_cases hne : fs.isEmpty = true <;> simp [hne, Bag.recordOutcome]
      have hrest := ih (Bag.recordOutcome bag (path, fs)) (t ++ u)
      simp only [Except.map, bind, Except.bind] at hrest ⊢
      rw [hstep]
      simp only [StateT.run, pure, StateT.pure, Except.pure] at hrest ⊢
      rw [hrest]
      cases List.mapM (e.instanceFailures fuel data schema) insts <;> rfl

/-- A run whose schema compiles gives the data with its coerced values written back, and the
failures of its field instances grouped by field; it is valid exactly when nothing failed. -/
theorem run_succ_outcome (fuel : Nat) (data : Json) {schema : Schema}
    {chains : List (String × Chain)}
    (hc : schema.entries.mapM e.registry.compileEntry = .ok chains) (t : List String) :
    ((e.run (fuel + 1) data schema).run t).map (·.1) =
      ((e.fieldInstances data chains).mapM (e.instanceFailures fuel data schema)).map fun fss =>
        let bag : Bag := ⟨Bag.groupByField (((e.fieldInstances data chains).map (·.2.2.1)).zip fss)⟩
        ⟨bag.isEmpty, ((chains.map (·.1)).flatMap (Path.resolve data)).foldl e.writeBack data, bag,
          e.config.responseType⟩ := by
  have h := e.forIn_record fuel data schema (e.fieldInstances data chains) Bag.empty t
  rw [e.run_succ_run, hc]
  dsimp only [Except.bind]
  rw [instances_eq]
  dsimp only
  rw [StateT.run_bind]
  simp only [StateT.run_pure]
  refine (map_fst_bind_pure _ fun bag => (⟨bag.isEmpty,
    ((chains.map (·.1)).flatMap (Path.resolve data)).foldl e.writeBack data, bag,
    e.config.responseType⟩ : Outcome)).trans ?_
  rw [h]
  cases (e.fieldInstances data chains).mapM (e.instanceFailures fuel data schema) with
  | error f => rfl
  | ok fss => simp only [Except.map, Bag.foldl_recordOutcome]

/-- A validation that succeeds compiled its schema, ran the chains of all its field instances,
and gives their outcome. -/
theorem validate_ok_outcome {data : Json} {schema : Schema} {r : Outcome} {calls : List String}
    (h : e.validate data schema = .ok (r, calls)) :
    ∃ chains fss,
      schema.entries.mapM e.registry.compileEntry = .ok chains ∧
      (e.fieldInstances data chains).mapM
          (e.instanceFailures (3 * schema.weight + 2) data schema) = .ok fss ∧
      r = let bag : Bag :=
          ⟨Bag.groupByField (((e.fieldInstances data chains).map (·.2.2.1)).zip fss)⟩
        ⟨bag.isEmpty, ((chains.map (·.1)).flatMap (Path.resolve data)).foldl e.writeBack data,
          bag, e.config.responseType⟩ := by
  -- a schema that does not compile makes validation fail
  obtain ⟨chains, hc⟩ : ∃ chains, schema.entries.mapM e.registry.compileEntry = .ok chains := by
    cases hc : schema.entries.mapM e.registry.compileEntry with
    | error f =>
      rw [validate, e.run_of_compile_error hc] at h
      cases h
    | ok chains => exact ⟨chains, rfl⟩
  have hout := e.run_succ_outcome (3 * schema.weight + 2) data hc []
  have hrun : (e.run (3 * schema.weight + 2 + 1) data schema).run [] = .ok (r, calls) := h
  rw [hrun] at hout
  cases hfss : (e.fieldInstances data chains).mapM
      (e.instanceFailures (3 * schema.weight + 2) data schema) with
  | error f =>
    rw [hfss] at hout
    cases hout
  | ok fss =>
    rw [hfss] at hout
    simp only [Except.map, Except.ok.injEq] at hout
    exact ⟨chains, fss, hc, hfss, hout⟩

/-- A validation that succeeds reports its field instances' failures grouped by field. The
instances are the schema's patterns in declaration order, each resolved against the data; each
field that failed has one entry, in the order fields first failed, holding all its failures in
instance order. The outcome is valid exactly when the report is empty, that is when no instance
failed, and it keeps the configured response type. -/
theorem validate_groups_failures_by_field {data : Json} {schema : Schema} {r : Outcome}
    {calls : List String} (h : e.validate data schema = .ok (r, calls)) :
    ∃ chains fss,
      schema.entries.mapM e.registry.compileEntry = .ok chains ∧
      chains.map (·.1) = schema.entries.map (·.1) ∧
      (e.fieldInstances data chains).mapM
          (e.instanceFailures (3 * schema.weight + 2) data schema) = .ok fss ∧
      r.errors.entries =
        Bag.groupByField (((e.fieldInstances data chains).map (·.2.2.1)).zip fss) ∧
      (r.valid = true ↔ r.errors.entries = []) ∧
      (r.errors.entries = [] ↔ ∀ fs ∈ fss, fs = []) ∧
      r.responseType = e.config.responseType := by
  obtain ⟨chains, fss, hc, hfss, rfl⟩ := e.validate_ok_outcome h
  have hlen : fss.length = ((e.fieldInstances data chains).map (·.2.2.1)).length := by
    rw [List.length_map]
    exact mapM_ok_length hfss
  refine ⟨chains, fss, hc, Registry.mapM_compileEntry_patterns hc, hfss, rfl, ?_,
    Bag.groupByField_zip_eq_nil_iff (Nat.le_of_eq hlen), rfl⟩
  simp [Bag.isEmpty]

end Engine

/-- With the builtin rules, a field that two patterns reach has one entry holding the failures of
both, ahead of a field that only the wildcard reaches, and the outcome is not valid. -/
theorem overlapping_patterns_share_an_entry :
    ∃ r calls,
      Validator.new.validate default (.obj [("a", .bool true), ("b", .str "x")])
          ⟨[("a", .text "string"), ("*", .text "integer")]⟩ = .ok (r, calls) ∧
        r.errors.entries.map (fun f => (f.1, f.2.map (·.rule))) =
          [("a", ["string", "integer"]), ("b", ["integer"])] ∧
        r.valid = false := by
  have hrules : (Validator.new.validate default (.obj [("a", .bool true), ("b", .str "x")])
      ⟨[("a", .text "string"), ("*", .text "integer")]⟩).toOption.map
        (fun a => a.1.errors.entries.map fun f => (f.1, f.2.map (·.rule))) =
      some [("a", ["string", "integer"]), ("b", ["integer"])] := by
    decide +kernel
  cases hv : Validator.new.validate default (.obj [("a", .bool true), ("b", .str "x")])
      ⟨[("a", .text "string"), ("*", .text "integer")]⟩ with
  | error f =>
    rw [hv] at hrules
    cases hrules
  | ok a =>
    obtain ⟨r, calls⟩ := a
    rw [hv] at hrules
    have hentries : r.errors.entries.map (fun f => (f.1, f.2.map (·.rule))) =
        [("a", ["string", "integer"]), ("b", ["integer"])] := Option.some.inj hrules
    obtain ⟨_, _, -, -, -, -, hvalid, -, -⟩ := @Engine.validate_groups_failures_by_field
      ⟨Registry.builtins, Config.default, ⟨Catalog.empty, none⟩, default⟩ _ _ _ _ hv
    refine ⟨r, calls, rfl, hentries, ?_⟩
    cases hval : r.valid with
    | false => rfl
    | true =>
      rw [hvalid.1 hval] at hentries
      cases hentries

end FieldRules

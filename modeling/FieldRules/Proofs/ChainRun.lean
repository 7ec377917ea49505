import FieldRules.Proofs.Tally
import FieldRules.Proofs.ExceptMaps

namespace FieldRules

theorem failureMessage_isSome (ctx : Context) (h : Handler) (params : List String) (v : Verdict) :
    (failureMessage ctx h params v).isSome = v.isFailure := by
  cases v <;> rfl

/-- Whether a rule runs on a value: every rule runs on a present value, only an implicit one on
an absent or `null` value. -/
def CompiledRule.runsOn (present : Bool) (r : CompiledRule) : Bool := present || r.handler.implicit

/-- Whether the answer of a check ends its chain: a fault, a halt, or in bail mode a failure. -/
def endsChain (bail : Bool) : Except Fault (Verdict × List String) → Bool
  | .error _ => true
  | .ok (v, _) => v == .halt || (bail && v.isFailure)

namespace Engine

variable (e : Engine) (fuel : Nat) (inst : Instance) (chain : Chain) (bail : Bool)

/-- What the check of a rule of the chain answers on the instance, from an empty tally: its
verdict and the counted checks it made, or the fault that aborts the run. -/
def answer (r : CompiledRule) : Except Fault (Verdict × List String) :=
  (e.check fuel (e.context inst chain r) r.handler inst.value r.params).run []

/-- The failure a verdict records for a rule of the chain: the rule's message key and its
rendered message, for a failing verdict only. -/
def failureOf (r : CompiledRule) (v : Verdict) : Option Failure :=
  (failureMessage (e.context inst chain r) r.handler r.params v).map (⟨r.messageKey, ·⟩)

/-- The rules of a list that the chain checks on the instance: those that run on its value, in
order, up to and including the first whose answer ends the chain. -/
def invokedAmong (rules : List CompiledRule) : List CompiledRule :=
  let running := rules.filter (·.runsOn (!Check.isAbsent inst.value))
  running.take (running.findIdx (fun r => endsChain bail (e.answer fuel inst chain r)) + 1)

/-- The checks made on a list of rules, in order: each rule with its verdict and the counted
checks made inside it, or the first fault. -/
def checksOf (rules : List CompiledRule) :
    Except Fault (List (CompiledRule × Verdict × List String)) :=
  rules.mapM fun r => (e.answer fuel inst chain r).map fun a => (r, a)

/-- One turn of the chain loop: a rule that does not run keeps the failures; a rule that runs is
checked, adds its failure if it fails, and stops the loop when its answer ends the chain. -/
def turn (r : CompiledRule) (acc : Array Failure) :
    Except Fault (ForInStep (Array Failure) × List String) :=
  if r.runsOn (!Check.isAbsent inst.value) then
    (e.answer fuel inst chain r).map fun (v, calls) =>
      let acc' := match e.failureOf inst chain r v with
        | some f => acc.push f
        | none => acc
      (if endsChain bail (.ok (v, calls)) then .done acc' else .yield acc', calls)
  else .ok (.yield acc, [])

theorem failureOf_isSome (r : CompiledRule) (v : Verdict) :
    (e.failureOf inst chain r v).isSome = v.isFailure := by
  simp [failureOf, failureMessage_isSome]

theorem exists_failureOf {r : CompiledRule} {v : Verdict} (h : v.isFailure = true) :
    ∃ x, e.failureOf inst chain r v = some x :=
  Option.isSome_iff_exists.1 ((e.failureOf_isSome inst chain r v).trans h)

theorem failureOf_eq_none {r : CompiledRule} {v : Verdict} (h : v.isFailure = false) :
    e.failureOf inst chain r v = none := by
  simpa [h] using e.failureOf_isSome inst chain r v

theorem failureOf_rule {r : CompiledRule} {v : Verdict} {f : Failure}
    (h : e.failureOf inst chain r v = some f) : f.rule = r.messageKey := by
  obtain ⟨msg, -, rfl⟩ := Option.map_eq_some_iff.1 h
  rfl

theorem invokedAmong_nil : e.invokedAmong fuel inst chain bail [] = [] := rfl

theorem invokedAmong_cons (r : CompiledRule) (rs : List CompiledRule) :
    e.invokedAmong fuel inst chain bail (r :: rs) =
      if r.runsOn (!Check.isAbsent inst.value) then
        if endsChain bail (e.answer fuel inst chain r) then [r]
        else r :: e.invokedAmong fuel inst chain bail rs
      else e.invokedAmong fuel inst chain bail rs := by
  unfold invokedAmong
  by_cases hr : r.runsOn (!Check.isAbsent inst.value) <;>
    by_cases he : endsChain bail (e.answer fuel inst chain r) <;>
    simp [hr, he, List.findIdx_cons]

theorem invokedAmong_sublist (rules : List CompiledRule) :
    (e.invokedAmong fuel inst chain bail rules).Sublist rules :=
  (List.take_sublist _ _).trans List.filter_sublist

theorem runsOn_of_mem_invokedAmong {rules : List CompiledRule} {r : CompiledRule}
    (h : r ∈ e.invokedAmong fuel inst chain bail rules) :
    r.runsOn (!Check.isAbsent inst.value) = true :=
  (List.mem_filter.1 (List.mem_of_mem_take h)).2

theorem checksOf_cons (r : CompiledRule) (rs : List CompiledRule) :
    e.checksOf fuel inst chain (r :: rs) =
      (e.answer fuel inst chain r).bind fun a =>
        (e.checksOf fuel inst chain rs).map fun log => (r, a) :: log := by
  simp only [checksOf, List.mapM_cons]
  cases e.answer fuel inst chain r <;>
    cases List.mapM (fun r => (e.answer fuel inst chain r).map fun a => (r, a)) rs <;> rfl

/-- The chain loop, turn by turn: when each run of the loop body is one `turn`, the loop keeps
the failures of the checks made on the rules it invokes, and appends their counted checks. -/
theorem forIn_turns {body : CompiledRule → Array Failure → Eval (ForInStep (Array Failure))}
    (hbody : ∀ r acc t, (body r acc).run t =
      (e.turn fuel inst chain bail r acc).map fun p => (p.1, t ++ p.2))
    (rs : List CompiledRule) (acc : Array Failure) (t : List String) :
    ((forIn rs acc body).run t).map (fun p => (p.1.toList, p.2)) =
      (e.checksOf fuel inst chain (e.invokedAmong fuel inst chain bail rs)).map fun log =>
        (acc.toList ++ log.filterMap (fun c => e.failureOf inst chain c.1 c.2.1),
          t ++ log.flatMap (·.2.2)) := by
  induction rs generalizing acc t with
  | nil => simp [invokedAmong_nil, checksOf, Except.map, pure, Except.pure, StateT.run, StateT.pure]
  | cons r rs ih =>
    rw [List.forIn_cons, StateT.run_bind, hbody, invokedAmong_cons]
    by_cases hr : r.runsOn (!Check.isAbsent inst.value) = true
    · cases ha : e.answer fuel inst chain r with
      | error f =>
        have hturn : e.turn fuel inst chain bail r acc = .error f := by
          simp [turn, hr, ha, Except.map]
        simp [hturn, hr, ha, endsChain, checksOf_cons, Except.map, bind, Except.bind]
      | ok a =>
        obtain ⟨v, calls⟩ := a
        -- the failures after this rule: one more exactly when it fails
        have hacc : (match e.failureOf inst chain r v with
            | some f => acc.push f
            | none => acc).toList = acc.toList ++ (e.failureOf inst chain r v).toList := by
          cases e.failureOf inst chain r v <;> simp
        generalize hacc' : (match e.failureOf inst chain r v with
            | some f => acc.push f
            | none => acc) = acc' at hacc
        have hfm : [(r, v, calls)].filterMap (fun c => e.failureOf inst chain c.1 c.2.1) =
            (e.failureOf inst chain r v).toList := by
          cases hf : e.failureOf inst chain r v <;> simp [hf]
        by_cases hend : endsChain bail (.ok (v, calls)) = true
        · have hturn : e.turn fuel inst chain bail r acc = .ok (.done acc', calls) := by
            simp [turn, hr, ha, hend, Except.map, hacc']
          simp only [hturn, hr, hend, if_true, checksOf]
          simp [Except.map, bind, Except.bind, pure, Except.pure, StateT.run, StateT.pure, hacc, ha]
          exact hfm.symm
        · have hturn : e.turn fuel inst chain bail r acc = .ok (.yield acc', calls) := by
            simp [turn, hr, ha, hend, Except.map, hacc']
          have hrest := ih acc' (t ++ calls)
          simp only [Except.map] at hrest
          simp only [hturn, hr, ha, hend, checksOf_cons, Except.map, bind, Except.bind, if_true,
            if_false, Bool.false_eq_true]
          rw [hrest]
          cases e.checksOf fuel inst chain (e.invokedAmong fuel inst chain bail rs) with
          | error f => rfl
          | ok log => cases hf : e.failureOf inst chain r v <;> simp [hacc, hf]
    · have hturn : e.turn fuel inst chain bail r acc = .ok (.yield acc, []) := by
        simp [turn, hr]
      simp only [hturn, hr, Bool.false_eq_true, if_false, Except.map, bind, Except.bind,
        List.append_nil]
      simpa only [Except.map] using ih acc t

theorem run_forIn_toList {body : CompiledRule → Array Failure → Eval (ForInStep (Array Failure))}
    (hbody : ∀ r acc t, (body r acc).run t =
      (e.turn fuel inst chain bail r acc).map fun p => (p.1, t ++ p.2))
    (t : List String) :
    ((forIn chain.rules #[] body >>= fun failures => pure failures.toList) : Eval _).run t =
      (e.checksOf fuel inst chain (e.invokedAmong fuel inst chain bail chain.rules)).map fun log =>
        (log.filterMap (fun c => e.failureOf inst chain c.1 c.2.1), t ++ log.flatMap (·.2.2)) := by
  have h := e.forIn_turns fuel inst chain bail hbody chain.rules #[] t
  simp only [List.nil_append] at h
  rw [← h, StateT.run_bind]
  cases (forIn chain.rules #[] body).run t <;> rfl

/-- A chain run, from any tally: the checks made on the rules invoked, their failures in order,
and the tally followed by their counted checks. -/
theorem runChain_run (t : List String) :
    (e.runChain (fuel + 1) inst chain bail).run t =
      (e.checksOf fuel inst chain (e.invokedAmong fuel inst chain bail chain.rules)).map fun log =>
        (log.filterMap (fun c => e.failureOf inst chain c.1 c.2.1), t ++ log.flatMap (·.2.2)) := by
  rw [Engine.runChain.eq_2]
  apply e.run_forIn_toList
  intro r acc t
  dsimp only
  unfold turn
  by_cases hr : r.runsOn (!Check.isAbsent inst.value) = true
  · have hcond : (!Check.isAbsent inst.value || r.handler.implicit) = true := hr
    rw [if_pos hcond, if_pos hr, StateT.run_bind, e.check_appends]
    show Except.map _ (e.answer fuel inst chain r) >>= _ =
      Except.map _ (Except.map _ (e.answer fuel inst chain r))
    cases e.answer fuel inst chain r with
    | error f => rfl
    | ok a =>
      obtain ⟨v, calls⟩ := a
      simp only [Except.map, bind, Except.bind]
      cases v <;> cases bail <;> rfl
  · have hcond : ¬(!Check.isAbsent inst.value || r.handler.implicit) = true := hr
    rw [if_neg hcond, if_neg hr]
    simp [Except.map, StateT.run, pure, StateT.pure, Except.pure]

/-- In bail mode, the checks made record at most one failure: every rule checked before the last
passed or was skipped. -/
theorem bail_failures_length_le_one (rules : List CompiledRule)
    {log : List (CompiledRule × Verdict × List String)}
    (h : e.checksOf fuel inst chain (e.invokedAmong fuel inst chain true rules) = .ok log) :
    (log.filterMap fun c => e.failureOf inst chain c.1 c.2.1).length ≤ 1 := by
  induction rules generalizing log with
  | nil => cases h; simp
  | cons r rs ih =>
    rw [invokedAmong_cons] at h
    by_cases hr : r.runsOn (!Check.isAbsent inst.value) = true
    · cases ha : e.answer fuel inst chain r with
      | error f => simp [hr, ha, endsChain, checksOf_cons, Except.bind] at h
      | ok a =>
        obtain ⟨v, calls⟩ := a
        by_cases hend : endsChain true (.ok (v, calls)) = true
        · simp only [hr, ha, hend, if_true, checksOf, List.mapM_cons, List.mapM_nil] at h
          cases h
          cases hf : e.failureOf inst chain r v <;> simp [hf]
        · -- a rule that does not end a bail-mode chain did not fail
          have hpass : e.failureOf inst chain r v = none :=
            e.failureOf_eq_none inst chain (by simpa [endsChain] using hend : _ ∧ _).2
          simp only [hr, ha, hend, if_true, if_false, Bool.false_eq_true, checksOf_cons,
            Except.bind] at h
          cases hrest : e.checksOf fuel inst chain (e.invokedAmong fuel inst chain true rs) with
          | error f => simp [hrest, Except.map] at h
          | ok log' =>
            simp only [hrest, Except.map, Except.ok.injEq] at h
            subst h
            simpa [hpass] using ih hrest
    · simp only [hr, Bool.false_eq_true, if_false] at h
      exact ih h

/-- A chain run on a field instance checks, in execution order, the rules that run on its value
(all of them for a present value, only the implicit ones for an absent or `null` value), up to
and including the first that halts, faults, or fails in bail mode. Its failures are one per
failing rule checked, in order, and its counted checks follow the tally it started from; in bail
mode it records at most one failure. -/
theorem runChain_checks_running_rules (t : List String) :
    (e.runChain (fuel + 1) inst chain bail).run t =
        (e.checksOf fuel inst chain (e.invokedAmong fuel inst chain bail chain.rules)).map
          (fun log => (log.filterMap fun c => e.failureOf inst chain c.1 c.2.1,
            t ++ log.flatMap (·.2.2))) ∧
      (∀ r ∈ e.invokedAmong fuel inst chain bail chain.rules,
        r.handler.implicit = true ∨ Check.isAbsent inst.value = false) ∧
      (bail = true → ∀ fs t', (e.runChain (fuel + 1) inst chain bail).run t = .ok (fs, t') →
        fs.length ≤ 1) := by
  refine ⟨e.runChain_run fuel inst chain bail t, fun r hr => ?_, fun hbail fs t' hrun => ?_⟩
  · have hruns := e.runsOn_of_mem_invokedAmong fuel inst chain bail hr
    simp only [CompiledRule.runsOn, Bool.or_eq_true, Bool.not_eq_true'] at hruns
    exact hruns.symm
  · subst hbail
    rw [e.runChain_run] at hrun
    cases hlog : e.checksOf fuel inst chain (e.invokedAmong fuel inst chain true chain.rules) with
    | error f => simp [hlog, Except.map] at hrun
    | ok log =>
      simp only [hlog, Except.map, Except.ok.injEq, Prod.mk.injEq] at hrun
      rw [← hrun.1]
      exact e.bail_failures_length_le_one fuel inst chain chain.rules hlog

end Engine

/-- Under bail mode, the chain of `string|email` run on a number records the failure of `string`
alone. -/
theorem bail_chain_records_first_failure :
    ∃ chain fs t, Registry.builtins.compile "email" [⟨"string", []⟩, ⟨"email", []⟩] = .ok chain ∧
      ((⟨Registry.builtins, Config.default, ⟨Catalog.empty, none⟩, default⟩ : Engine).runChain 3
        ⟨.obj [("email", .num (.nat 5))], ⟨[("email", .text "string|email")]⟩, "email", "email",
          some (.num (.nat 5))⟩ chain true).run [] = .ok (fs, t) ∧ fs.length ≤ 1 := by
  have h : ((Registry.builtins.compile "email" [⟨"string", []⟩, ⟨"email", []⟩]).toOption.bind
      fun chain => (((⟨Registry.builtins, Config.default, ⟨Catalog.empty, none⟩, default⟩ : Engine).runChain 3
        ⟨.obj [("email", .num (.nat 5))], ⟨[("email", .text "string|email")]⟩, "email", "email",
          some (.num (.nat 5))⟩ chain true).run []).toOption.map fun r => r.1.length) = some 1 := by
    decide +kernel
  obtain ⟨chain, hchain, hrun⟩ := Option.bind_eq_some_iff.1 h
  obtain ⟨⟨fs, t⟩, hr, -⟩ := Option.map_eq_some_iff.1 hrun
  have hrun' := eq_ok_of_toOption hr
  exact ⟨chain, fs, t, eq_ok_of_toOption hchain, hrun',
    (Engine.runChain_checks_running_rules _ 2 _ _ true []).2.2 rfl fs t hrun'⟩

end FieldRules

import FieldRules.Proofs.SchemaKeys

namespace FieldRules

/-- The field instance a check runs on. -/
def Context.inst (ctx : Context) : Instance :=
  ⟨ctx.data, ctx.schema, ctx.pattern, ctx.field, ctx.value⟩

/-- The verdict of a union on the answers of the sets it tried: a pass when one of them passed,
else a failure listing the display of every set. -/
def unionVerdict (sets : List RuleSet) (log : List (RuleSet × Bool × List String)) : Verdict :=
  if log.any (·.2.1) then .pass
  else .failWith [("formats", ", ".intercalate (sets.map (·.display)))]

/-- Whether the answer of a rule set ends the trying: a fault, or a pass when trying stops at the
first pass. -/
def endsTrying (stop : Bool) : Except Fault (Bool × List String) → Bool
  | .error _ => true
  | .ok (passed, _) => stop && passed

namespace Engine

variable (e : Engine) (fuel : Nat) (ctx : Context)

/-- What a rule set answers on its own: its rules built into a chain for the union's pattern and
run in bail mode on the union's instance, passing when the run records no failure, with the
counted checks it made; or the fault of building or running it. -/
def setAnswer (set : RuleSet) : Except Fault (Bool × List String) :=
  (e.registry.compile ctx.pattern set.rules).bind fun chain =>
    ((e.runChain fuel ctx.inst chain true).run []).map fun r => (r.1.isEmpty, r.2)

/-- The rule sets a union tries: the non-empty ones, in order, up to and including the first
whose answer ends the trying. -/
def triedSets (stop : Bool) (sets : List RuleSet) : List RuleSet :=
  let nonEmpty := sets.filter (!·.rules.isEmpty)
  nonEmpty.take (nonEmpty.findIdx (fun s => endsTrying stop (e.setAnswer fuel ctx s)) + 1)

/-- The answers of rule sets, in order, or the first fault. -/
def setAnswers (sets : List RuleSet) : Except Fault (List (RuleSet × Bool × List String)) :=
  sets.mapM fun s => (e.setAnswer fuel ctx s).map fun a => (s, a)

/-- One turn of the loop over the rule sets: an empty set leaves the loop as it is; another set
is answered, a pass is remembered, and a pass ends the loop when trying stops at the first. -/
def setTurn (stop : Bool) (set : RuleSet) (matched : Bool) :
    Except Fault (ForInStep Bool × List String) :=
  if !set.rules.isEmpty then
    (e.setAnswer fuel ctx set).map fun (passed, calls) =>
      (if stop && passed then .done (matched || passed) else .yield (matched || passed), calls)
  else .ok (.yield matched, [])

variable {e fuel ctx}

theorem triedSets_nil (stop : Bool) : e.triedSets fuel ctx stop [] = [] := rfl

theorem triedSets_cons (stop : Bool) (s : RuleSet) (ss : List RuleSet) :
    e.triedSets fuel ctx stop (s :: ss) =
      if !s.rules.isEmpty then
        if endsTrying stop (e.setAnswer fuel ctx s) then [s] else s :: e.triedSets fuel ctx stop ss
      else e.triedSets fuel ctx stop ss := by
  unfold triedSets
  by_cases hs : (!s.rules.isEmpty) = true <;>
    by_cases he : endsTrying stop (e.setAnswer fuel ctx s) = true <;>
    simp [hs, he, List.findIdx_cons]

theorem setAnswers_cons (s : RuleSet) (ss : List RuleSet) :
    e.setAnswers fuel ctx (s :: ss) =
      (e.setAnswer fuel ctx s).bind fun a =>
        (e.setAnswers fuel ctx ss).map fun log => (s, a) :: log := by
  simp only [setAnswers, List.mapM_cons]
  cases e.setAnswer fuel ctx s <;> cases ss.mapM fun s => (e.setAnswer fuel ctx s).map fun a => (s, a) <;>
    rfl

/-- The loop over the rule sets, turn by turn: when each run of the loop body is one `setTurn`,
the loop answers the sets tried, in order, remembers whether one of them passed, and appends
their counted checks. -/
theorem forIn_setTurns {stop : Bool} {body : RuleSet → Bool → Eval (ForInStep Bool)}
    (hbody : ∀ set m t, (body set m).run t =
      (e.setTurn fuel ctx stop set m).map fun p => (p.1, t ++ p.2))
    (sets : List RuleSet) (m : Bool) (t : List String) :
    (forIn sets m body).run t =
      (e.setAnswers fuel ctx (e.triedSets fuel ctx stop sets)).map fun log =>
        (m || log.any (·.2.1), t ++ log.flatMap (·.2.2)) := by
  induction sets generalizing m t with
  | nil => simp [triedSets_nil, setAnswers, Except.map, pure, Except.pure, StateT.run, StateT.pure]
  | cons s ss ih =>
    rw [List.forIn_cons, StateT.run_bind, hbody, triedSets_cons]
    by_cases hs : (!s.rules.isEmpty) = true
    · cases ha : e.setAnswer fuel ctx s with
      | error f =>
        have hturn : e.setTurn fuel ctx stop s m = .error f := by simp [setTurn, hs, ha, Except.map]
        simp [hturn, hs, ha, endsTrying, setAnswers_cons, Except.map, bind, Except.bind]
      | ok a =>
        obtain ⟨passed, calls⟩ := a
        by_cases hend : (stop && passed) = true
        · -- trying stops right after this set, which passed
          obtain ⟨rfl, rfl⟩ := Bool.and_eq_true_iff.1 hend
          have hturn : e.setTurn fuel ctx true s m = .ok (.done true, calls) := by
            simp [setTurn, hs, ha, Except.map]
          simp [hturn, hs, ha, endsTrying, setAnswers, Except.map, bind, Except.bind, pure,
            Except.pure, StateT.run, StateT.pure]
        · have hturn : e.setTurn fuel ctx stop s m = .ok (.yield (m || passed), calls) := by
            simp [setTurn, hs, ha, hend, Except.map]
          have hrest := ih (m || passed) (t ++ calls)
          simp only [hturn, hs, ha, endsTrying, hend, if_true, if_false, Bool.false_eq_true,
            setAnswers_cons, Except.map, bind, Except.bind]
          rw [hrest]
          cases e.setAnswers fuel ctx (e.triedSets fuel ctx stop ss) with
          | error f => rfl
          | ok log => simp only [Bool.or_assoc, List.append_assoc]; rfl
    · have hturn : e.setTurn fuel ctx stop s m = .ok (.yield m, []) := by simp [setTurn, hs]
      simp only [hturn, hs, Bool.false_eq_true, if_false, Except.map, bind, Except.bind,
        List.append_nil]
      simpa only [Except.map] using ih m t

/-- The answers of the sets tried, one step in: an empty set is not tried; a non-empty set is
answered, and the rest is tried after it unless its answer ends the trying. -/
theorem setAnswers_triedSets_cons {stop : Bool} {s : RuleSet} {ss : List RuleSet}
    {log : List (RuleSet × Bool × List String)}
    (h : e.setAnswers fuel ctx (e.triedSets fuel ctx stop (s :: ss)) = .ok log) :
    (s.rules = [] ∧ e.setAnswers fuel ctx (e.triedSets fuel ctx stop ss) = .ok log) ∨
    ∃ passed calls, s.rules ≠ [] ∧ e.setAnswer fuel ctx s = .ok (passed, calls) ∧
      ((stop && passed) = true ∧ log = [(s, passed, calls)] ∨
        (stop && passed) = false ∧ ∃ log', e.setAnswers fuel ctx (e.triedSets fuel ctx stop ss) =
          .ok log' ∧ log = (s, passed, calls) :: log') := by
  rw [triedSets_cons] at h
  by_cases hs : (!s.rules.isEmpty) = true
  · have hne : s.rules ≠ [] := by simpa using hs
    cases ha : e.setAnswer fuel ctx s with
    | error f => simp [hs, ha, endsTrying, setAnswers_cons, Except.bind] at h
    | ok a =>
      obtain ⟨passed, calls⟩ := a
      refine .inr ⟨passed, calls, hne, rfl, ?_⟩
      cases hend : stop && passed
      · cases hrest : e.setAnswers fuel ctx (e.triedSets fuel ctx stop ss) with
        | error f =>
          simp [hs, ha, endsTrying, hend, setAnswers_cons, hrest, Except.bind, Except.map] at h
        | ok log' =>
          simp only [hs, ha, endsTrying, hend, if_true, if_false, Bool.false_eq_true,
            setAnswers_cons, hrest, Except.bind, Except.map, Except.ok.injEq] at h
          exact .inr ⟨rfl, log', rfl, h.symm⟩
      · have hnone : e.setAnswers fuel ctx [] = .ok [] := rfl
        simp only [hs, ha, endsTrying, hend, if_true] at h
        rw [setAnswers_cons, ha, Except.bind, hnone] at h
        exact .inl ⟨rfl, (Except.ok.inj h).symm⟩
  · have hnil : s.rules = [] := by simpa using hs
    simp only [hs, Bool.false_eq_true, if_false] at h
    exact .inl ⟨hnil, h⟩

/-- The union passes exactly when some non-empty set passes on its own, whether or not trying
stops at the first pass: a set tried passed, or else the sets not tried come after one that
passed. -/
theorem any_tried_iff {stop : Bool} {sets : List RuleSet} {log : List (RuleSet × Bool × List String)}
    (h : e.setAnswers fuel ctx (e.triedSets fuel ctx stop sets) = .ok log) :
    log.any (·.2.1) = true ↔
      ∃ s ∈ sets, s.rules ≠ [] ∧ ∃ calls, e.setAnswer fuel ctx s = .ok (true, calls) := by
  induction sets generalizing log with
  | nil =>
    cases h
    simp
  | cons s ss ih =>
    rcases setAnswers_triedSets_cons h with ⟨hnil, hrest⟩ | ⟨passed, calls, hne, ha, hcase⟩
    · -- an empty set never passes
      rw [ih hrest]
      simp [hnil]
    · rcases hcase with ⟨hend, rfl⟩ | ⟨-, log', hrest, rfl⟩
      · obtain ⟨-, rfl⟩ := Bool.and_eq_true_iff.1 hend
        simp only [List.any_cons, List.any_nil, Bool.or_false, true_iff]
        exact ⟨s, List.mem_cons_self, hne, calls, ha⟩
      · rw [List.any_cons, Bool.or_eq_true, ih hrest]
        simp [ha, hne, exists_eq_or_imp]

theorem tried_fail_but_last {sets : List RuleSet} {log : List (RuleSet × Bool × List String)}
    (h : e.setAnswers fuel ctx (e.triedSets fuel ctx true sets) = .ok log) :
    ∀ x ∈ log.dropLast, x.2.1 = false := by
  induction sets generalizing log with
  | nil =>
    cases h
    simp
  | cons s ss ih =>
    rcases setAnswers_triedSets_cons h with ⟨-, hrest⟩ | ⟨passed, calls, -, -, hcase⟩
    · exact ih hrest
    · rcases hcase with ⟨-, rfl⟩ | ⟨hend, log', hrest, rfl⟩
      · simp
      · intro x hx
        cases log' with
        | nil => simp at hx
        | cons y ys =>
          rw [List.dropLast_cons_cons, List.mem_cons] at hx
          rcases hx with rfl | hx
          · simpa using hend
          · exact ih hrest x hx

theorem tried_all_nonEmpty {sets : List RuleSet} {log : List (RuleSet × Bool × List String)}
    (h : e.setAnswers fuel ctx (e.triedSets fuel ctx false sets) = .ok log) :
    log.map (·.1) = sets.filter (!·.rules.isEmpty) := by
  induction sets generalizing log with
  | nil =>
    cases h
    rfl
  | cons s ss ih =>
    rcases setAnswers_triedSets_cons h with ⟨hnil, hrest⟩ | ⟨passed, calls, hne, -, hcase⟩
    · simp [hnil, ih hrest]
    · rcases hcase with ⟨hend, -⟩ | ⟨-, log', hrest, rfl⟩
      · simp at hend
      · have hs : (!s.rules.isEmpty) = true := by simpa using hne
        simp [hs, ih hrest]

theorem stop_of_length_le_one {params : List String} {stop : Bool}
    (h : unionStops params = .ok stop) (hlen : params.length ≤ 1) : stop = true := by
  unfold unionStops at h
  rw [List.getElem?_eq_none (by omega)] at h
  exact (Except.ok.inj h).symm

/-- A union whose parameters compiled, on any value and from any tally: with no rule set it
fails; else it answers the sets it tries, in order, passes when one of them passed and otherwise
fails with the displays of all its sets, and appends the counted checks of the sets tried. -/
theorem check_union_run {params : List String} {sets : List RuleSet} {stop : Bool}
    (hsets : unionSets ((params.head?).getD "") = .ok sets) (hstop : unionStops params = .ok stop)
    (v : Option Json) (t : List String) :
    (e.check (fuel + 1) ctx (.builtin .union) v params).run t =
      if sets = [] then .ok (.fail, t)
      else (e.setAnswers fuel ctx (e.triedSets fuel ctx stop sets)).map fun log =>
        (unionVerdict sets log, t ++ log.flatMap (·.2.2)) := by
  have hs : (unionSets ((params.head?).getD "")).mapError ctx.fault = .ok sets := by
    rw [hsets]
    rfl
  have hst : (unionStops params).mapError ctx.fault = .ok stop := by
    rw [hstop]
    rfl
  rw [Engine.check.eq_4, hs, hst, liftM_ok_bind, liftM_ok_bind]
  by_cases hnil : sets = []
  · subst hnil
    rfl
  · have hne : sets.isEmpty = false := List.isEmpty_eq_false_iff.2 hnil
    simp only [hne, Bool.false_eq_true, if_false, hnil]
    rw [StateT.run_bind, forIn_setTurns ?hbody sets false t]
    · cases e.setAnswers fuel ctx (e.triedSets fuel ctx stop sets) with
      | error f => rfl
      | ok log =>
        cases hany : log.any (·.2.1) <;> simp [hany, unionVerdict, Except.map, bind, Except.bind,
          pure, Except.pure, StateT.run, StateT.pure]
    · -- each turn builds the set's chain and runs it from the current tally
      intro set m u
      by_cases hset : (!set.rules.isEmpty) = true
      · simp only [hset, if_true, setTurn, setAnswer]
        cases hc : e.registry.compile ctx.pattern set.rules with
        | error f => rfl
        | ok chain =>
          rw [liftM_ok_bind, StateT.run_bind]
          change ((e.runChain fuel ctx.inst chain true).run u >>= _) = _
          rw [e.runChain_appends fuel ctx.inst chain true u]
          dsimp only [Except.bind]
          cases (e.runChain fuel ctx.inst chain true).run [] with
          | error f => rfl
          | ok r =>
            obtain ⟨fs, calls⟩ := r
            cases hfs : fs.isEmpty <;> cases stop <;> simp [hfs, Except.map, bind, Except.bind,
              pure, Except.pure, StateT.run, StateT.pure]
      · simp [hset, setTurn, Except.map, pure, Except.pure, StateT.run, StateT.pure]

/-- A union that compiled (a JSON array of rule sets, then an optional flag, `true` when absent)
is implicit, so it runs on absent values too. On any value and from any tally it fails when it
has no rule set; otherwise it answers the non-empty sets in order, each built for the union's
pattern and run in bail mode on the union's instance, until a fault or, when it stops at its
first pass, a pass. It passes exactly when some non-empty set passes on its own, and else fails
with the displays of all its sets; only the sets tried add counted checks. Stopping at the first
pass, every set tried before the last failed; going through every set, the sets tried are all
the non-empty ones. -/
theorem check_union_tries_sets {params : List String} {sets : List RuleSet} {stop : Bool}
    (hsets : unionSets ((params.head?).getD "") = .ok sets) (hstop : unionStops params = .ok stop)
    (v : Option Json) (t : List String) :
    (Handler.builtin .union).implicit = true ∧ (params.length ≤ 1 → stop = true) ∧
    (e.check (fuel + 1) ctx (.builtin .union) v params).run t =
      (if sets = [] then .ok (.fail, t)
      else (e.setAnswers fuel ctx (e.triedSets fuel ctx stop sets)).map fun log =>
        (unionVerdict sets log, t ++ log.flatMap (·.2.2))) ∧
    ∀ log, e.setAnswers fuel ctx (e.triedSets fuel ctx stop sets) = .ok log →
      (log.any (·.2.1) = true ↔
        ∃ s ∈ sets, s.rules ≠ [] ∧ ∃ calls, e.setAnswer fuel ctx s = .ok (true, calls)) ∧
      (stop = true → ∀ x ∈ log.dropLast, x.2.1 = false) ∧
      (stop = false → log.map (·.1) = sets.filter (!·.rules.isEmpty)) := by
  refine ⟨rfl, stop_of_length_le_one hstop, check_union_run hsets hstop v t, fun log h => ?_⟩
  refine ⟨any_tried_iff h, ?_, ?_⟩
  · rintro rfl
    exact tried_fail_but_last h
  · rintro rfl
    exact tried_all_nonEmpty h

end Engine

/-- A union of a text set and a number set, without a flag, checked on a text with the builtin
rules: its rule sets read, it stops at its first pass, and it tries its sets as stated. -/
theorem union_of_two_sets_tries_in_order :
    let e : Engine := ⟨Registry.builtins, Config.default, ⟨Catalog.empty, none⟩, default⟩
    let ctx := e.context ⟨.obj [("x", .str "a")], ⟨[]⟩, "x", "x", some (.str "a")⟩ ⟨none, []⟩ default
    let params := ["[[\"string\"],[\"number\"]]"]
    ∃ sets, unionSets ((params.head?).getD "") = .ok sets ∧ unionStops params = .ok true ∧
      (Handler.builtin .union).implicit = true ∧ (params.length ≤ 1 → true = true) ∧
      (e.check (1 + 1) ctx (.builtin .union) (some (.str "a")) params).run [] =
        (if sets = [] then .ok (.fail, [])
        else (e.setAnswers 1 ctx (e.triedSets 1 ctx true sets)).map fun log =>
          (unionVerdict sets log, [] ++ log.flatMap (·.2.2))) ∧
      ∀ log, e.setAnswers 1 ctx (e.triedSets 1 ctx true sets) = .ok log →
        (log.any (·.2.1) = true ↔
          ∃ s ∈ sets, s.rules ≠ [] ∧ ∃ calls, e.setAnswer 1 ctx s = .ok (true, calls)) ∧
        (true = true → ∀ x ∈ log.dropLast, x.2.1 = false) ∧
        (true = false → log.map (·.1) = sets.filter (!·.rules.isEmpty)) := by
  intro e ctx params
  obtain ⟨sets, hsets, -⟩ := exists_ok_of_toOption_map
    (by decide +kernel : (unionSets ((params.head?).getD "")).toOption.map List.length = some 2)
  exact ⟨sets, hsets, rfl, Engine.check_union_tries_sets hsets rfl (some (.str "a")) []⟩

end FieldRules

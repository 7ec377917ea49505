import FieldRules.Proofs.Registries
import FieldRules.Proofs.ChainRun
import FieldRules.Proofs.Run
import FieldRules.Proofs.BuildFaults
import FieldRules.Proofs.ReportShapes

namespace FieldRules

/-- The context with bail mode set as given. -/
def Context.withBail (ctx : Context) (b : Bool) : Context :=
  { ctx with config := { ctx.config with bail := b } }

/-- The engine with bail mode set as given. -/
def Engine.withBail (e : Engine) (b : Bool) : Engine :=
  { e with config := { e.config with bail := b } }

/-- A custom predicate that does not read the options of the run from its context. -/
def CustomRule.IgnoresConfig (c : CustomRule) : Prop :=
  ∀ w params (ctx : Context) cfg, c.predicate w params { ctx with config := cfg } =
    c.predicate w params ctx

/-- A failure like another: of the same rule, and with the same message unless the rule is
`shape`, whose message lists the failures of a nested run. -/
def Failure.Resembles (x' x : Failure) : Prop :=
  x'.rule = x.rule ∧ (x.rule ≠ "shape" → x'.message = x.message)

theorem Failure.Resembles.refl (x : Failure) : x.Resembles x := ⟨rfl, fun _ => rfl⟩

/-- The verdicts of one rule under the two modes: the same, or, for the object table's `shape`,
two failures. -/
def Verdict.Matches (k : RuleKind) (v' v : Verdict) : Prop :=
  v' = v ∨ k = .additional .object "shape" ∧ v'.isFailure = true ∧ v.isFailure = true

section Answers

variable {α β γ : Type} {R S : α → β → Prop}

/-- `m'` answers wherever `m` does: when `m` gives a result from some tally, `m'` gives from every
tally a result that `R` relates to it. Faults of `m` and the tallies are not compared. -/
def Answers (R : α → β → Prop) (m' : Eval α) (m : Eval β) : Prop :=
  ∀ t b u, m.run t = .ok (b, u) → ∀ t', ∃ a u', m'.run t' = .ok (a, u') ∧ R a b

namespace Answers

theorem pure {a : α} {b : β} (h : R a b) : Answers R (Pure.pure a) (Pure.pure b) := by
  intro t b' u hm t'
  cases hm
  exact ⟨a, t', rfl, h⟩

theorem mono {m' : Eval α} {m : Eval β} (h : Answers R m' m) (hRS : ∀ a b, R a b → S a b) :
    Answers S m' m := by
  intro t b u hm t'
  obtain ⟨a, u', hm', hab⟩ := h t b u hm t'
  exact ⟨a, u', hm', hRS a b hab⟩

theorem bind {γ' γ : Type} {T : γ' → γ → Prop} {m' : Eval α} {m : Eval β} {f' : α → Eval γ'}
    {f : β → Eval γ} (hm : Answers R m' m) (hf : ∀ a b, R a b → Answers T (f' a) (f b)) :
    Answers T (m' >>= f') (m >>= f) := by
  intro t c u hrun t'
  rw [StateT.run_bind] at hrun
  cases hmt : m.run t with
  | error err =>
    rw [hmt] at hrun
    cases hrun
  | ok p =>
    obtain ⟨b, s⟩ := p
    rw [hmt] at hrun
    obtain ⟨a, s', hm', hab⟩ := hm t b s hmt t'
    obtain ⟨c', u', hf', hc⟩ := hf a b hab s c u hrun s'
    exact ⟨c', u', by rw [StateT.run_bind, hm']; exact hf', hc⟩

theorem lift_bind {γ' γ : Type} {T : γ' → γ → Prop} {x : Except Fault α} {f' : α → Eval γ'}
    {f : α → Eval γ} (hf : ∀ a, x = .ok a → Answers T (f' a) (f a)) :
    Answers T (liftM x >>= f') (liftM x >>= f) := by
  cases hx : x with
  | error err =>
    intro t c u hrun
    cases hrun
  | ok a =>
    have hrun : ∀ {δ : Type} (g : α → Eval δ), (liftM (Except.ok a : Except Fault α) >>= g) = g a :=
      fun g => rfl
    rw [hrun, hrun]
    exact hf a hx

theorem ite {c : Prop} [Decidable c] {m₁' m₂' : Eval α} {m₁ m₂ : Eval β}
    (h₁ : c → Answers R m₁' m₁) (h₂ : ¬c → Answers R m₂' m₂) :
    Answers R (if c then m₁' else m₂') (if c then m₁ else m₂) := by
  by_cases hc : c
  · simpa only [if_pos hc] using h₁ hc
  · simpa only [if_neg hc] using h₂ hc

theorem forIn {σ : Type} (xs : List γ) (init : σ) {body' body : γ → σ → Eval (ForInStep σ)}
    (h : ∀ x ∈ xs, ∀ s, Answers (· = ·) (body' x s) (body x s)) :
    Answers (· = ·) (ForIn.forIn xs init body') (ForIn.forIn xs init body) := by
  induction xs generalizing init with
  | nil => exact pure rfl
  | cons x xs ih =>
    rw [List.forIn_cons, List.forIn_cons]
    refine bind (h x List.mem_cons_self init) ?_
    rintro step _ rfl
    cases step with
    | done s => exact pure rfl
    | yield s => exact ih s fun x' hx' => h x' (List.mem_cons_of_mem x hx')

theorem of_appends {m : Eval α} (h : Appends m) : Answers (· = ·) m m := by
  intro t b u hrun t'
  rw [h t] at hrun
  cases hm : m.run [] with
  | error err => simp [hm, Except.map] at hrun
  | ok p => exact ⟨p.1, t' ++ p.2, by rw [h t', hm]; rfl, by simp [hm, Except.map] at hrun; exact hrun.1⟩

end Answers

end Answers

theorem run'_eq_ok {α : Type} {m : Eval α} {t : List String} {a : α} :
    m.run' t = .ok a ↔ ∃ u, m.run t = .ok (a, u) := by
  show Prod.fst <$> m.run t = _ ↔ _
  cases m.run t with
  | error f => simp [Functor.map, Except.map]
  | ok p => simp [Functor.map, Except.map, Prod.ext_iff, eq_comm]

/-- The failures of a chain under bail mode against those without: the first one, or none. -/
def Failure.KeepsFirst (fs' fs : List Failure) : Prop :=
  List.Forall₂ Failure.Resembles fs' (fs.take 1)

theorem Failure.keepsFirst_cons_iff {fs' : List Failure} {x : Failure} {xs : List Failure} :
    Failure.KeepsFirst fs' (x :: xs) ↔ ∃ x', fs' = [x'] ∧ x'.Resembles x := by
  simp [Failure.KeepsFirst, List.forall₂_cons_right_iff, and_comm]

theorem Failure.KeepsFirst.isEmpty_eq {fs' fs : List Failure} (h : Failure.KeepsFirst fs' fs) :
    fs'.isEmpty = fs.isEmpty := by
  cases fs with
  | nil => cases h; rfl
  | cons x xs =>
    obtain ⟨x', rfl, -⟩ := Failure.keepsFirst_cons_iff.1 h
    rfl

theorem Failure.KeepsFirst.eq_nil_iff {fs' fs : List Failure} (h : Failure.KeepsFirst fs' fs) :
    fs' = [] ↔ fs = [] := by
  rw [← List.isEmpty_iff, ← List.isEmpty_iff, h.isEmpty_eq]

theorem Failure.forall₂_keepsFirst_nil_iff {fss' fss : List (List Failure)}
    (h : List.Forall₂ Failure.KeepsFirst fss' fss) :
    (∀ fs ∈ fss', fs = []) ↔ ∀ fs ∈ fss, fs = [] := by
  induction h with
  | nil => simp
  | cons hx _ ih => simp only [List.forall_mem_cons, ih, hx.eq_nil_iff]

theorem Verdict.Matches.isFailure_eq {k : RuleKind} {v' v : Verdict} (h : Verdict.Matches k v' v) :
    v'.isFailure = v.isFailure := by
  rcases h with rfl | ⟨-, h', h⟩
  · rfl
  · rw [h', h]

theorem Verdict.Matches.eq_of_not_isFailure {k : RuleKind} {v' v : Verdict}
    (h : Verdict.Matches k v' v) (hv : v.isFailure = false) : v' = v := by
  rcases h with h | ⟨-, -, h⟩
  · exact h
  · rw [h] at hv
    cases hv

theorem Builtin.verdict_withBail (b : Builtin) (now : Calendar.Moment) (ctx : Context) (w : Json)
    (params : List String) (x : Bool) :
    b.verdict now (ctx.withBail x) w params = b.verdict now ctx w params := by
  cases b <;> rfl

section Handlers

variable {P : CustomRule → Prop}

theorem failureMessage_withBail {k : RuleKind} {h : Handler} (hh : Registry.HandlerOf P k h)
    (ctx : Context) (params : List String) (v : Verdict) (x : Bool) :
    failureMessage (ctx.withBail x) h params v = failureMessage ctx h params v := by
  cases h with
  | builtin b => cases b <;> rfl
  | extension ext =>
    obtain ⟨c, -, rfl⟩ := hh
    rfl

theorem CustomRule.check_withBail {c : CustomRule} (hc : c.IgnoresConfig) (v : Option Json)
    (params : List String) (ctx : Context) (x : Bool) :
    c.handler.check v params (ctx.withBail x) = c.handler.check v params ctx := by
  cases v with
  | none => rfl
  | some w =>
    show Except.ok (c.predicate w params (ctx.withBail x)).verdict =
      Except.ok (c.predicate w params ctx).verdict
    rw [Context.withBail, hc]

end Handlers

namespace Engine

variable (e : Engine)

theorem context_withBail (x : Bool) (inst : Instance) (chain : Chain) (r : CompiledRule) :
    (e.withBail x).context inst chain r = (e.context inst chain r).withBail x := rfl

theorem fieldInstances_withBail (x : Bool) : (e.withBail x).fieldInstances = e.fieldInstances := rfl

theorem check_extension_withBail {c : CustomRule} (hc : c.IgnoresConfig) (fuel : Nat)
    (ctx : Context) (v : Option Json) (params : List String) (x : Bool) :
    (e.withBail x).check (fuel + 1) (ctx.withBail x) (.extension c.handler) v params =
      e.check (fuel + 1) ctx (.extension c.handler) v params := by
  rw [Engine.check.eq_2, Engine.check.eq_2, CustomRule.check_withBail hc]

section Chain

variable {P : CustomRule → Prop} (e : Engine) (fuel : Nat) (inst : Instance) (chain : Chain)

theorem failureOf_withBail {r : CompiledRule} (hh : Registry.HandlerOf P r.kind r.handler)
    {v' v : Verdict} (hv : Verdict.Matches r.kind v' v) :
    Option.Rel Failure.Resembles ((e.withBail true).failureOf inst chain r v')
      (e.failureOf inst chain r v) := by
  rcases hv with rfl | ⟨hk, h', h⟩
  · have hsame : (e.withBail true).failureOf inst chain r v' = e.failureOf inst chain r v' := by
      simp only [failureOf, context_withBail, failureMessage_withBail hh]
    rw [hsame]
    cases e.failureOf inst chain r v' with
    | none => exact Option.Rel.none
    | some x => exact Option.Rel.some (Failure.Resembles.refl x)
  · -- two failures of `shape`, both under its message key
    obtain ⟨x', hx'⟩ := (e.withBail true).exists_failureOf inst chain h'
    obtain ⟨x, hx⟩ := e.exists_failureOf inst chain h
    have hkey : r.messageKey = "shape" := by simp [CompiledRule.messageKey, hk, RuleKind.messageKey]
    rw [hx', hx]
    refine Option.Rel.some ⟨?_, fun hne => absurd ?_ hne⟩
    · rw [failureOf_rule _ _ _ hx', failureOf_rule _ _ _ hx]
    · rw [failureOf_rule _ _ _ hx, hkey]

theorem checksOf_cons_eq_ok {r : CompiledRule} {rs : List CompiledRule}
    {log : List (CompiledRule × Verdict × List String)} :
    e.checksOf fuel inst chain (r :: rs) = .ok log ↔
      ∃ a rest, e.answer fuel inst chain r = .ok a ∧ e.checksOf fuel inst chain rs = .ok rest ∧
        log = (r, a) :: rest := by
  rw [checksOf_cons]
  cases e.answer fuel inst chain r <;> cases e.checksOf fuel inst chain rs <;>
    simp [Except.bind, Except.map, eq_comm]

/-- The checks of a chain under bail mode against those without: when every rule answers under
bail mode wherever it answers without, with a matching verdict, the checks under bail mode
succeed wherever the others do and keep their first failure, or none. The induction follows the
rules; the two runs agree up to the first failure, where the run under bail mode stops. -/
theorem checksOf_invoked_keepsFirst (b : Bool) (rules : List CompiledRule)
    (hh : ∀ r ∈ rules, Registry.HandlerOf P r.kind r.handler)
    (hans : ∀ r ∈ rules, ∀ v calls, e.answer fuel inst chain r = .ok (v, calls) →
      ∃ v' calls', (e.withBail true).answer fuel inst chain r = .ok (v', calls') ∧
        Verdict.Matches r.kind v' v)
    {log : List (CompiledRule × Verdict × List String)}
    (h : e.checksOf fuel inst chain (e.invokedAmong fuel inst chain b rules) = .ok log) :
    ∃ log', (e.withBail true).checksOf fuel inst chain
        ((e.withBail true).invokedAmong fuel inst chain true rules) = .ok log' ∧
      Failure.KeepsFirst (log'.filterMap fun c => (e.withBail true).failureOf inst chain c.1 c.2.1)
        (log.filterMap fun c => e.failureOf inst chain c.1 c.2.1) := by
  induction rules generalizing log with
  | nil =>
    cases h
    exact ⟨[], rfl, List.Forall₂.nil⟩
  | cons r rs ih =>
    have hh' := fun r' hr' => hh r' (List.mem_cons_of_mem r hr')
    have hans' := fun r' hr' => hans r' (List.mem_cons_of_mem r hr')
    rw [invokedAmong_cons] at h ⊢
    by_cases hr : r.runsOn (!Check.isAbsent inst.value) = true
    swap
    · simp only [hr, Bool.false_eq_true, if_false] at h ⊢
      exact ih hh' hans' h
    simp only [hr, if_true] at h ⊢
    -- whether or not it ends the chain, the run without bail checked `r` first
    have hhead : ∀ {a} (l : List CompiledRule), e.answer fuel inst chain r = .ok a →
        e.checksOf fuel inst chain (r :: l) = .ok log →
        ∃ rest, e.checksOf fuel inst chain l = .ok rest ∧ log = (r, a) :: rest := by
      intro a l ha hl
      obtain ⟨a₁, rest, ha₁, hrest, rfl⟩ := (e.checksOf_cons_eq_ok fuel inst chain).1 hl
      rw [ha] at ha₁
      cases ha₁
      exact ⟨rest, hrest, rfl⟩
    cases ha : e.answer fuel inst chain r with
    | error f =>
      -- a fault ends the chain, so the run without bail did not succeed
      have hend : endsChain b (e.answer fuel inst chain r) = true := by rw [ha]; rfl
      rw [if_pos hend] at h
      obtain ⟨a, -, ha₁, -, -⟩ := (e.checksOf_cons_eq_ok fuel inst chain).1 h
      rw [ha] at ha₁
      cases ha₁
    | ok a =>
      obtain ⟨v, calls⟩ := a
      obtain ⟨v', calls', ha', hm⟩ := hans r List.mem_cons_self v calls ha
      have hf := e.failureOf_withBail inst chain (hh r List.mem_cons_self) hm
      by_cases hfail : v.isFailure = true
      · -- the run under bail mode stops at this first failure
        have hend' : endsChain true ((e.withBail true).answer fuel inst chain r) = true := by
          rw [ha']
          simp [endsChain, hm.isFailure_eq, hfail]
        rw [if_pos hend']
        obtain ⟨rest, rfl⟩ : ∃ rest, log = (r, (v, calls)) :: rest := by
          split at h
          · exact (hhead _ ha h).imp fun _ hrest => hrest.2
          · exact (hhead _ ha h).imp fun _ hrest => hrest.2
        refine ⟨[(r, v', calls')],
          ((e.withBail true).checksOf_cons_eq_ok fuel inst chain).2 ⟨_, [], ha', rfl, rfl⟩, ?_⟩
        obtain ⟨x, hx⟩ := e.exists_failureOf inst chain hfail
        obtain ⟨x', hx'⟩ := (e.withBail true).exists_failureOf inst chain (hm.isFailure_eq.trans hfail)
        rw [hx, hx'] at hf
        cases hf with
        | some hres =>
          simp only [List.filterMap_cons, List.filterMap_nil, hx, hx']
          exact Failure.keepsFirst_cons_iff.2 ⟨x', rfl, hres⟩
      · -- a verdict that is not a failure is the same under both modes
        have hpass : v.isFailure = false := by simpa using hfail
        obtain rfl := hm.eq_of_not_isFailure hpass
        have hnone : e.failureOf inst chain r v' = none := e.failureOf_eq_none inst chain hpass
        have hnone' : (e.withBail true).failureOf inst chain r v' = none :=
          (e.withBail true).failureOf_eq_none inst chain hpass
        have hends : endsChain true ((e.withBail true).answer fuel inst chain r) =
            endsChain b (e.answer fuel inst chain r) := by
          rw [ha, ha']
          simp [endsChain, hpass]
        rw [hends]
        by_cases hend : endsChain b (e.answer fuel inst chain r) = true
        · rw [if_pos hend] at h ⊢
          obtain ⟨rest, hrest, rfl⟩ := hhead [] ha h
          cases hrest
          refine ⟨[(r, v', calls')],
            ((e.withBail true).checksOf_cons_eq_ok fuel inst chain).2 ⟨_, [], ha', rfl, rfl⟩, ?_⟩
          simp only [List.filterMap_cons, List.filterMap_nil, hnone, hnone']
          exact List.Forall₂.nil
        · rw [if_neg hend] at h ⊢
          obtain ⟨rest, hrest, rfl⟩ := hhead _ ha h
          obtain ⟨rest', hrest', hkeep⟩ := ih hh' hans' hrest
          refine ⟨(r, v', calls') :: rest',
            ((e.withBail true).checksOf_cons_eq_ok fuel inst chain).2 ⟨_, rest', ha', hrest', rfl⟩, ?_⟩
          simpa only [List.filterMap_cons, hnone, hnone'] using hkeep

/-- One chain under bail mode against the same chain without: where each of its rules answers
alike, the chain under bail mode succeeds wherever the other does and keeps its first failure. -/
theorem runChain_succ_keepsFirst (b : Bool)
    (hh : ∀ r ∈ chain.rules, Registry.HandlerOf P r.kind r.handler)
    (hans : ∀ r ∈ chain.rules, Answers (Verdict.Matches r.kind)
      ((e.withBail true).check fuel ((e.context inst chain r).withBail true) r.handler inst.value
        r.params)
      (e.check fuel (e.context inst chain r) r.handler inst.value r.params)) :
    Answers Failure.KeepsFirst ((e.withBail true).runChain (fuel + 1) inst chain true)
      (e.runChain (fuel + 1) inst chain b) := by
  intro t fs u hrun t'
  rw [runChain_run] at hrun
  cases hlog : e.checksOf fuel inst chain (e.invokedAmong fuel inst chain b chain.rules) with
  | error f =>
    rw [hlog] at hrun
    cases hrun
  | ok log =>
    rw [hlog] at hrun
    simp only [Except.map, Except.ok.injEq, Prod.mk.injEq] at hrun
    obtain ⟨rfl, -⟩ := hrun
    -- the answers of the rules are their checks from the empty tally
    have hans' : ∀ r ∈ chain.rules, ∀ v calls, e.answer fuel inst chain r = .ok (v, calls) →
        ∃ v' calls', (e.withBail true).answer fuel inst chain r = .ok (v', calls') ∧
          Verdict.Matches r.kind v' v :=
      fun r hr v calls ha => hans r hr [] v calls ha []
    obtain ⟨log', hlog', hkeep⟩ :=
      e.checksOf_invoked_keepsFirst fuel inst chain b chain.rules hh hans' hlog
    refine ⟨_, t' ++ log'.flatMap (·.2.2), ?_, hkeep⟩
    rw [runChain_run, hlog']
    rfl

end Chain

section Steps

variable {P : CustomRule → Prop} (e : Engine)

theorem check_answers_of_eq {fuel : Nat} {ctx : Context} {h : Handler} {v : Option Json}
    {params : List String}
    (heq : (e.withBail true).check fuel (ctx.withBail true) h v params = e.check fuel ctx h v params) :
    Answers (Verdict.Matches ctx.kind) ((e.withBail true).check fuel (ctx.withBail true) h v params)
      (e.check fuel ctx h v params) := by
  rw [heq]
  exact (Answers.of_appends (e.check_appends fuel ctx h v params)).mono fun _ _ h => Or.inl h

/-- A union tries its rule sets in bail mode under both modes, and a set fails under one mode
exactly when it fails under the other: the union's verdict is the same. -/
theorem check_union_answers (hr : e.registry.BuiltinsWith P) (fuel : Nat) (ctx : Context)
    (v : Option Json) (params : List String)
    (ih : ∀ chain : Chain, (∀ r ∈ chain.rules, Registry.HandlerOf P r.kind r.handler) →
      Answers Failure.KeepsFirst
        ((e.withBail true).runChain fuel ⟨ctx.data, ctx.schema, ctx.pattern, ctx.field, ctx.value⟩
          chain true)
        (e.runChain fuel ⟨ctx.data, ctx.schema, ctx.pattern, ctx.field, ctx.value⟩ chain true)) :
    Answers (· = ·) ((e.withBail true).check (fuel + 1) (ctx.withBail true) (.builtin .union) v params)
      (e.check (fuel + 1) ctx (.builtin .union) v params) := by
  rw [Engine.check.eq_4, Engine.check.eq_4]
  refine Answers.lift_bind fun sets _ => Answers.lift_bind fun stop _ => ?_
  refine Answers.ite (fun _ => Answers.pure rfl) fun _ => ?_
  dsimp only
  refine Answers.bind (Answers.forIn sets false fun set _ matched => ?_) ?_
  · refine Answers.ite (fun _ => Answers.lift_bind fun chain hchain => ?_) fun _ => Answers.pure rfl
    refine Answers.bind (ih chain fun r hr' => hr.compile_handlerOf hchain hr') fun fs' fs hkeep => ?_
    rw [hkeep.isEmpty_eq]
    refine Answers.ite (fun _ => ?_) fun _ => Answers.pure rfl
    exact Answers.ite (fun _ => Answers.pure rfl) fun _ => Answers.pure rfl
  · rintro matched _ rfl
    exact Answers.ite (fun _ => Answers.pure rfl) fun _ => Answers.pure rfl

/-- A `shape` rule runs its nested validation under the mode of the run: the nested run is valid
under bail mode exactly when it is without, so the verdict is the same or two failures. -/
theorem check_shape_answers (fuel : Nat) (ctx : Context) (params : List String)
    (fs : List (String × Json)) (hk : ctx.kind = .additional .object "shape")
    (ih : ∀ schema, Answers (fun o' o => o'.valid = o.valid)
      ((e.withBail true).run fuel (.obj fs) schema) (e.run fuel (.obj fs) schema)) :
    Answers (Verdict.Matches ctx.kind)
      ((e.withBail true).check (fuel + 1) (ctx.withBail true) (.builtin (.object .shape))
        (some (.obj fs)) params)
      (e.check (fuel + 1) ctx (.builtin (.object .shape)) (some (.obj fs)) params) := by
  rw [Engine.check.eq_6, Engine.check.eq_6]
  refine Answers.lift_bind fun schema _ => ?_
  intro t b u hrun t'
  simp only [StateT.run_bind, StateT.run_get, pure_bind] at hrun ⊢
  cases hn : (e.run fuel (.obj fs) schema).run t with
  | error err =>
    rw [hn] at hrun
    cases hrun
  | ok p =>
    obtain ⟨nested, t₁⟩ := p
    obtain ⟨nested', t₁', hn', hvalid⟩ := ih schema t nested t₁ hn t'
    rw [hn] at hrun
    rw [hn']
    dsimp only at hrun ⊢
    simp only [StateT.run_bind, StateT.run_set, pure_bind] at hrun ⊢
    by_cases hv : nested.valid = true
    · -- both nested runs valid: the rule passes under both modes
      have hv' : nested'.valid = true := hvalid.trans hv
      simp only [hv, hv', if_true, StateT.run_pure] at hrun ⊢
      cases hrun
      exact ⟨_, _, rfl, Or.inl rfl⟩
    · -- both invalid: two failures, whose details may differ
      have hv' : nested'.valid = false := hvalid.trans (by simpa using hv)
      simp only [hv, hv', Bool.false_eq_true, if_false, StateT.run_pure] at hrun ⊢
      cases hrun
      exact ⟨_, _, rfl, Or.inr ⟨hk, rfl, rfl⟩⟩

end Steps

section Run

variable (e : Engine)

/-- The outcome of a run whose schema compiled to `chains` and whose field instances recorded
`fss`, as `run_succ_outcome` describes it. -/
def outcomeOf (data : Json) (chains : List (String × Chain)) (fss : List (List Failure)) :
    Outcome :=
  let bag : Bag := ⟨Bag.groupByField (((e.fieldInstances data chains).map (·.2.2.1)).zip fss)⟩
  ⟨bag.isEmpty, ((chains.map (·.1)).flatMap (Path.resolve data)).foldl e.writeBack data, bag,
    e.config.responseType⟩

theorem run_succ_ok {fuel : Nat} {data : Json} {schema : Schema} {t u : List String}
    {o : Outcome} (h : (e.run (fuel + 1) data schema).run t = .ok (o, u)) :
    ∃ chains fss, schema.entries.mapM e.registry.compileEntry = .ok chains ∧
      (e.fieldInstances data chains).mapM (e.instanceFailures fuel data schema) = .ok fss ∧
      o = e.outcomeOf data chains fss := by
  obtain ⟨chains, hc⟩ : ∃ chains, schema.entries.mapM e.registry.compileEntry = .ok chains := by
    cases hc : schema.entries.mapM e.registry.compileEntry with
    | error f =>
      rw [e.run_of_compile_error hc] at h
      cases h
    | ok chains => exact ⟨chains, rfl⟩
  have hout := e.run_succ_outcome fuel data hc t
  rw [h] at hout
  cases hfss : (e.fieldInstances data chains).mapM (e.instanceFailures fuel data schema) with
  | error f =>
    rw [hfss] at hout
    cases hout
  | ok fss =>
    rw [hfss] at hout
    simp only [Except.map, Except.ok.injEq] at hout
    exact ⟨chains, fss, hc, hfss, hout⟩

theorem run_succ_of_ok {fuel : Nat} {data : Json} {schema : Schema}
    {chains : List (String × Chain)} {fss : List (List Failure)}
    (hc : schema.entries.mapM e.registry.compileEntry = .ok chains)
    (hfss : (e.fieldInstances data chains).mapM (e.instanceFailures fuel data schema) = .ok fss)
    (t : List String) :
    ∃ u, (e.run (fuel + 1) data schema).run t = .ok (e.outcomeOf data chains fss, u) := by
  have hout := e.run_succ_outcome fuel data hc t
  rw [hfss] at hout
  cases hrun : (e.run (fuel + 1) data schema).run t with
  | error f =>
    rw [hrun] at hout
    cases hout
  | ok p =>
    rw [hrun] at hout
    simp only [Except.map, Except.ok.injEq] at hout
    exact ⟨p.2, congrArg Except.ok (Prod.ext hout rfl)⟩

/-- Every field instance of a compiled schema, run under bail mode, succeeds wherever it does
without and keeps its first failure. -/
theorem instanceFailures_keepsFirst {P : CustomRule → Prop} (hr : e.registry.BuiltinsWith P)
    {fuel : Nat} {data : Json} {schema : Schema} {chains : List (String × Chain)}
    {fss : List (List Failure)}
    (ih : ∀ p c path v, (∀ r ∈ c.rules, Registry.HandlerOf P r.kind r.handler) →
      Answers Failure.KeepsFirst
        ((e.withBail true).runChain fuel ⟨data, schema, p, path, v⟩ c true)
        (e.runChain fuel ⟨data, schema, p, path, v⟩ c e.config.bail))
    (hc : schema.entries.mapM e.registry.compileEntry = .ok chains)
    (hfss : (e.fieldInstances data chains).mapM (e.instanceFailures fuel data schema) = .ok fss) :
    ∃ fss', (e.fieldInstances data chains).mapM
        ((e.withBail true).instanceFailures fuel data schema) = .ok fss' ∧
      List.Forall₂ Failure.KeepsFirst fss' fss := by
  refine mapM_ok_forall₂ (fun i hi fs hfs => ?_) hfss
  obtain ⟨p, c, path, v⟩ := i
  -- the chain of every instance is one the registry compiled
  obtain ⟨entry, -, hentry⟩ := mapM_ok_mem hc (e.mem_of_fieldInstances hi)
  obtain ⟨rules, hcomp⟩ := Registry.compileEntry_ok hentry
  obtain ⟨u, hrun⟩ := run'_eq_ok.1 hfs
  obtain ⟨fs', u', hrun', hkeep⟩ :=
    ih p c path v (fun r hr' => hr.compile_handlerOf hcomp hr') [] fs u hrun []
  exact ⟨fs', run'_eq_ok.2 ⟨u', hrun'⟩, hkeep⟩

theorem outcomeOf_valid_eq {data : Json} {chains : List (String × Chain)}
    {fss' fss : List (List Failure)} (hlen : fss.length = (e.fieldInstances data chains).length)
    (hkeep : List.Forall₂ Failure.KeepsFirst fss' fss) :
    ((e.withBail true).outcomeOf data chains fss').valid = (e.outcomeOf data chains fss).valid := by
  have hlen' : fss'.length ≤ ((e.fieldInstances data chains).map (·.2.2.1)).length := by
    rw [List.length_map, hkeep.length_eq, hlen]
  have hlen'' : fss.length ≤ ((e.fieldInstances data chains).map (·.2.2.1)).length := by
    rw [List.length_map, hlen]
  simp only [outcomeOf, Bag.isEmpty, fieldInstances_withBail]
  rw [Bool.eq_iff_iff, List.isEmpty_iff, List.isEmpty_iff, Bag.groupByField_zip_eq_nil_iff hlen',
    Bag.groupByField_zip_eq_nil_iff hlen'']
  exact Failure.forall₂_keepsFirst_nil_iff hkeep

theorem run_succ_answers {P : CustomRule → Prop} (hr : e.registry.BuiltinsWith P) (fuel : Nat)
    (data : Json) (schema : Schema)
    (ih : ∀ p c path v, (∀ r ∈ c.rules, Registry.HandlerOf P r.kind r.handler) →
      Answers Failure.KeepsFirst
        ((e.withBail true).runChain fuel ⟨data, schema, p, path, v⟩ c true)
        (e.runChain fuel ⟨data, schema, p, path, v⟩ c e.config.bail)) :
    Answers (fun o' o => o'.valid = o.valid) ((e.withBail true).run (fuel + 1) data schema)
      (e.run (fuel + 1) data schema) := by
  intro t o u hrun t'
  obtain ⟨chains, fss, hc, hfss, rfl⟩ := e.run_succ_ok hrun
  obtain ⟨fss', hfss', hkeep⟩ := e.instanceFailures_keepsFirst hr ih hc hfss
  obtain ⟨u', hrun'⟩ := (e.withBail true).run_succ_of_ok hc hfss' t'
  exact ⟨_, u', hrun', e.outcomeOf_valid_eq (mapM_ok_length hfss) hkeep⟩

end Run

section Simulation

variable (e : Engine)

/-- Bail mode along the three functions of the engine, by induction along them: wherever the
run without bail succeeds, so does the run under bail mode, and a run is valid under bail mode
exactly when it is without, a chain keeps its first failure, and a check gives the same verdict
or, for `shape`, two failures. -/
theorem bail_simulation (hr : e.registry.BuiltinsWith CustomRule.IgnoresConfig) :
    (∀ fuel data schema, Answers (fun o' o => o'.valid = o.valid)
      ((e.withBail true).run fuel data schema) (e.run fuel data schema)) ∧
    (∀ fuel inst chain b,
      (∀ r ∈ chain.rules, Registry.HandlerOf CustomRule.IgnoresConfig r.kind r.handler) →
      Answers Failure.KeepsFirst ((e.withBail true).runChain fuel inst chain true)
        (e.runChain fuel inst chain b)) ∧
    (∀ fuel ctx h v params, Registry.HandlerOf CustomRule.IgnoresConfig ctx.kind h →
      Answers (Verdict.Matches ctx.kind) ((e.withBail true).check fuel (ctx.withBail true) h v params)
        (e.check fuel ctx h v params)) := by
  refine Engine.run.mutual_induct e _ _ _ ?run0 ?run ?chain0 ?chain ?check0 ?ext1 ?ext2 ?ext3
    ?presence ?union ?absent ?shape ?shapeOther ?strictParams ?strictShape ?strictOther ?verdict
  case run0 =>
    intro data schema
    rw [Engine.run.eq_1, Engine.run.eq_1]
    exact Answers.pure rfl
  case run =>
    intro fuel data schema ih
    exact e.run_succ_answers hr fuel data schema ih
  case chain0 =>
    intro inst chain b _
    rw [Engine.runChain.eq_1, Engine.runChain.eq_1]
    exact Answers.pure List.Forall₂.nil
  case chain =>
    intro fuel inst chain b ih hh
    exact e.runChain_succ_keepsFirst fuel inst chain b hh fun r hr' => ih r (hh r hr')
  case check0 =>
    intro ctx h v params _
    rw [Engine.check.eq_1, Engine.check.eq_1]
    exact Answers.pure (Or.inl rfl)
  -- a custom predicate that ignores the options checks alike under both modes
  case ext1 =>
    intro n ctx x v params _ _ _ hh
    obtain ⟨c, hc, rfl⟩ := hh
    exact e.check_answers_of_eq (e.check_extension_withBail hc n ctx v params true)
  case ext2 =>
    intro n ctx x v params _ _ _ hh
    obtain ⟨c, hc, rfl⟩ := hh
    exact e.check_answers_of_eq (e.check_extension_withBail hc n ctx v params true)
  case ext3 =>
    intro n ctx x v params _ hh
    obtain ⟨c, hc, rfl⟩ := hh
    exact e.check_answers_of_eq (e.check_extension_withBail hc n ctx v params true)
  case presence =>
    intro fuel ctx v params r _
    exact e.check_answers_of_eq (by rw [Engine.check.eq_3, Engine.check.eq_3]; rfl)
  case union =>
    intro fuel ctx v params ih _
    exact (e.check_union_answers hr fuel ctx v params ih).mono fun _ _ h => Or.inl h
  case absent =>
    intro fuel ctx b params h₁ h₂ _
    exact e.check_answers_of_eq
      (by rw [Engine.check.eq_5 _ _ _ _ _ h₁ h₂, Engine.check.eq_5 _ _ _ _ _ h₁ h₂])
  case shape =>
    intro fuel ctx params fs ih hh
    exact e.check_shape_answers fuel ctx params fs (hh rfl) ih
  case shapeOther =>
    intro fuel ctx params w h _
    exact e.check_answers_of_eq
      (by rw [Engine.check.eq_7 _ _ _ _ _ h, Engine.check.eq_7 _ _ _ _ _ h])
  case strictParams =>
    intro fuel ctx params fs _ _
    exact e.check_answers_of_eq (by rw [Engine.check.eq_8, Engine.check.eq_8]; rfl)
  case strictShape =>
    intro fuel ctx params fs _ _
    exact e.check_answers_of_eq (by rw [Engine.check.eq_8, Engine.check.eq_8]; rfl)
  case strictOther =>
    intro fuel ctx params w h _
    exact e.check_answers_of_eq
      (by rw [Engine.check.eq_9 _ _ _ _ _ h, Engine.check.eq_9 _ _ _ _ _ h])
  case verdict =>
    intro fuel ctx params b w h₁ h₂ h₃ h₄ h₅ h₆ _
    refine e.check_answers_of_eq ?_
    rw [Engine.check.eq_10 _ _ _ _ _ _ h₁ h₂ h₃ h₄ h₅ h₆,
      Engine.check.eq_10 _ _ _ _ _ _ h₁ h₂ h₃ h₄ h₅ h₆, Builtin.verdict_withBail]
    rfl

end Simulation

end Engine

theorem eraseDups_of_nodup {α : Type} [BEq α] [LawfulBEq α] {l : List α} (h : l.Nodup) :
    l.eraseDups = l := by
  induction l with
  | nil => rfl
  | cons a as ih =>
    obtain ⟨ha, has⟩ := List.nodup_cons.1 h
    have hkeep : as.filter (fun b => !b == a) = as :=
      List.filter_eq_self.2 fun b hb => by
        have hne : b ≠ a := fun hba => ha (hba ▸ hb)
        simpa using hne
    rw [List.eraseDups_cons, hkeep, ih has]

namespace Bag

theorem failuresAt_eq_flatMap (outcomes : List (String × List Failure)) (f : String) :
    failuresAt outcomes f = outcomes.flatMap fun e => if e.1 = f then e.2 else [] := by
  induction outcomes with
  | nil => rfl
  | cons o os ih =>
    by_cases h : o.1 = f <;> simp [failuresAt, h, ← ih]

theorem groupByField_of_nodup {outcomes : List (String × List Failure)}
    (h : (outcomes.map (·.1)).Nodup) :
    groupByField outcomes = outcomes.filter (!·.2.isEmpty) := by
  have hfailed : (failedFields outcomes).Nodup := (List.filter_sublist.map _).nodup h
  rw [groupByField, eraseDups_of_nodup hfailed, failedFields, List.map_map]
  conv_rhs => rw [← List.map_id (outcomes.filter _)]
  refine List.map_congr_left fun o ho => ?_
  have hown := Assoc.flatMap_of_key h (fun fs : List Failure => fs) (List.mem_filter.1 ho).1
  simp [failuresAt_eq_flatMap, hown]

/-- The failed instances of distinct paths under bail mode against those without: the same
paths in the same order, each with one failure like the first of the other. -/
theorem forall₂_filter_zip {paths : List String} {fss' fss : List (List Failure)}
    (h : List.Forall₂ Failure.KeepsFirst fss' fss) :
    List.Forall₂ (fun o' o => o'.1 = o.1 ∧ ∃ x xs x', o.2 = x :: xs ∧ o'.2 = [x'] ∧ x'.Resembles x)
      ((paths.zip fss').filter (!·.2.isEmpty)) ((paths.zip fss).filter (!·.2.isEmpty)) := by
  induction h generalizing paths with
  | nil => simp
  | @cons fs' fs _ _ hkeep _ ih =>
    cases paths with
    | nil => simp
    | cons p ps =>
      simp only [List.zip_cons_cons, List.filter_cons, hkeep.isEmpty_eq]
      split
      · -- a failed instance: both keep it, with its first failure under bail mode
        rename_i hne
        obtain ⟨x, xs, rfl⟩ := List.exists_cons_of_ne_nil (by simpa using hne)
        obtain ⟨x', rfl, hx⟩ := Failure.keepsFirst_cons_iff.1 hkeep
        exact .cons ⟨rfl, x, xs, x', rfl, rfl, hx⟩ ih
      · exact ih

theorem lookup_of_forall₂ {R : List Failure → List Failure → Prop}
    {l' l : List (String × List Failure)} (h : List.Forall₂ (fun o' o => o'.1 = o.1 ∧ R o'.2 o.2) l' l) :
    l'.map (·.1) = l.map (·.1) ∧
      ∀ f fs, l.lookup f = some fs → ∃ fs', l'.lookup f = some fs' ∧ R fs' fs := by
  induction h with
  | nil => exact ⟨rfl, fun _ _ h => by cases h⟩
  | @cons o' o _ _ ho _ ih =>
    obtain ⟨k', v'⟩ := o'
    obtain ⟨k, v⟩ := o
    obtain ⟨hk, hR⟩ := ho
    simp only at hk hR
    subst hk
    refine ⟨by simp [ih.1], fun f fs hf => ?_⟩
    by_cases hk : f = k'
    · subst hk
      simp only [List.lookup_cons_self, Option.some.injEq] at hf ⊢
      exact ⟨v', rfl, hf ▸ hR⟩
    · have hk' : (f == k') = false := beq_eq_false_iff_ne.2 hk
      simp only [List.lookup_cons, hk'] at hf ⊢
      exact ih.2 f fs hf

end Bag

namespace Engine

theorem fieldInstances_paths (e : Engine) (data : Json) (chains : List (String × Chain)) :
    (e.fieldInstances data chains).map (·.2.2.1) =
      (chains.map (·.1)).flatMap fun p => (Path.resolve data p).map (·.1) := by
  simp [fieldInstances, resolveChains, List.map_flatMap, List.flatMap_map, Function.comp_def]

/-- Bail mode keeps each field's first failure. Validate the same data against the same schema
once without bail and once with it, with the builtin rules and custom predicates that do not
read the options, every field instance at a concrete path of its own. Wherever the run without
bail succeeds, the run with bail succeeds too, with the same verdict, the same data and the same
failed fields in the same order; each field holds one failure, of the rule that failed first
without bail and, unless that rule is `shape`, with its message. -/
theorem bail_keeps_first_failure {e : Engine}
    (hr : e.registry.BuiltinsWith CustomRule.IgnoresConfig) {data : Json} {schema : Schema}
    (hpaths : ((schema.entries.map (·.1)).flatMap fun p => (Path.resolve data p).map (·.1)).Nodup)
    {r : Outcome} {calls : List String}
    (h : (e.withBail false).validate data schema = .ok (r, calls)) :
    ∃ r' calls', (e.withBail true).validate data schema = .ok (r', calls') ∧
      r'.valid = r.valid ∧ r'.data = r.data ∧ r'.errors.fields = r.errors.fields ∧
      ∀ f fs, r.errors.get? f = some fs →
        ∃ x xs x', fs = x :: xs ∧ r'.errors.get? f = some [x'] ∧ x'.Resembles x := by
  set e₀ := e.withBail false
  have hr₀ : e₀.registry.BuiltinsWith CustomRule.IgnoresConfig := hr
  have hrun : (e₀.run (3 * schema.weight + 2 + 1) data schema).run [] = .ok (r, calls) := h
  obtain ⟨chains, fss, hc, hfss, rfl⟩ := e₀.run_succ_ok hrun
  -- every instance keeps its first failure under bail mode
  obtain ⟨fss', hfss', hkeep⟩ := e₀.instanceFailures_keepsFirst hr₀
    (fun p c path v hh => (e₀.bail_simulation hr₀).2.1 _ _ c _ hh) hc hfss
  obtain ⟨u', hrun'⟩ := (e₀.withBail true).run_succ_of_ok hc hfss' []
  have hval : (e.withBail true).validate data schema =
      .ok ((e₀.withBail true).outcomeOf data chains fss', u') := hrun'
  -- the instances have paths of their own, so each failed one is an entry of the report
  set paths := (e₀.fieldInstances data chains).map (·.2.2.1)
  have hlen : fss.length = paths.length := by rw [List.length_map, mapM_ok_length hfss]
  have hlen' : fss'.length = paths.length := hkeep.length_eq.trans hlen
  have hkeys : ((paths.zip fss).map (·.1)).Nodup := by
    rw [List.map_fst_zip (Nat.le_of_eq hlen.symm),
      show paths = _ from e₀.fieldInstances_paths data chains, Registry.mapM_compileEntry_patterns hc]
    exact hpaths
  have hkeys' : ((paths.zip fss').map (·.1)).Nodup := by
    rwa [List.map_fst_zip (Nat.le_of_eq hlen'.symm), ← List.map_fst_zip (Nat.le_of_eq hlen.symm)]
  have hgroup := @Bag.lookup_of_forall₂
    (fun fs' fs => ∃ x xs x', fs = x :: xs ∧ fs' = [x'] ∧ x'.Resembles x) _ _
    (@Bag.forall₂_filter_zip paths _ _ hkeep)
  rw [← Bag.groupByField_of_nodup hkeys', ← Bag.groupByField_of_nodup hkeys] at hgroup
  refine ⟨_, u', hval, e₀.outcomeOf_valid_eq (mapM_ok_length hfss) hkeep, rfl, hgroup.1, ?_⟩
  intro f fs hf
  obtain ⟨fs', hfs', x, xs, x', rfl, rfl, hx⟩ := hgroup.2 f fs hf
  exact ⟨x, xs, x', rfl, hfs', hx⟩

end Engine

/-- With the builtin rules, a number checked as a string and then as an email address fails both
rules without bail; under bail mode it keeps the failure of `string`, with its message. -/
theorem bail_keeps_first_email_failure :
    ∃ r calls, Validator.new.validate default (.obj [("email", .num (.nat 5))])
        ⟨[("email", .text "string|email")]⟩ = .ok (r, calls) ∧
      ∃ r' calls', Validator.new.validateWith default (.obj [("email", .num (.nat 5))])
          ⟨[("email", .text "string|email")]⟩ { Config.default with bail := true } = .ok (r', calls') ∧
        r'.valid = r.valid ∧ r'.data = r.data ∧ r'.errors.fields = r.errors.fields ∧
        ∀ f fs, r.errors.get? f = some fs →
          ∃ x xs x', fs = x :: xs ∧ r'.errors.get? f = some [x'] ∧ x'.Resembles x := by
  obtain ⟨⟨r, calls⟩, hv, -⟩ := exists_ok_of_toOption_map
    (by decide +kernel : (Validator.new.validate default (.obj [("email", .num (.nat 5))])
      ⟨[("email", .text "string|email")]⟩).toOption.map (fun a => a.1.valid) = some false)
  exact ⟨r, calls, hv, Engine.bail_keeps_first_failure
    (e := ⟨Registry.builtins, Config.default, ⟨Catalog.empty, none⟩, default⟩)
    (Registry.builtinsWith_foldl [] fun _ h => by cases h) (by decide +kernel) hv⟩

/-- Two ways the report under bail mode keeps more than the first failure of each field, with
the builtin rules. A `shape` failure lists the failures of its nested run, which runs under the
same mode: without bail both rules of the nested field fail, under bail mode only the first. And
one pattern can reach one path twice (`a.b` then `c`, and `a` then `b.c`): each instance keeps its
first failure, and the field holds both. -/
theorem bail_keeps_more_than_first_failure :
    (∃ r calls r' calls',
      Validator.new.validate default (.obj [("x", .obj [("a", .num (.nat 5))])])
          ⟨[("x", .text "shape:\x7b\"a\":\"string|email\"\x7d")]⟩ = .ok (r, calls) ∧
      Validator.new.validateWith default (.obj [("x", .obj [("a", .num (.nat 5))])])
          ⟨[("x", .text "shape:\x7b\"a\":\"string|email\"\x7d")]⟩ { Config.default with bail := true } =
        .ok (r', calls') ∧
      (r.errors.get? "x").map (List.map fun x => (x.rule, x.message)) = some [("shape",
        "The x field does not match the expected shape (a: The a field must be a string.; " ++
          "a: The a field must be a valid email address.).")] ∧
      (r'.errors.get? "x").map (List.map fun x => (x.rule, x.message)) = some [("shape",
        "The x field does not match the expected shape (a: The a field must be a string.).")]) ∧
    ∃ r' calls', Validator.new.validateWith default
        (.obj [("a.b", .obj [("c", .num (.nat 1))]), ("a", .obj [("b.c", .num (.nat 2))])])
        ⟨[("*.*", .text "string|email")]⟩ { Config.default with bail := true } = .ok (r', calls') ∧
      (r'.errors.get? "a.b.c").map (List.map fun x => (x.rule, x.message)) = some
        [("string", "The a.b.c field must be a string."),
          ("string", "The a.b.c field must be a string.")] := by
  refine ⟨?_, ?_⟩
  · obtain ⟨⟨r, calls⟩, hv, hx⟩ := exists_ok_of_toOption_map (by decide +kernel :
      (Validator.new.validate default (.obj [("x", .obj [("a", .num (.nat 5))])])
        ⟨[("x", .text "shape:\x7b\"a\":\"string|email\"\x7d")]⟩).toOption.map
          (fun a => (a.1.errors.get? "x").map (List.map fun x => (x.rule, x.message))) =
        some (some [("shape",
          "The x field does not match the expected shape (a: The a field must be a string.; " ++
            "a: The a field must be a valid email address.).")]))
    obtain ⟨⟨r', calls'⟩, hv', hx'⟩ := exists_ok_of_toOption_map (by decide +kernel :
      (Validator.new.validateWith default (.obj [("x", .obj [("a", .num (.nat 5))])])
        ⟨[("x", .text "shape:\x7b\"a\":\"string|email\"\x7d")]⟩
          { Config.default with bail := true }).toOption.map
          (fun a => (a.1.errors.get? "x").map (List.map fun x => (x.rule, x.message))) =
        some (some [("shape",
          "The x field does not match the expected shape (a: The a field must be a string.).")]))
    exact ⟨r, calls, r', calls', hv, hv', hx, hx'⟩
  · obtain ⟨⟨r', calls'⟩, hv', hx'⟩ := exists_ok_of_toOption_map (by decide +kernel :
      (Validator.new.validateWith default
        (.obj [("a.b", .obj [("c", .num (.nat 1))]), ("a", .obj [("b.c", .num (.nat 2))])])
        ⟨[("*.*", .text "string|email")]⟩ { Config.default with bail := true }).toOption.map
          (fun a => (a.1.errors.get? "a.b.c").map (List.map fun x => (x.rule, x.message))) =
        some (some [("string", "The a.b.c field must be a string."),
          ("string", "The a.b.c field must be a string.")]))
    exact ⟨r', calls', hv', hx'⟩

end FieldRules

import Mathlib
import FieldRules.Engine
import FieldRules.Proofs.Run

namespace FieldRules

variable {α β γ : Type} {P Q : Fault → Prop}

/-- Every fault the run aborts with, from any tally, satisfies `P`. -/
def AbortsOnly (P : Fault → Prop) (m : Eval α) : Prop := ∀ t f, m.run t = .error f → P f

namespace AbortsOnly

theorem of_pure (a : α) : AbortsOnly P (pure a : Eval α) := by
  intro t f h
  cases h

theorem of_throw {f : Fault} (h : P f) : AbortsOnly P (throw f : Eval α) := by
  intro t f' hf
  cases hf
  exact h

theorem of_lift {x : Except Fault α} (h : ∀ f, x = .error f → P f) :
    AbortsOnly P (liftM x : Eval α) := by
  intro t f hf
  cases x with
  | error f' =>
    cases hf
    exact h _ rfl
  | ok a => cases hf

theorem of_lift_bind {x : Except Fault α} {k : α → Eval β} (hx : ∀ f, x = .error f → P f)
    (hk : ∀ a, x = .ok a → AbortsOnly P (k a)) : AbortsOnly P (liftM x >>= k) := by
  intro t f h
  rw [StateT.run_bind] at h
  cases x with
  | error f' =>
    cases h
    exact hx _ rfl
  | ok a => exact hk a rfl t f h

theorem of_modify (g : List String → List String) : AbortsOnly P (modify g : Eval PUnit) := by
  intro t f h
  cases h

theorem bind {m : Eval α} {k : α → Eval β} (hm : AbortsOnly P m) (hk : ∀ a, AbortsOnly P (k a)) :
    AbortsOnly P (m >>= k) := by
  intro t f h
  rw [StateT.run_bind] at h
  cases hr : m.run t with
  | error f' =>
    rw [hr] at h
    cases h
    exact hm t _ hr
  | ok r =>
    rw [hr] at h
    exact hk r.1 r.2 f h

theorem ite {c : Prop} [Decidable c] {m₁ m₂ : Eval α} (h₁ : AbortsOnly P m₁)
    (h₂ : AbortsOnly P m₂) : AbortsOnly P (if c then m₁ else m₂) := by
  split <;> assumption

theorem mono {m : Eval α} (h : AbortsOnly P m) (hPQ : ∀ f, P f → Q f) : AbortsOnly Q m :=
  fun t f hf => hPQ f (h t f hf)

theorem forIn (xs : List β) (init : γ) {body : β → γ → Eval (ForInStep γ)}
    (h : ∀ x ∈ xs, ∀ b, AbortsOnly P (body x b)) : AbortsOnly P (ForIn.forIn xs init body) := by
  induction xs generalizing init with
  | nil => exact of_pure init
  | cons x xs ih =>
    rw [List.forIn_cons]
    refine bind (h x List.mem_cons_self init) fun step => ?_
    cases step with
    | done b => exact of_pure b
    | yield b => exact ih b fun y hy => h y (List.mem_cons_of_mem x hy)

end AbortsOnly

namespace Engine

variable (e : Engine)

/-- A run aborts only so when building its entries does, and the run of each chain they build
does on each of its field instances. -/
theorem run_succ_aborts {fuel : Nat} {data : Json} {schema : Schema}
    (hbuild : ∀ f, schema.entries.mapM e.registry.compileEntry = .error f → P f)
    (hrun : ∀ chains, schema.entries.mapM e.registry.compileEntry = .ok chains →
      ∀ p c path v, (p, c, path, v) ∈ e.fieldInstances data chains →
        AbortsOnly P (e.runChain fuel ⟨data, schema, p, path, v⟩ c e.config.bail)) :
    AbortsOnly P (e.run (fuel + 1) data schema) := by
  rw [Engine.run.eq_2]
  change AbortsOnly _ (liftM (schema.entries.mapM e.registry.compileEntry) >>= _)
  refine AbortsOnly.of_lift_bind hbuild fun chains hchains => ?_
  split
  next output insts hinsts =>
  rw [instances_eq] at hinsts
  cases hinsts
  -- the report loop: each instance runs its chain, then the bag records its failures
  refine AbortsOnly.bind (AbortsOnly.forIn _ _ fun inst hinst bag => ?_) fun bag =>
    AbortsOnly.of_pure _
  obtain ⟨p, c, path, v⟩ := inst
  exact AbortsOnly.bind (hrun chains hchains p c path v hinst) fun fs =>
    AbortsOnly.ite (AbortsOnly.of_pure _) (AbortsOnly.of_pure _)

theorem runChain_succ_aborts {fuel : Nat} {inst : Instance} {chain : Chain} {bail : Bool}
    (h : ∀ r ∈ chain.rules,
      AbortsOnly P (e.check fuel (e.context inst chain r) r.handler inst.value r.params)) :
    AbortsOnly P (e.runChain (fuel + 1) inst chain bail) := by
  rw [Engine.runChain.eq_2]
  refine AbortsOnly.bind (AbortsOnly.forIn _ _ fun r hr failures => ?_) fun failures =>
    AbortsOnly.of_pure _
  -- past the check of a rule that runs, the turn only records its verdict
  refine AbortsOnly.ite (AbortsOnly.bind (h r hr) fun verdict => ?_) (AbortsOnly.of_pure _)
  refine AbortsOnly.ite (AbortsOnly.of_pure _) ?_
  split
  · exact AbortsOnly.ite (AbortsOnly.of_pure _) (AbortsOnly.of_pure _)
  · exact AbortsOnly.of_pure _

/-- A nested schema's check aborts only where its schema does not read, or with the fault of the
nested run, wrapped with the field. -/
theorem check_shape_aborts {fuel : Nat} {ctx : Context} {fs : List (String × Json)}
    {params : List String}
    (hread : ∀ f, (Schema.ofText ((params.head?).getD "")).mapError ctx.fault = .error f → P f)
    (hnested : ∀ err, P (.schemaShape ctx.field err)) :
    AbortsOnly P (e.check (fuel + 1) ctx (.builtin (.object .shape)) (some (.obj fs)) params) := by
  rw [Engine.check.eq_6]
  refine AbortsOnly.of_lift_bind hread fun schema _ => ?_
  intro t f hf
  simp only [StateT.run_bind, StateT.run_get, pure_bind] at hf
  split at hf
  · next nested tally _ =>
    -- a nested run that ends gives a verdict, whichever
    by_cases hv : nested.valid = true
    · simp [hv, StateT.run, set, StateT.set, pure, StateT.pure, bind, StateT.bind,
        Except.bind, Except.pure] at hf
    · simp [hv, StateT.run, set, StateT.set, pure, StateT.pure, bind, StateT.bind,
        Except.bind, Except.pure] at hf
  · cases hf
    exact hnested _

end Engine

end FieldRules

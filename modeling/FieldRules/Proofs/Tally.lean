import Mathlib
import FieldRules.Engine

namespace FieldRules

variable {α β γ : Type}

/-- A run that only appends to the tally: from any tally `t` it gives its result from the empty
tally, with `t` in front of the tally it ends with. -/
def Appends (m : Eval α) : Prop :=
  ∀ t, m.run t = (m.run []).map fun r => (r.1, t ++ r.2)

namespace Appends

theorem of_pure (a : α) : Appends (pure a : Eval α) := by
  intro t
  simp [Except.map, pure, Except.pure, StateT.run, StateT.pure]

theorem of_throw (f : Fault) : Appends (throw f : Eval α) := fun _ => rfl

theorem of_lift (x : Except Fault α) : Appends (liftM x : Eval α) := by
  intro t
  cases x <;> simp [Except.map, liftM, monadLift, MonadLift.monadLift, StateT.lift, StateT.run,
    bind, Except.bind, pure, Except.pure]

theorem of_modify_append (l : List String) : Appends (modify (· ++ l) : Eval PUnit) := by
  intro t
  simp [Except.map, StateT.run, modify, modifyGet, MonadStateOf.modifyGet, StateT.modifyGet, pure,
    Except.pure]

theorem bind {m : Eval α} {f : α → Eval β} (hm : Appends m) (hf : ∀ a, Appends (f a)) :
    Appends (m >>= f) := by
  intro t
  simp only [StateT.run_bind]
  rw [hm t]
  cases m.run [] with
  | error err => rfl
  | ok r =>
    obtain ⟨a, u⟩ := r
    show (f a).run (t ++ u) = ((f a).run u).map _
    rw [hf a (t ++ u), hf a u]
    cases (f a).run [] <;> simp [Except.map]

theorem ite {c : Prop} [Decidable c] {m₁ m₂ : Eval α} (h₁ : Appends m₁) (h₂ : Appends m₂) :
    Appends (if c then m₁ else m₂) := by
  split <;> assumption

theorem forIn (xs : List β) (init : γ) {body : β → γ → Eval (ForInStep γ)}
    (h : ∀ x b, Appends (body x b)) : Appends (ForIn.forIn xs init body) := by
  induction xs generalizing init with
  | nil => exact of_pure init
  | cons x xs ih =>
    rw [List.forIn_cons]
    refine bind (h x init) fun step => ?_
    cases step with
    | done b => exact of_pure b
    | yield b => exact ih b

end Appends

/-- The names an extension's check appends to the tally: its counter's, when it has one and the
value is present. -/
def Extension.ticks (x : Extension) (v : Option Json) : List String :=
  match x.counter, v with
  | some n, some _ => [n]
  | _, _ => []

namespace Engine

variable (e : Engine)

theorem check_extension_eq (fuel : Nat) (ctx : Context) (x : Extension) (v : Option Json)
    (params : List String) :
    e.check (fuel + 1) ctx (.extension x) v params =
      modify (· ++ x.ticks v) >>= fun _ => liftM (x.check v params ctx) := by
  rw [Engine.check.eq_2]
  refine StateT.ext fun t => ?_
  -- only the monad's plumbing differs, for each counter, value and answer
  cases hc : x.counter <;> cases v <;> cases x.check _ params ctx <;>
    simp [Extension.ticks, hc, liftM, monadLift, MonadLift.monadLift] <;>
    rfl

theorem check_extension_appends (fuel : Nat) (ctx : Context) (x : Extension) (v : Option Json)
    (params : List String) : Appends (e.check (fuel + 1) ctx (.extension x) v params) := by
  rw [e.check_extension_eq]
  exact Appends.bind (Appends.of_modify_append _) fun _ => Appends.of_lift _

/-- Runs, chains and checks only append to the tally, by induction along the three functions:
a nested run (a union's rule sets, a shape's schema) appends to the tally it is handed. -/
theorem appends_all :
    (∀ fuel data schema, Appends (e.run fuel data schema)) ∧
    (∀ fuel inst chain bail, Appends (e.runChain fuel inst chain bail)) ∧
    (∀ fuel ctx h v params, Appends (e.check fuel ctx h v params)) := by
  refine Engine.run.mutual_induct e _ _ _ ?run0 ?run ?chain0 ?chain ?check0 ?ext1 ?ext2 ?ext3
    ?presence ?union ?absent ?shape ?shapeOther ?strictParams ?strictShape ?strictOther ?verdict
  case run0 => intro data schema; rw [Engine.run.eq_1]; exact Appends.of_pure _
  case run =>
    intro fuel data schema ih
    rw [Engine.run.eq_2]
    refine Appends.bind (Appends.of_lift _) fun chains => ?_
    split
    refine Appends.bind (Appends.forIn _ _ fun inst bag => ?_) fun bag => Appends.of_pure _
    split
    exact Appends.bind (ih _ _ _ _) fun fs => Appends.ite (Appends.of_pure _) (Appends.of_pure _)
  case chain0 => intro inst chain bail; rw [Engine.runChain.eq_1]; exact Appends.of_pure _
  case chain =>
    intro fuel inst chain bail ih
    rw [Engine.runChain.eq_2]
    refine Appends.bind (Appends.forIn _ _ fun r failures => ?_) fun failures => Appends.of_pure _
    refine Appends.ite (Appends.bind (ih r) fun verdict => ?_) (Appends.of_pure _)
    refine Appends.ite (Appends.of_pure _) ?_
    split
    · exact Appends.ite (Appends.of_pure _) (Appends.of_pure _)
    · exact Appends.of_pure _
  case check0 => intro ctx h v params; rw [Engine.check.eq_1]; exact Appends.of_pure _
  case ext1 => intro fuel ctx x v params _ _ _; exact e.check_extension_appends fuel ctx x v params
  case ext2 => intro fuel ctx x v params _ _ _; exact e.check_extension_appends fuel ctx x v params
  case ext3 => intro fuel ctx x v params _; exact e.check_extension_appends fuel ctx x v params
  case presence => intro fuel ctx v params r; rw [Engine.check.eq_3]; exact Appends.of_pure _
  case union =>
    intro fuel ctx v params ih
    rw [Engine.check.eq_4]
    refine Appends.bind (Appends.of_lift _) fun sets => Appends.bind (Appends.of_lift _) fun stop => ?_
    refine Appends.ite (Appends.of_pure _) (Appends.bind (Appends.forIn _ _ fun set matched => ?_)
      fun matched => Appends.ite (Appends.of_pure _) (Appends.of_pure _))
    refine Appends.ite (Appends.bind (Appends.of_lift _) fun chain =>
      Appends.bind (ih chain) fun fs => ?_) (Appends.of_pure _)
    exact Appends.ite (Appends.ite (Appends.of_pure _) (Appends.of_pure _)) (Appends.of_pure _)
  case absent =>
    intro fuel ctx b params h₁ h₂
    rw [Engine.check.eq_5 _ _ _ _ _ h₁ h₂]
    exact Appends.of_pure _
  case shape =>
    -- the nested run is started from the current tally, and its final tally is kept
    intro fuel ctx params fs ih
    rw [Engine.check.eq_6]
    refine Appends.bind (Appends.of_lift _) fun schema => ?_
    intro t
    simp only [StateT.run_bind, StateT.run_get, pure_bind]
    rw [ih schema t]
    cases (e.run fuel (Json.obj fs) schema).run [] with
    | error err => rfl
    | ok r =>
      obtain ⟨nested, u⟩ := r
      by_cases hv : nested.valid = true
      · simp only [Except.map, hv]; rfl
      · simp only [Except.map, hv]; rfl
  case shapeOther =>
    intro fuel ctx params w h
    rw [Engine.check.eq_7 _ _ _ _ _ h]
    exact Appends.of_pure _
  case strictParams =>
    intro fuel ctx params fs h
    rw [Engine.check.eq_8, if_pos h]
    refine Appends.bind (Appends.of_pure _) fun allowed => ?_
    dsimp only
    split
    · exact Appends.of_pure _
    · split <;> exact Appends.of_pure _
  case strictShape =>
    intro fuel ctx params fs h
    rw [Engine.check.eq_8, if_neg h]
    refine Appends.bind (Appends.of_lift _) fun keys => Appends.bind (Appends.of_pure _) fun allowed => ?_
    dsimp only
    split
    · exact Appends.of_pure _
    · split <;> exact Appends.of_pure _
  case strictOther =>
    intro fuel ctx params w h
    rw [Engine.check.eq_9 _ _ _ _ _ h]
    exact Appends.of_pure _
  case verdict =>
    intro fuel ctx params b w h₁ h₂ h₃ h₄ h₅ h₆
    rw [Engine.check.eq_10 _ _ _ _ _ _ h₁ h₂ h₃ h₄ h₅ h₆]
    exact Appends.of_lift _

theorem run_appends (fuel : Nat) (data : Json) (schema : Schema) :
    Appends (e.run fuel data schema) :=
  e.appends_all.1 fuel data schema

theorem runChain_appends (fuel : Nat) (inst : Instance) (chain : Chain) (bail : Bool) :
    Appends (e.runChain fuel inst chain bail) :=
  e.appends_all.2.1 fuel inst chain bail

theorem check_appends (fuel : Nat) (ctx : Context) (h : Handler) (v : Option Json)
    (params : List String) : Appends (e.check fuel ctx h v params) :=
  e.appends_all.2.2 fuel ctx h v params

end Engine

end FieldRules

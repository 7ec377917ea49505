import FieldRules.Proofs.SchemaKeys

namespace FieldRules

/-- Two loops over one list whose bodies agree on its elements: the library's congruence for
loops that see membership, read for plain loops. -/
theorem forIn_congr_of_mem {m : Type → Type} [Monad m] {α σ : Type} {xs : List α} (init : σ)
    {f g : α → σ → m (ForInStep σ)} (h : ∀ x ∈ xs, ∀ s, f x s = g x s) :
    forIn xs init f = forIn xs init g :=
  List.forIn'_congr rfl rfl fun x hx s => h x hx s

namespace Engine

/-- A size of each handler's parameters that the nesting of runs makes smaller: every rule of a
chain built for a rule set of a union is smaller than the union, the schema a `shape` reads
weighs less than the shape, and no rule of the chains of a schema is larger than the schema's
weight. -/
structure NestingBound (e : Engine) where
  size : Handler → List String → Nat
  union_lt : ∀ {params : List String} {sets : List RuleSet},
    unionSets ((params.head?).getD "") = .ok sets → ∀ set ∈ sets,
    ∀ {pattern : String} {chain : Chain}, e.registry.compile pattern set.rules = .ok chain →
    ∀ r ∈ chain.rules, size r.handler r.params < size (.builtin .union) params
  shape_lt : ∀ {params : List String} {S : Schema},
    Schema.ofText ((params.head?).getD "") = .ok S → S.weight < size (.builtin (.object .shape)) params
  schema_le : ∀ {S : Schema} {chains : List (String × Chain)},
    S.entries.mapM e.registry.compileEntry = .ok chains →
    ∀ pc ∈ chains, ∀ r ∈ pc.2.rules, size r.handler r.params ≤ S.weight

variable {e : Engine} (B : e.NestingBound)

namespace NestingBound

/-- A chain run with fuel one checks nothing: its checks get fuel zero and pass. A chain without
rules records nothing either way. -/
theorem runChain_one_of_nil {inst : Instance} {chain : Chain} (b : Bool) (h : chain.rules = []) :
    e.runChain 1 inst chain b = e.runChain 0 inst chain b := by
  refine StateT.ext fun t => ?_
  rw [runChain_run, Engine.runChain.eq_1, h]
  simp [invokedAmong_nil, checksOf, Except.map, StateT.run, pure, StateT.pure, Except.pure]

/-- A union whose rule sets' runs are past their need answers alike with one more unit of fuel:
the loops over its sets differ only in those runs. -/
theorem check_union_succ {fuel : Nat} {ctx : Context} (v : Option Json) {params : List String}
    (hn : 3 * B.size (.builtin .union) params + 1 ≤ fuel + 1)
    (ih : ∀ chain : Chain, (∀ r ∈ chain.rules, 3 * B.size r.handler r.params + 2 ≤ fuel) →
      e.runChain (fuel + 1) ⟨ctx.data, ctx.schema, ctx.pattern, ctx.field, ctx.value⟩ chain true =
        e.runChain fuel ⟨ctx.data, ctx.schema, ctx.pattern, ctx.field, ctx.value⟩ chain true) :
    e.check (fuel + 1 + 1) ctx (.builtin .union) v params =
      e.check (fuel + 1) ctx (.builtin .union) v params := by
  rw [Engine.check.eq_4, Engine.check.eq_4]
  refine liftM_bind_congr fun sets hsets => liftM_bind_congr fun stop _ => ?_
  split
  · rfl
  · dsimp only
    congr 1
    refine forIn_congr_of_mem _ fun set hset matched => ?_
    split
    · refine liftM_bind_congr fun chain hchain => ?_
      -- every rule built for the set is smaller than the union
      have hlt := B.union_lt (Except.eq_ok_of_mapError hsets) set hset hchain
      rw [ih chain fun r hr => by have := hlt r hr; omega]
    · rfl

theorem check_shape_succ {fuel : Nat} {ctx : Context} {params : List String}
    (fs : List (String × Json)) (hn : 3 * B.size (.builtin (.object .shape)) params + 1 ≤ fuel + 1)
    (ih : ∀ S : Schema, 3 * S.weight + 3 ≤ fuel → e.run (fuel + 1) (.obj fs) S = e.run fuel (.obj fs) S) :
    e.check (fuel + 1 + 1) ctx (.builtin (.object .shape)) (some (.obj fs)) params =
      e.check (fuel + 1) ctx (.builtin (.object .shape)) (some (.obj fs)) params := by
  rw [Engine.check.eq_6, Engine.check.eq_6]
  refine liftM_bind_congr fun S hS => ?_
  have hlt := B.shape_lt (Except.eq_ok_of_mapError hS)
  rw [ih S (by omega)]

/-- A run whose chains are past their need answers alike with one more unit of fuel: it builds
the same chains, and each field instance's run gives the same. -/
theorem run_succ_succ {fuel : Nat} {data : Json} {S : Schema} (hn : 3 * S.weight + 3 ≤ fuel + 1)
    (ih : ∀ p c path v, (∀ r ∈ c.rules, 3 * B.size r.handler r.params + 2 ≤ fuel) →
      e.runChain (fuel + 1) ⟨data, S, p, path, v⟩ c e.config.bail =
        e.runChain fuel ⟨data, S, p, path, v⟩ c e.config.bail) :
    e.run (fuel + 1 + 1) data S = e.run (fuel + 1) data S := by
  refine StateT.ext fun t => ?_
  rw [e.run_succ_run, e.run_succ_run]
  cases hc : S.entries.mapM e.registry.compileEntry with
  | error f => rfl
  | ok chains =>
    dsimp only [Except.bind]
    rw [instances_eq]
    dsimp only
    rw [forIn_congr_of_mem Bag.empty fun i hi bag => ?_]
    obtain ⟨p, c, path, v⟩ := i
    -- the chain of every instance is one of the schema's, no larger than its weight
    have hle := B.schema_le hc (p, c) (e.mem_of_fieldInstances hi)
    dsimp only
    rw [ih p c path v fun r hr => by have := hle r hr; omega]

/-- Past the need of each function, one more unit of fuel changes nothing: three times the
weight and three for a run, three times the size of each rule and two for a chain, three times
the size and one for a check. By induction along the three functions; a level of nesting takes
three units of fuel, and the sizes the nested runs start from are smaller. -/
theorem succ_eq :
    (∀ n data (S : Schema), 3 * S.weight + 3 ≤ n → e.run (n + 1) data S = e.run n data S) ∧
    (∀ n inst (chain : Chain) b, (∀ r ∈ chain.rules, 3 * B.size r.handler r.params + 2 ≤ n) →
      e.runChain (n + 1) inst chain b = e.runChain n inst chain b) ∧
    (∀ n ctx h v params, 3 * B.size h params + 1 ≤ n →
      e.check (n + 1) ctx h v params = e.check n ctx h v params) := by
  refine Engine.run.mutual_induct e _ _ _ ?run0 ?run ?chain0 ?chain ?check0 ?ext1 ?ext2 ?ext3
    ?presence ?union ?absent ?shape ?shapeOther ?strictParams ?strictShape ?strictOther ?verdict
  case run0 =>
    intro data S hn
    omega
  case run =>
    intro fuel data S ih hn
    exact B.run_succ_succ hn ih
  case chain0 =>
    intro inst chain b hn
    cases hr : chain.rules with
    | nil => exact runChain_one_of_nil b hr
    | cons r rs =>
      have := hn r (by rw [hr]; exact List.mem_cons_self)
      omega
  case chain =>
    intro fuel inst chain b ih hn
    refine runChain_succ_congr b rfl (fun r hr => ?_) fun _ _ _ => rfl
    have hle := hn r hr
    show (e.check (fuel + 1) _ r.handler inst.value r.params).run [] =
      (e.check fuel _ r.handler inst.value r.params).run []
    rw [ih r (by omega)]
  case check0 =>
    intro ctx h v params hn
    omega
  -- a custom predicate, a presence rule and every rule without a nested run answer alike
  case ext1 =>
    intro n ctx x v params _ _ _ _
    rw [Engine.check.eq_2, Engine.check.eq_2]
  case ext2 =>
    intro n ctx x v params _ _ _ _
    rw [Engine.check.eq_2, Engine.check.eq_2]
  case ext3 =>
    intro n ctx x v params _ _
    rw [Engine.check.eq_2, Engine.check.eq_2]
  case presence =>
    intro fuel ctx v params r _
    rw [Engine.check.eq_3, Engine.check.eq_3]
  case union =>
    intro fuel ctx v params ih hn
    exact B.check_union_succ v hn ih
  case absent =>
    intro fuel ctx b params h₁ h₂ _
    rw [Engine.check.eq_5 _ _ _ _ _ h₁ h₂, Engine.check.eq_5 _ _ _ _ _ h₁ h₂]
  case shape =>
    intro fuel ctx params fs ih hn
    exact B.check_shape_succ fs hn ih
  case shapeOther =>
    intro fuel ctx params w h _
    rw [Engine.check.eq_7 _ _ _ _ _ h, Engine.check.eq_7 _ _ _ _ _ h]
  case strictParams =>
    intro fuel ctx params fs _ _
    rw [Engine.check.eq_8, Engine.check.eq_8]
  case strictShape =>
    intro fuel ctx params fs _ _
    rw [Engine.check.eq_8, Engine.check.eq_8]
  case strictOther =>
    intro fuel ctx params w h _
    rw [Engine.check.eq_9 _ _ _ _ _ h, Engine.check.eq_9 _ _ _ _ _ h]
  case verdict =>
    intro fuel ctx params b w h₁ h₂ h₃ h₄ h₅ h₆ _
    rw [Engine.check.eq_10 _ _ _ _ _ _ h₁ h₂ h₃ h₄ h₅ h₆,
      Engine.check.eq_10 _ _ _ _ _ _ h₁ h₂ h₃ h₄ h₅ h₆]

include B in
theorem run_eq_of_le {n : Nat} {data : Json} {S : Schema} (h : 3 * S.weight + 3 ≤ n) :
    e.run n data S = e.run (3 * S.weight + 3) data S := by
  induction n, h using Nat.le_induction with
  | base => rfl
  | succ n hn ih => rw [B.succ_eq.1 n data S hn, ih]

include B in
theorem run_eq_validate {n : Nat} {data : Json} {S : Schema} (h : 3 * S.weight + 3 ≤ n) :
    (e.run n data S).run [] = e.validate data S := by
  rw [B.run_eq_of_le h]
  rfl

end NestingBound

end Engine

end FieldRules

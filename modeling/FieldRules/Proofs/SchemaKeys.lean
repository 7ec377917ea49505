import FieldRules.Proofs.Bail

namespace FieldRules

/-- The context with another schema. -/
def Context.withSchema (ctx : Context) (S : Schema) : Context := { ctx with schema := S }

/-- The field instance with another schema. -/
def Instance.withSchema (inst : Instance) (S : Schema) : Instance := { inst with schema := S }

/-- A custom predicate that does not read the schema from its context. -/
def CustomRule.IgnoresSchema (c : CustomRule) : Prop :=
  ∀ w params (ctx : Context) S, c.predicate w params (ctx.withSchema S) = c.predicate w params ctx

namespace Schema

/-- What one pattern adds to the child keys under the parent segments `ps`: the segment right
after them, when the pattern extends them and the segment is new. -/
def childStep (ps acc : List String) (key : String) : List String :=
  if ps.isPrefixOf (Path.segments key) then
    match (Path.segments key)[ps.length]? with
    | some c => if acc.contains c then acc else acc ++ [c]
    | none => acc
  else acc

theorem childKeys_eq_foldl (s : Schema) (parent : String) :
    s.childKeys parent = s.keys.foldl (childStep (Path.segments parent)) [] := rfl

/-- The segment a pattern puts right after the parent segments `ps`. -/
def ChildOf (ps : List String) (key c : String) : Prop :=
  ps.isPrefixOf (Path.segments key) = true ∧ (Path.segments key)[ps.length]? = some c

theorem mem_childStep {ps acc : List String} {key c : String} :
    c ∈ childStep ps acc key ↔ c ∈ acc ∨ ChildOf ps key c := by
  unfold childStep ChildOf
  by_cases hp : ps.isPrefixOf (Path.segments key) = true
  · cases hc : (Path.segments key)[ps.length]? with
    | none => simp [hp]
    | some c' =>
      by_cases hin : acc.contains c' = true
      · -- a segment already collected
        have hmem : c' ∈ acc := by simpa using hin
        simp only [hp, hin, if_true, true_and, Option.some.injEq]
        constructor
        · exact Or.inl
        · rintro (h | rfl)
          · exact h
          · exact hmem
      · have hout : c' ∉ acc := by simpa using hin
        simp [hp, hout, eq_comm]
  · simp [hp]

theorem mem_foldl_childStep (ps : List String) (c : String) :
    ∀ (keys acc : List String),
      c ∈ keys.foldl (childStep ps) acc ↔ c ∈ acc ∨ ∃ key ∈ keys, ChildOf ps key c
  | [], acc => by simp
  | key :: keys, acc => by
    rw [List.foldl_cons, mem_foldl_childStep ps c keys, mem_childStep]
    simp only [List.mem_cons, exists_eq_or_imp, or_assoc]

theorem mem_childKeys (s : Schema) (parent c : String) :
    c ∈ s.childKeys parent ↔ ∃ key ∈ s.keys, ChildOf (Path.segments parent) key c := by
  rw [childKeys_eq_foldl, mem_foldl_childStep]
  simp

theorem childKeys_contains_of_perm {s' s : Schema} (h : s'.keys.Perm s.keys) (parent c : String) :
    (s'.childKeys parent).contains c = (s.childKeys parent).contains c := by
  rw [Bool.eq_iff_iff, List.contains_iff_mem, List.contains_iff_mem, mem_childKeys, mem_childKeys]
  exact exists_congr fun key => and_congr_left' h.mem_iff

end Schema

theorem Check.unexpectedKeys_congr (fs : List (String × Json)) {keys' keys : List String}
    (h : ∀ k, keys'.contains k = keys.contains k) :
    Check.unexpectedKeys fs keys' = Check.unexpectedKeys fs keys := by
  simp only [Check.unexpectedKeys, h]

theorem Builtin.verdict_withSchema (b : Builtin) (now : Calendar.Moment) (ctx : Context) (w : Json)
    (params : List String) (S : Schema) :
    b.verdict now (ctx.withSchema S) w params = b.verdict now ctx w params := by
  cases b <;> rfl

section Handlers

variable {P : CustomRule → Prop}

theorem failureMessage_withSchema {k : RuleKind} {h : Handler} (hh : Registry.HandlerOf P k h)
    (ctx : Context) (params : List String) (v : Verdict) (S : Schema) :
    failureMessage (ctx.withSchema S) h params v = failureMessage ctx h params v := by
  cases h with
  | builtin b => cases b <;> rfl
  | extension ext =>
    obtain ⟨c, -, rfl⟩ := hh
    rfl

theorem CustomRule.check_withSchema {c : CustomRule} (hc : c.IgnoresSchema) (v : Option Json)
    (params : List String) (ctx : Context) (S : Schema) :
    c.handler.check v params (ctx.withSchema S) = c.handler.check v params ctx := by
  cases v with
  | none => rfl
  | some w =>
    show Except.ok (c.predicate w params (ctx.withSchema S)).verdict =
      Except.ok (c.predicate w params ctx).verdict
    rw [hc]

end Handlers

theorem liftM_ok_bind {α δ : Type} (a : α) (g : α → Eval δ) :
    (liftM (Except.ok a : Except Fault α) >>= g) = g a := rfl

theorem liftM_bind_congr {α δ : Type} {x : Except Fault α} {f g : α → Eval δ}
    (h : ∀ a, x = .ok a → f a = g a) : (liftM x >>= f) = (liftM x >>= g) := by
  cases x with
  | error err => rfl
  | ok a => rw [liftM_ok_bind, liftM_ok_bind, h a rfl]

namespace Engine

variable (e : Engine)

theorem context_withSchema (inst : Instance) (chain : Chain) (r : CompiledRule) (S : Schema) :
    e.context (inst.withSchema S) chain r = (e.context inst chain r).withSchema S := rfl

section Chain

variable {e} {fuel' fuel : Nat} {inst' inst : Instance} {chain : Chain} (b : Bool)

theorem invokedAmong_congr (hv : inst'.value = inst.value) {rules : List CompiledRule}
    (h : ∀ r ∈ rules, e.answer fuel' inst' chain r = e.answer fuel inst chain r) :
    e.invokedAmong fuel' inst' chain b rules = e.invokedAmong fuel inst chain b rules := by
  induction rules with
  | nil => rfl
  | cons r rs ih =>
    rw [invokedAmong_cons, invokedAmong_cons, hv, h r List.mem_cons_self,
      ih fun r' hr' => h r' (List.mem_cons_of_mem r hr')]

theorem checksOf_congr {rules : List CompiledRule}
    (h : ∀ r ∈ rules, e.answer fuel' inst' chain r = e.answer fuel inst chain r) :
    e.checksOf fuel' inst' chain rules = e.checksOf fuel inst chain rules := by
  induction rules with
  | nil => rfl
  | cons r rs ih =>
    rw [checksOf_cons, checksOf_cons, h r List.mem_cons_self,
      ih fun r' hr' => h r' (List.mem_cons_of_mem r hr')]

/-- A chain runs alike on two instances of one value, with any fuels, on which its rules answer
alike and fail with the same messages. -/
theorem runChain_succ_congr (hv : inst'.value = inst.value)
    (hans : ∀ r ∈ chain.rules, e.answer fuel' inst' chain r = e.answer fuel inst chain r)
    (hfail : ∀ r ∈ chain.rules, ∀ v, e.failureOf inst' chain r v = e.failureOf inst chain r v) :
    e.runChain (fuel' + 1) inst' chain b = e.runChain (fuel + 1) inst chain b := by
  have hinv := invokedAmong_congr b hv hans
  have hsub := (e.invokedAmong_sublist fuel inst chain b chain.rules).subset
  refine StateT.ext fun t => ?_
  rw [runChain_run, runChain_run, hinv, checksOf_congr fun r hr => hans r (hsub hr)]
  cases hlog : e.checksOf fuel inst chain (e.invokedAmong fuel inst chain b chain.rules) with
  -- not `rfl`: the kernel would compare the two failure functions before reducing the map
  | error f => simp only [Except.map]
  | ok log =>
    -- the failures are recorded for checked rules, all of them rules of the chain
    have hrules : ∀ c ∈ log, c.1 ∈ chain.rules := by
      intro c hc
      obtain ⟨r, hr, hrc⟩ := mapM_ok_mem hlog hc
      cases ha : e.answer fuel inst chain r with
      | error f => simp [ha, Except.map] at hrc
      | ok a =>
        simp only [ha, Except.map, Except.ok.injEq] at hrc
        rw [← hrc]
        exact hsub hr
    simp only [Except.map]
    rw [List.filterMap_congr fun c hc => hfail c.1 (hrules c hc) c.2.1]

end Chain

section Steps

variable {P : CustomRule → Prop} {fuel : Nat} {ctx : Context} {S : Schema}

theorem check_extension_withSchema {c : CustomRule} (hc : c.IgnoresSchema) (v : Option Json)
    (params : List String) :
    e.check (fuel + 1) (ctx.withSchema S) (.extension c.handler) v params =
      e.check (fuel + 1) ctx (.extension c.handler) v params := by
  rw [Engine.check.eq_2, Engine.check.eq_2, CustomRule.check_withSchema hc]

/-- `strict` without parameters and without a `shape` in its chain allows the child keys of the
instance's pattern; schemas with the same patterns allow the same keys. -/
theorem check_strict_withSchema (hperm : S.keys.Perm ctx.schema.keys)
    (fs : List (String × Json)) (params : List String) :
    e.check (fuel + 1) (ctx.withSchema S) (.builtin (.object .strict)) (some (.obj fs)) params =
      e.check (fuel + 1) ctx (.builtin (.object .strict)) (some (.obj fs)) params := by
  have hmem := Schema.childKeys_contains_of_perm hperm ctx.pattern
  rw [Engine.check.eq_8, Engine.check.eq_8]
  have hchain : (ctx.withSchema S).chain = ctx.chain := rfl
  have hfault : (ctx.withSchema S).fault = ctx.fault := rfl
  have hpattern : (ctx.withSchema S).pattern = ctx.pattern := rfl
  have hschema : (ctx.withSchema S).schema = S := rfl
  rw [hchain, hfault, hpattern, hschema]
  split
  · rfl
  · -- only the keys the schema gives differ, and only in order
    cases List.find? (fun x => x.name == "shape") ctx.chain with
    | some shape => rfl
    | none =>
      dsimp only
      rw [liftM_ok_bind, liftM_ok_bind]
      simp only [pure_bind]
      rw [hmem]
      by_cases hw : (ctx.schema.childKeys ctx.pattern).contains Path.wildcard = true
      · simp only [hw, if_true]
      · simp only [hw, Bool.false_eq_true, if_false, Check.unexpectedKeys_congr fs hmem]

theorem check_union_withSchema (hr : e.registry.BuiltinsWith P) (v : Option Json)
    (params : List String)
    (ih : ∀ chain : Chain, (∀ r ∈ chain.rules, Registry.HandlerOf P r.kind r.handler) →
      e.runChain fuel ⟨ctx.data, S, ctx.pattern, ctx.field, ctx.value⟩ chain true =
        e.runChain fuel ⟨ctx.data, ctx.schema, ctx.pattern, ctx.field, ctx.value⟩ chain true) :
    e.check (fuel + 1) (ctx.withSchema S) (.builtin .union) v params =
      e.check (fuel + 1) ctx (.builtin .union) v params := by
  rw [Engine.check.eq_4, Engine.check.eq_4]
  refine liftM_bind_congr fun sets _ => liftM_bind_congr fun stop _ => ?_
  dsimp only [Context.withSchema]
  split
  · rfl
  · -- the loops over the sets differ only in the schema handed to each set's run
    congr 1
    congr 1
    funext set matched
    split
    · exact liftM_bind_congr fun chain hchain => by
        rw [ih chain fun r hr' => hr.compile_handlerOf hchain hr']
    · rfl

end Steps

/-- The engine reads the schema of a field instance only through its set of patterns: a chain
runs alike, and a check answers alike, against a schema holding the same patterns in another
order, when the custom predicates do not read the schema. The induction follows the engine's
three functions; a `shape` validates against a schema of its own, so a run needs nothing. -/
theorem schema_independence (hr : e.registry.BuiltinsWith CustomRule.IgnoresSchema) :
    (∀ fuel inst chain b,
      (∀ r ∈ chain.rules, Registry.HandlerOf CustomRule.IgnoresSchema r.kind r.handler) →
      ∀ S : Schema, S.keys.Perm inst.schema.keys →
      e.runChain fuel (inst.withSchema S) chain b = e.runChain fuel inst chain b) ∧
    (∀ fuel ctx h v params, Registry.HandlerOf CustomRule.IgnoresSchema ctx.kind h →
      ∀ S : Schema, S.keys.Perm ctx.schema.keys →
      e.check fuel (ctx.withSchema S) h v params = e.check fuel ctx h v params) := by
  refine (Engine.run.mutual_induct e (fun _ _ _ => True) _ _ (fun _ _ => trivial)
    (fun _ _ _ _ => trivial) ?chain0 ?chain ?check0 ?ext1 ?ext2 ?ext3 ?presence ?union ?absent
    ?shape ?shapeOther ?strictParams ?strictShape ?strictOther ?verdict).2
  case chain0 =>
    intro inst chain b _ S _
    rw [Engine.runChain.eq_1, Engine.runChain.eq_1]
  case chain =>
    intro fuel inst chain b ih hh S hperm
    refine runChain_succ_congr b rfl (fun r hr => ?_) fun r hr v => ?_
    · show (e.check fuel ((e.context inst chain r).withSchema S) r.handler inst.value r.params).run [] =
        (e.check fuel (e.context inst chain r) r.handler inst.value r.params).run []
      rw [ih r (hh r hr) S hperm]
    · simp only [failureOf, context_withSchema, failureMessage_withSchema (hh r hr)]
  case check0 =>
    intro ctx h v params _ S _
    rw [Engine.check.eq_1, Engine.check.eq_1]
  -- a custom predicate that ignores the schema checks alike
  case ext1 =>
    intro n ctx x v params _ _ _ hh S _
    obtain ⟨c, hc, rfl⟩ := hh
    exact e.check_extension_withSchema hc v params
  case ext2 =>
    intro n ctx x v params _ _ _ hh S _
    obtain ⟨c, hc, rfl⟩ := hh
    exact e.check_extension_withSchema hc v params
  case ext3 =>
    intro n ctx x v params _ hh S _
    obtain ⟨c, hc, rfl⟩ := hh
    exact e.check_extension_withSchema hc v params
  case presence =>
    intro fuel ctx v params r _ S _
    rw [Engine.check.eq_3, Engine.check.eq_3]
    rfl
  case union =>
    intro fuel ctx v params ih _ S hperm
    exact e.check_union_withSchema hr v params fun chain hh => ih chain hh S hperm
  case absent =>
    intro fuel ctx b params h₁ h₂ _ S _
    rw [Engine.check.eq_5 _ _ _ _ _ h₁ h₂, Engine.check.eq_5 _ _ _ _ _ h₁ h₂]
  case shape =>
    intro fuel ctx params fs _ _ S _
    rw [Engine.check.eq_6, Engine.check.eq_6]
    rfl
  case shapeOther =>
    intro fuel ctx params w h _ S _
    rw [Engine.check.eq_7 _ _ _ _ _ h, Engine.check.eq_7 _ _ _ _ _ h]
  case strictParams =>
    intro fuel ctx params fs _ _ S hperm
    exact e.check_strict_withSchema hperm fs params
  case strictShape =>
    intro fuel ctx params fs _ _ S hperm
    exact e.check_strict_withSchema hperm fs params
  case strictOther =>
    intro fuel ctx params w h _ S _
    rw [Engine.check.eq_9 _ _ _ _ _ h, Engine.check.eq_9 _ _ _ _ _ h]
  case verdict =>
    intro fuel ctx params b w h₁ h₂ h₃ h₄ h₅ h₆ _ S _
    rw [Engine.check.eq_10 _ _ _ _ _ _ h₁ h₂ h₃ h₄ h₅ h₆,
      Engine.check.eq_10 _ _ _ _ _ _ h₁ h₂ h₃ h₄ h₅ h₆, Builtin.verdict_withSchema]
    rfl

end Engine

end FieldRules

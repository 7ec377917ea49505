import FieldRules.Proofs.Registries

namespace FieldRules

/-- A fault met building a rule set that a union of a chain tries: a set of one of the chain's
unions, or, through the chain a set builds to, a set of one of that chain's unions. -/
inductive Registry.SetFault (r : Registry) (pattern : String) : Chain → Fault → Prop
  /-- A set of a union of the chain does not build. -/
  | tried {c : Chain} {cr : CompiledRule} {sets : List RuleSet} {s : RuleSet} {f : Fault} :
      cr ∈ c.rules → cr.handler = .builtin .union → unionSets ((cr.params.head?).getD "") = .ok sets →
      s ∈ sets → r.compile pattern s.rules = .error f → SetFault r pattern c f
  /-- A set of a union of the chain builds, and its chain meets the fault. -/
  | within {c c' : Chain} {cr : CompiledRule} {sets : List RuleSet} {s : RuleSet} {f : Fault} :
      cr ∈ c.rules → cr.handler = .builtin .union → unionSets ((cr.params.head?).getD "") = .ok sets →
      s ∈ sets → r.compile pattern s.rules = .ok c' → SetFault r pattern c' f → SetFault r pattern c f

/-- A fault that, if it is one of building, satisfies `Q`. -/
def IfBuilding (Q : Fault → Prop) (f : Fault) : Prop := f.isCompileError → Q f

namespace IfBuilding

variable {Q Q' : Fault → Prop}

theorem of_not_isCompileError {f : Fault} (h : f.isCompileError = false) : IfBuilding Q f := by
  intro hc
  rw [h] at hc
  cases hc

theorem of_rule (ctx : Context) (source : String) : IfBuilding Q (ctx.fault source) :=
  of_not_isCompileError rfl

theorem of_mapError {α : Type} {ctx : Context} {x : Except String α} {f : Fault}
    (h : x.mapError ctx.fault = .error f) : IfBuilding Q f := by
  cases x with
  | error src =>
    cases h
    exact of_rule ctx src
  | ok a => cases h

theorem mono (hQ : ∀ f, Q f → Q' f) {f : Fault} (h : IfBuilding Q f) : IfBuilding Q' f :=
  fun hc => hQ f (h hc)

end IfBuilding

namespace Engine

variable (e : Engine)

/-- Once every entry of a schema builds, every fault of building a run aborts with is met
building a rule set that a union of one of the schema's chains tries. By induction along the
three functions: the run builds the entries, which all build; a chain's checks run its own
rules; and a check aborts with its rule's fault, with a nested schema's fault wrapped, or, for a
union, with the fault of building one of its sets or of the run of the chain a set builds to. -/
theorem build_faults_from_union_sets {P : CustomRule → Prop} (hr : e.registry.BuiltinsWith P) :
    (∀ fuel data schema, (∀ entry ∈ schema.entries, (e.registry.compileEntry entry).toBool) →
      AbortsOnly (IfBuilding fun f => ∃ entry ∈ schema.entries, ∃ p c,
        e.registry.compileEntry entry = .ok (p, c) ∧ e.registry.SetFault p c f)
        (e.run fuel data schema)) ∧
    (∀ fuel inst chain bail, (∀ r ∈ chain.rules, Registry.HandlerOf P r.kind r.handler) →
      AbortsOnly (IfBuilding (e.registry.SetFault inst.pattern chain))
        (e.runChain fuel inst chain bail)) ∧
    (∀ fuel ctx h v params, Registry.HandlerOf P ctx.kind h →
      ∀ c, ∀ cr ∈ c.rules, cr.handler = h → cr.params = params →
      AbortsOnly (IfBuilding (e.registry.SetFault ctx.pattern c)) (e.check fuel ctx h v params)) := by
  refine Engine.run.mutual_induct e _ _ _ ?run0 ?run ?chain0 ?chain ?check0 ?ext1 ?ext2 ?ext3
    ?presence ?union ?absent ?shape ?shapeOther ?strictParams ?strictShape ?strictOther ?verdict
  case run0 => intro data schema _; rw [Engine.run.eq_1]; exact AbortsOnly.of_pure _
  case run =>
    intro fuel data schema ih hbuilt
    refine e.run_succ_aborts (fun f hf => ?_) fun chains hchains p c path v hinst => ?_
    · -- the entry that failed is one that builds
      obtain ⟨entry, hmem, hentry⟩ := mapM_error_mem hf
      have hok := hbuilt entry hmem
      rw [hentry] at hok
      cases hok
    · -- the instance runs the chain of an entry
      obtain ⟨entry, hmem, hentry⟩ := mapM_ok_mem hchains (e.mem_of_fieldInstances hinst)
      obtain ⟨rules, hcomp⟩ := Registry.compileEntry_ok hentry
      exact AbortsOnly.mono (ih p c path v fun r hr' => hr.compile_handlerOf hcomp hr')
        fun f => IfBuilding.mono fun f hf => ⟨entry, hmem, p, c, hentry, hf⟩
  case chain0 => intro inst chain bail _; rw [Engine.runChain.eq_1]; exact AbortsOnly.of_pure _
  case chain =>
    intro fuel inst chain bail ih hh
    exact e.runChain_succ_aborts fun r hr => ih r (hh r hr) chain r hr rfl rfl
  case check0 => intro ctx h v params _ _ _ _ _ _; rw [Engine.check.eq_1]; exact AbortsOnly.of_pure _
  -- the registry's extensions are custom predicates, whose checks always decide
  case ext1 => intro n ctx x v params _ _ _ hh _ _ _ _ _; exact e.check_extension_aborts n ctx hh.decides v params
  case ext2 => intro n ctx x v params _ _ _ hh _ _ _ _ _; exact e.check_extension_aborts n ctx hh.decides v params
  case ext3 => intro n ctx x v params _ hh _ _ _ _ _; exact e.check_extension_aborts n ctx hh.decides v params
  case presence =>
    intro fuel ctx v params r _ _ _ _ _ _
    rw [Engine.check.eq_3]
    exact AbortsOnly.of_pure _
  case union =>
    intro fuel ctx v params ih _ c cr hcr hh hp
    rw [Engine.check.eq_4]
    refine AbortsOnly.of_lift_bind (fun f hf => IfBuilding.of_mapError hf)
      fun sets hsets => AbortsOnly.of_lift_bind (fun f hf => IfBuilding.of_mapError hf)
      fun _ _ => ?_
    -- the sets were read from the parameters of the chain's union
    have hsets' : unionSets ((cr.params.head?).getD "") = .ok sets := by
      rw [hp]
      exact Except.eq_ok_of_mapError hsets
    refine AbortsOnly.ite (AbortsOnly.of_pure _) (AbortsOnly.bind
      (AbortsOnly.forIn _ _ fun set hset matched => ?_) fun matched =>
        AbortsOnly.ite (AbortsOnly.of_pure _) (AbortsOnly.of_pure _))
    refine AbortsOnly.ite (AbortsOnly.of_lift_bind
      (fun f hf _ => Registry.SetFault.tried hcr hh hsets' hset hf)
      fun chain hchain => AbortsOnly.bind
        (AbortsOnly.mono (ih chain fun r hr' => hr.compile_handlerOf hchain hr')
        fun f => IfBuilding.mono fun f hf => Registry.SetFault.within hcr hh hsets' hset hchain hf)
        fun fs => ?_) (AbortsOnly.of_pure _)
    exact AbortsOnly.ite (AbortsOnly.ite (AbortsOnly.of_pure _) (AbortsOnly.of_pure _))
      (AbortsOnly.of_pure _)
  case absent =>
    intro fuel ctx b params h₁ h₂ _ _ _ _ _ _
    rw [Engine.check.eq_5 _ _ _ _ _ h₁ h₂]
    exact AbortsOnly.of_pure _
  case shape =>
    -- a fault of the nested run is wrapped, so it is not one of building
    intro fuel ctx params fs _ _ _ _ _ _ _
    exact e.check_shape_aborts (fun f hf => IfBuilding.of_mapError hf) fun _ =>
      IfBuilding.of_not_isCompileError rfl
  case shapeOther =>
    intro fuel ctx params w h _ _ _ _ _ _
    rw [Engine.check.eq_7 _ _ _ _ _ h]
    exact AbortsOnly.of_pure _
  case strictParams =>
    intro fuel ctx params fs h _ _ _ _ _ _
    rw [Engine.check.eq_8, if_pos h]
    refine AbortsOnly.bind (AbortsOnly.of_pure _) fun allowed => ?_
    dsimp only
    split
    · exact AbortsOnly.of_pure _
    · split <;> exact AbortsOnly.of_pure _
  case strictShape =>
    intro fuel ctx params fs h _ _ _ _ _ _
    rw [Engine.check.eq_8, if_neg h]
    refine AbortsOnly.of_lift_bind (fun f hf => ?_) fun keys _ =>
      AbortsOnly.bind (AbortsOnly.of_pure _) fun allowed => ?_
    · split at hf
      · exact IfBuilding.of_mapError hf
      · cases hf
    · dsimp only
      split
      · exact AbortsOnly.of_pure _
      · split <;> exact AbortsOnly.of_pure _
  case strictOther =>
    intro fuel ctx params w h _ _ _ _ _ _
    rw [Engine.check.eq_9 _ _ _ _ _ h]
    exact AbortsOnly.of_pure _
  case verdict =>
    intro fuel ctx params b w h₁ h₂ h₃ h₄ h₅ h₆ _ _ _ _ _ _
    rw [Engine.check.eq_10 _ _ _ _ _ _ h₁ h₂ h₃ h₄ h₅ h₆]
    exact AbortsOnly.of_lift fun f hf => IfBuilding.of_mapError hf

end Engine

/-- A validation over the builtin rules and custom predicates, whose schema entries all build,
aborts with a fault of building only when a union of one of the schema's chains tries a rule set
that does not build, directly or through the sets of the unions of a set it built: every other
fault of building is met before any rule runs, for every data alike. An extension of another
kind may answer with any fault, one of building included, so the registry is one of builtins and
predicates. -/
theorem validate_build_faults_come_from_union_sets (e : Engine) {P : CustomRule → Prop}
    (hr : e.registry.BuiltinsWith P) {data : Json} {schema : Schema}
    (hbuilt : ∀ entry ∈ schema.entries, (e.registry.compileEntry entry).toBool) {f : Fault}
    (hf : e.validate data schema = .error f) (hc : f.isCompileError) :
    ∃ entry ∈ schema.entries, ∃ p c,
      e.registry.compileEntry entry = .ok (p, c) ∧ e.registry.SetFault p c f :=
  ((e.build_faults_from_union_sets hr).1 _ data schema hbuilt) [] f hf hc

/-- The number run of a union whose second rule set names no rule aborts with that rule unknown,
met building that set of the field's chain. -/
theorem number_meets_unknown_set_rule :
    (⟨Registry.builtins, Config.default, ⟨Catalog.empty, none⟩, default⟩ : Engine).validate
        (.obj [("x", .num (.nat 1))]) ⟨[("x", .text "union:[[\"string\"],[\"nope_rule\"]]")]⟩ =
      .error (.unknownRule "nope_rule" none) ∧
    ∃ entry ∈ [("x", Definition.text "union:[[\"string\"],[\"nope_rule\"]]")], ∃ p c,
      Registry.builtins.compileEntry entry = .ok (p, c) ∧
        Registry.builtins.SetFault p c (.unknownRule "nope_rule" none) := by
  have hbuilt : ∀ entry ∈ [("x", Definition.text "union:[[\"string\"],[\"nope_rule\"]]")],
      (Registry.builtins.compileEntry entry).toBool := by decide +kernel
  have hf : (⟨Registry.builtins, Config.default, ⟨Catalog.empty, none⟩, default⟩ : Engine).validate
      (.obj [("x", .num (.nat 1))]) ⟨[("x", .text "union:[[\"string\"],[\"nope_rule\"]]")]⟩ =
      .error (.unknownRule "nope_rule" none) := eq_unknownRule_of_check (by decide +kernel)
  exact ⟨hf, validate_build_faults_come_from_union_sets
    ⟨Registry.builtins, Config.default, ⟨Catalog.empty, none⟩, default⟩
    (P := fun _ => True) Registry.builtins_builtinsWith hbuilt hf rfl⟩

/-- Whether a schema is refused as misconfigured depends on the data. The entry of a union whose
second rule set names no rule builds; a text passes the first set, so the second is never built,
while a number fails the first set and the union aborts building the second. -/
theorem union_set_fault_depends_on_data :
    (∀ entry ∈ [("x", Definition.text "union:[[\"string\"],[\"nope_rule\"]]")],
      (Registry.builtins.compileEntry entry).toBool) ∧
    (Validator.new.validate default (.obj [("x", .str "a")])
      ⟨[("x", .text "union:[[\"string\"],[\"nope_rule\"]]")]⟩).toBool ∧
    Validator.new.validate default (.obj [("x", .num (.nat 1))])
        ⟨[("x", .text "union:[[\"string\"],[\"nope_rule\"]]")]⟩ =
      .error (.unknownRule "nope_rule" none) :=
  ⟨by decide +kernel, by decide +kernel, eq_unknownRule_of_check (by decide +kernel)⟩

end FieldRules

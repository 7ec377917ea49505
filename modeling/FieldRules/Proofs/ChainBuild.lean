import FieldRules.Proofs.Registries
import FieldRules.Proofs.RuleText

namespace FieldRules

/-- A list sorted from another by a stable sort on descending priority: the same rules, by
descending priority, and the rules of each priority in the order of the source. -/
structure StableByPriority (src out : List CompiledRule) : Prop where
  perm : out.Perm src
  sorted : out.Pairwise fun a b => b.priority ≤ a.priority
  stable : ∀ p, out.filter (·.priority == p) = src.filter (·.priority == p)

namespace Registry

/-- A rule bound for a chain of a base type: the rule with the kind and handler it resolves to
for the type, the handler's priority, and parameters the handler accepts. -/
structure BoundFor (reg : Registry) (t : Option BaseType) (r : Rule) (c : CompiledRule) :
    Prop where
  rule_eq : c.rule = r
  resolve_eq : reg.resolve r t = .ok (c.kind, c.handler)
  priority_eq : c.priority = c.handler.priority
  accepted : c.handler.validateParams c.params = .ok ()

/-- Why a rule does not bind for a chain of a base type: its name does not resolve, or its handler
refuses its parameters, and the fault names the rule as displayed. -/
inductive BindFault (reg : Registry) (t : Option BaseType) (r : Rule) : Fault → Prop where
  | unresolved {f : Fault} : reg.resolve r t = .error f → BindFault reg t r f
  | refused {k : RuleKind} {h : Handler} {reason : String} : reg.resolve r t = .ok (k, h) →
      h.validateParams (k.boundParams r) = .error reason →
      BindFault reg t r (.invalidDefinition r.display reason)

variable {reg : Registry} {t : Option BaseType}

theorem bind_eq_ok_iff {r : Rule} {c : CompiledRule} : reg.bind t r = .ok c ↔ reg.BoundFor t r c := by
  constructor
  · intro h
    obtain ⟨hres, hrule, hparams⟩ := bind_ok h
    refine ⟨hrule, hres, ?_, hparams⟩
    -- the priority is the one `bind` copies from the handler it resolved to
    unfold Registry.bind at h
    simp only [hres, Bind.bind, Except.bind] at h
    split at h
    · rw [← Except.ok.inj h]
    · cases h
  · rintro ⟨rfl, hres, hprio, hparams⟩
    obtain ⟨rule, kind, handler, priority⟩ := c
    simp only at hres hprio
    subst hprio
    unfold Registry.bind
    simp only [hres, Bind.bind, Except.bind, hparams]

theorem bind_eq_error_iff {r : Rule} {f : Fault} : reg.bind t r = .error f ↔ reg.BindFault t r f := by
  unfold Registry.bind
  cases hres : reg.resolve r t with
  | error f' =>
    simp only [Bind.bind, Except.bind, Except.error.injEq]
    constructor
    · rintro rfl
      exact .unresolved hres
    · rintro (h | ⟨h, -⟩) <;> simp_all
  | ok res =>
    obtain ⟨k, h⟩ := res
    simp only [Bind.bind, Except.bind, CompiledRule.params]
    constructor
    · intro hb
      split at hb
      · cases hb
      · next reason hv =>
        cases hb
        exact .refused hres hv
    · rintro (h' | ⟨h', hv⟩)
      · simp_all
      · rw [hres, Except.ok.injEq, Prod.mk.injEq] at h'
        obtain ⟨rfl, rfl⟩ := h'
        simp only [hv]

theorem declaredType_of_length_le_one {field : String} {rules : List Rule}
    (h : (rules.filterMap Rule.baseType?).length ≤ 1) :
    declaredType field rules = .ok (rules.filterMap Rule.baseType?).head? := by
  unfold declaredType
  match hts : rules.filterMap Rule.baseType? with
  | [] => rfl
  | [t] => rfl
  | _ :: _ :: _ => simp [hts] at h

theorem compile_of_declaredType {field : String} {rules : List Rule}
    (h : declaredType field rules = .ok t) :
    reg.compile field rules = (rules.mapM (reg.bind t)).map fun bound => ⟨t, byPriority bound⟩ := by
  unfold Registry.compile
  rw [h]
  show (rules.mapM (reg.bind t) >>= fun bound => (.ok ⟨t, byPriority bound⟩ : Except Fault Chain)) = _
  cases rules.mapM (reg.bind t) <;> rfl

theorem compileEntry_of_toRules {field : String} {d : Definition} {rules : List Rule}
    (h : d.toRules = .ok rules) :
    reg.compileEntry (field, d) = (reg.compile field rules).map (field, ·) := by
  rw [compileEntry, h]
  show (reg.compile field rules >>= fun c => pure (field, c)) = _
  cases reg.compile field rules <;> rfl

end Registry

/-- Ordering by priority is the stable sort: by `byPriority_eq_mergeSort` it is the library's
merge sort, which keeps every sorted sublist, in particular the rules of one priority. -/
theorem byPriority_stable (rules : List CompiledRule) :
    StableByPriority rules (Registry.byPriority rules) := by
  let le := fun a b : CompiledRule => decide (b.priority ≤ a.priority)
  have htrans : ∀ a b c, le a b = true → le b c = true → le a c = true := by
    intro a b c hab hbc
    simp only [le, decide_eq_true_eq] at hab hbc ⊢
    omega
  have htotal : ∀ a b, (le a b || le b a) = true := by
    intro a b
    simp only [le, Bool.or_eq_true, decide_eq_true_eq]
    omega
  rw [Registry.byPriority_eq_mergeSort]
  refine ⟨List.mergeSort_perm rules le, ?_, fun p => ?_⟩
  · exact (List.pairwise_mergeSort htrans htotal rules).imp fun h => by simpa [le] using h
  · -- the rules of priority `p` are sorted among themselves, so the merge sort keeps them
    have hsorted : (rules.filter (·.priority == p)).Pairwise fun a b => le a b = true := by
      refine List.Pairwise.imp_of_mem (fun {a b} ha hb _ => ?_) (List.pairwise_of_forall
        (R := fun _ _ => True) fun _ _ => trivial)
      simp only [List.mem_filter, beq_iff_eq] at ha hb
      simp [le, ha.2, hb.2]
    have hsub := (List.sublist_mergeSort htrans htotal hsorted List.filter_sublist).filter
      (·.priority == p)
    rw [List.filter_filter, List.filter_congr (fun x _ => Bool.and_self _)] at hsub
    exact (hsub.eq_of_length ((List.mergeSort_perm rules le).filter _).length_eq.symm).symm

namespace Registry

/-- Building the chain of a field from a definition gives the first of these that applies: the
fault of reading the definition; a conflict naming its first two base-type tokens, whatever its
names resolve to; the fault of the first rule, in the order written, that does not bind for the
declared type; else the chain of that type whose rules are the rules bound one for one, in a
stable sort on descending priority. -/
theorem compileEntry_first_fault_or_chain (reg : Registry) (field : String) (d : Definition) :
    (∀ f, d.toRules = .error f → reg.compileEntry (field, d) = .error f) ∧
    ∀ rules, d.toRules = .ok rules →
      (∀ t u rest, rules.filterMap Rule.baseType? = t :: u :: rest →
        reg.compileEntry (field, d) = .error (.conflictingDataType field t u)) ∧
      ((rules.filterMap Rule.baseType?).length ≤ 1 →
        (∀ pre r post f, rules = pre ++ r :: post →
          (∀ q ∈ pre, ∃ c, reg.BoundFor (rules.filterMap Rule.baseType?).head? q c) →
          reg.BindFault (rules.filterMap Rule.baseType?).head? r f →
          reg.compileEntry (field, d) = .error f) ∧
        ((∀ r ∈ rules, ∃ c, reg.BoundFor (rules.filterMap Rule.baseType?).head? r c) →
          ∃ bound chain, reg.compileEntry (field, d) = .ok (field, chain) ∧
            List.Forall₂ (reg.BoundFor (rules.filterMap Rule.baseType?).head?) rules bound ∧
            chain.baseType = (rules.filterMap Rule.baseType?).head? ∧
            StableByPriority bound chain.rules)) := by
  refine ⟨fun f hf => ?_, fun rules hr => ⟨fun t u rest hts => ?_, fun hle => ⟨?_, ?_⟩⟩⟩
  · rw [compileEntry, hf]
    rfl
  · have hdecl : declaredType field rules = .error (.conflictingDataType field t u) := by
      simp [declaredType, hts]
    rw [compileEntry_of_toRules hr, compile, hdecl]
    rfl
  · intro pre r post f hrules hpre hf
    rw [compileEntry_of_toRules hr, compile_of_declaredType (declaredType_of_length_le_one hle)]
    generalize (rules.filterMap Rule.baseType?).head? = t at hpre hf ⊢
    subst hrules
    have hbound : ∀ q ∈ pre, ∃ c, reg.bind t q = .ok c := fun q hq =>
      (hpre q hq).imp fun _ => bind_eq_ok_iff.2
    rw [mapM_error_of_first hbound (bind_eq_error_iff.2 hf)]
    rfl
  · intro hall
    have hbinds : ∀ r ∈ rules, ∃ c, reg.bind (rules.filterMap Rule.baseType?).head? r = .ok c :=
      fun r hr => (hall r hr).imp fun _ => bind_eq_ok_iff.2
    obtain ⟨bound, hbound⟩ := mapM_ok_of_forall hbinds
    refine ⟨bound, ⟨_, byPriority bound⟩, ?_, ?_, rfl, byPriority_stable bound⟩
    · rw [compileEntry_of_toRules hr, compile_of_declaredType (declaredType_of_length_le_one hle),
        hbound]
      rfl
    · have hmap : (rules.map id).mapM (reg.bind (rules.filterMap Rule.baseType?).head?) =
          .ok bound := by
        rwa [List.map_id]
      exact (mapM_map_ok hmap).imp fun _ _ h => bind_eq_ok_iff.1 h

end Registry

/-- With the builtin rules, `string|nope_rule` reads as two rules of the string type: the first
binds and the second names no rule, so building fails with that rule unknown for the type; and
`string|min:3` binds both rules, into a chain of the string type. -/
theorem string_definitions_build_or_stop :
    Registry.builtins.compileEntry ("x", .text "string|nope_rule") =
        .error (.unknownRule "nope_rule" (some .string)) ∧
      ∃ bound chain, Registry.builtins.compileEntry ("x", .text "string|min:3") = .ok ("x", chain) ∧
        chain.baseType = some .string ∧ StableByPriority bound chain.rules := by
  have hnope : (Definition.text "string|nope_rule").toRules = .ok [⟨"string", []⟩, ⟨"nope_rule", []⟩] :=
    eq_ok_of_toOption (by decide +kernel)
  have hmin : (Definition.text "string|min:3").toRules = .ok [⟨"string", []⟩, ⟨"min", ["3"]⟩] :=
    eq_ok_of_toOption (by decide +kernel)
  have hbinds : ∀ r ∈ [Rule.mk "string" [], Rule.mk "min" ["3"]],
      ∃ c, Registry.builtins.BoundFor (some .string) r c := by
    have hok : ∀ r ∈ [Rule.mk "string" [], Rule.mk "min" ["3"]],
        (Registry.builtins.bind (some .string) r).toOption.map (fun _ => ()) = some () := by
      decide +kernel
    intro r hr
    obtain ⟨c, hc, -⟩ := exists_ok_of_toOption_map (hok r hr)
    exact ⟨c, Registry.bind_eq_ok_iff.1 hc⟩
  have hfault : Registry.builtins.BindFault (some .string) ⟨"nope_rule", []⟩
      (.unknownRule "nope_rule" (some .string)) :=
    .unresolved (eq_unknownRule_of_check (by decide +kernel))
  obtain ⟨-, hnope'⟩ := Registry.compileEntry_first_fault_or_chain Registry.builtins "x"
    (.text "string|nope_rule")
  obtain ⟨-, hmin'⟩ := Registry.compileEntry_first_fault_or_chain Registry.builtins "x"
    (.text "string|min:3")
  obtain ⟨-, hstop⟩ := hnope' _ hnope
  obtain ⟨-, hbuild⟩ := hmin' _ hmin
  refine ⟨(hstop (by decide +kernel)).1 [⟨"string", []⟩] ⟨"nope_rule", []⟩ [] _ rfl
    (fun q hq => hbinds q (by simp_all)) hfault, ?_⟩
  obtain ⟨bound, chain, hchain, -, hty, hstable⟩ := (hbuild (by decide +kernel)).2 hbinds
  exact ⟨bound, chain, hchain, hty, hstable⟩

end FieldRules

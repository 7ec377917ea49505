import FieldRules.Proofs.AcceptedParams

namespace FieldRules

namespace Registry

/-- The builtin tables, and custom rules given by predicates of the kind `P`. -/
structure BuiltinsWith (P : CustomRule → Prop) (r : Registry) : Prop where
  tables : r.BuiltinTables
  custom : ∀ p ∈ r.custom, ∃ c : CustomRule, P c ∧ p.2 = .extension c.handler

variable {P : CustomRule → Prop} {r : Registry}

theorem BuiltinsWith.extend (h : r.BuiltinsWith P) {c : CustomRule} (hc : P c) :
    (r.extend c).BuiltinsWith P := by
  refine ⟨⟨h.tables.base, h.tables.additional⟩, fun p hp => ?_⟩
  rcases Assoc.mem_insert hp with hp | rfl
  · exact h.custom p hp
  · exact ⟨c, hc, rfl⟩

theorem builtins_builtinsWith : builtins.BuiltinsWith P :=
  ⟨builtinTables_builtins, fun p hp => by rw [builtins_custom] at hp; cases hp⟩

theorem builtinsWith_foldl (customs : List CustomRule) (h : ∀ c ∈ customs, P c) :
    (customs.foldl extend builtins).BuiltinsWith P := by
  have h₀ : builtins.BuiltinsWith P := builtins_builtinsWith
  generalize builtins = r at h₀
  induction customs generalizing r with
  | nil => exact h₀
  | cons c cs ih =>
    exact ih (fun c' hc' => h c' (List.mem_cons_of_mem c hc')) _ (h₀.extend (h c List.mem_cons_self))

/-- What a handler of such a registry is: a builtin, reached as the object table's `shape` when
it is the builtin `shape`, or the handler of a predicate of the kind. -/
def HandlerOf (P : CustomRule → Prop) (k : RuleKind) : Handler → Prop
  | .builtin b => b = .object .shape → k = .additional .object "shape"
  | .extension x => ∃ c, P c ∧ x = c.handler

/-- An extension of such a registry is a predicate's, so its check always decides. -/
theorem HandlerOf.decides {k : RuleKind} {x : Extension} (h : HandlerOf P k (.extension x)) :
    (Handler.extension x).Decides := by
  obtain ⟨c, -, rfl⟩ := h
  exact c.handler_decides

theorem BuiltinsWith.resolve_handlerOf (hr : r.BuiltinsWith P) {rule : Rule} {t : Option BaseType}
    {res : RuleKind × Handler} (h : r.resolve rule t = .ok res) : HandlerOf P res.1 res.2 := by
  obtain ⟨k, hd⟩ := res
  rcases resolve_cases h with ⟨-, c, hc, -⟩ | ⟨-, hb, -⟩ | ⟨-, parent, name, ha, -⟩
  · obtain ⟨cr, hp, hcr⟩ := hr.custom _ hc
    simp only at hcr
    subst hcr
    exact ⟨cr, hp, rfl⟩
  · -- no untyped rule is a `shape`
    obtain ⟨b, hb', hmem⟩ := hr.tables.base _ hb
    simp only at hb'
    subst hb'
    rintro rfl
    simp [Builtin.untyped, BaseType.all, BaseType.name] at hmem
  · obtain ⟨hk, tbl, htbl, hmem⟩ := additionalHandler_eq_some ha
    obtain ⟨b, hb, hty⟩ := hr.tables.additional _ htbl _ hmem
    simp only at hk hb hty
    subst hk hb
    -- the only `shape` of a typed table is the object table's, under its own name
    rintro rfl
    cases parent <;> simp [Builtin.typed] at hty
    rw [hty]

theorem BuiltinsWith.compile_handlerOf (hr : r.BuiltinsWith P) {field : String}
    {rules : List Rule} {ch : Chain} (h : r.compile field rules = .ok ch) {c : CompiledRule}
    (hc : c ∈ ch.rules) : HandlerOf P c.kind c.handler :=
  hr.resolve_handlerOf (bind_ok (compile_mem h hc)).1

theorem insertByPriority_append {c : CompiledRule} {pre post : List CompiledRule}
    (hpre : ∀ d ∈ pre, c.priority < d.priority) (hpost : ∀ d ∈ post.head?, d.priority ≤ c.priority) :
    insertByPriority c (pre ++ post) = pre ++ c :: post := by
  induction pre with
  | nil =>
    cases post with
    | nil => rfl
    | cons d ds => simp [insertByPriority, hpost d rfl]
  | cons d ds ih =>
    have hd : ¬d.priority ≤ c.priority := Int.not_le.2 (hpre d List.mem_cons_self)
    simp [insertByPriority, hd, ih fun d' hd' => hpre d' (List.mem_cons_of_mem d hd')]

/-- A chain's rules are in the order of the stable merge sort by descending priority: inserting
each rule before the later rules of no higher priority is how the merge sort places it. -/
theorem byPriority_eq_mergeSort (rules : List CompiledRule) :
    byPriority rules = rules.mergeSort fun a b => decide (b.priority ≤ a.priority) := by
  have htrans : ∀ a b c : CompiledRule, decide (b.priority ≤ a.priority) = true →
      decide (c.priority ≤ b.priority) = true → decide (c.priority ≤ a.priority) = true := by
    intro a b c hab hbc
    simp only [decide_eq_true_eq] at hab hbc ⊢
    omega
  have htotal : ∀ a b : CompiledRule,
      (decide (b.priority ≤ a.priority) || decide (a.priority ≤ b.priority)) = true := by
    intro a b
    simp only [Bool.or_eq_true, decide_eq_true_eq]
    omega
  induction rules with
  | nil => simp [byPriority]
  | cons c cs ih =>
    obtain ⟨pre, post, hsort, hrest, hpre⟩ := List.mergeSort_cons htrans htotal c cs
    -- the merge sort is ordered, so what it puts after `c` has no higher priority
    have hsorted := List.pairwise_mergeSort htrans htotal (c :: cs)
    rw [hsort, List.pairwise_append] at hsorted
    have hpost : ∀ d ∈ post.head?, d.priority ≤ c.priority := by
      intro d hd
      have := (List.pairwise_cons.1 hsorted.2.1).1 d (List.mem_of_mem_head? hd)
      simpa using this
    have hpre' : ∀ d ∈ pre, c.priority < d.priority := by
      intro d hd
      have := hpre d hd
      simp only [Bool.not_eq_eq_eq_not, Bool.not_true, decide_eq_false_iff_not] at this
      omega
    rw [hsort, ← insertByPriority_append hpre' hpost, ← hrest, ← ih]
    rfl

end Registry

end FieldRules

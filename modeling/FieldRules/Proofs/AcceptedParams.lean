import FieldRules.Proofs.Aborts
import FieldRules.Proofs.Run
import FieldRules.Proofs.AssocInsert

namespace FieldRules

theorem requireParams_ok {params : List String} {k : Nat} :
    requireParams params k = .ok () ↔ k ≤ params.length := by
  unfold requireParams
  split <;> simp_all

theorem forM_ok {α ε : Type} {g : α → Except ε Unit} {xs : List α} (h : xs.forM g = .ok ()) :
    ∀ x ∈ xs, g x = .ok () := by
  induction xs with
  | nil => simp
  | cons x xs ih =>
    simp only [List.forM] at h
    obtain ⟨u, hx, h⟩ := Except.bind_eq_ok h
    intro y hy
    rcases List.mem_cons.1 hy with rfl | hy
    · exact hx
    · exact ih h y hy

theorem requireNumbers_ok {params : List String} {k : Nat} (h : requireNumbers params k = .ok ()) :
    k ≤ params.length ∧ ∀ p ∈ params.take k, (Binary64.read? p).isSome := by
  unfold requireNumbers at h
  obtain ⟨u, hp, h⟩ := Except.bind_eq_ok h
  refine ⟨requireParams_ok.1 hp, fun p hmem => ?_⟩
  have hg := forM_ok h p hmem
  split at hg
  · assumption
  · cases hg

theorem numberParam_of_requireNumbers {params : List String} {k i : Nat}
    (h : requireNumbers params k = .ok ()) (hi : i < k) : ∃ x, Check.numberParam params i = .ok x := by
  obtain ⟨hlen, hnum⟩ := requireNumbers_ok h
  have hget : params[i]? = some params[i] := List.getElem?_eq_getElem (by omega)
  have hread : (Binary64.read? params[i]).isSome :=
    hnum _ (List.mem_iff_getElem.2 ⟨i, by simp; omega, by simp⟩)
  obtain ⟨x, hx⟩ := Option.isSome_iff_exists.1 hread
  exact ⟨x, by simp [Check.numberParam, hget, hx]⟩

theorem pattern_compiles {params : List String}
    (h : (Builtin.text .pattern).validateParams params = .ok ()) :
    ∃ re, Regex.compile ((params.head?).getD "") = .ok re := by
  obtain ⟨_, -, h⟩ := Except.bind_eq_ok h
  obtain ⟨re, hre, -⟩ := Except.bind_eq_ok h
  exact ⟨re, hre⟩

namespace Check

variable {params : List String}

theorem text_decides {r : TextRule} (h : (Builtin.text r).validateParams params = .ok ())
    (w : Json) : ∃ d, text r w params = .ok d := by
  cases r
  case min | max | length =>
    obtain ⟨x, hx⟩ := numberParam_of_requireNumbers h Nat.zero_lt_one
    cases w <;> simp [text, hx, bind, Except.bind]
  case between =>
    obtain ⟨x, hx⟩ := numberParam_of_requireNumbers h (by decide : 0 < 2)
    obtain ⟨y, hy⟩ := numberParam_of_requireNumbers h (by decide : 1 < 2)
    cases w <;> simp [text, hx, hy, bind, Except.bind]
  case pattern =>
    obtain ⟨re, hre⟩ := pattern_compiles h
    cases w <;> simp [text, hre, bind, Except.bind]
  all_goals cases w <;> simp [text]

theorem number_decides {r : NumberRule} (h : (Builtin.number r).validateParams params = .ok ())
    (w : Json) : ∃ d, number r w params = .ok d := by
  cases r
  case min | max | multipleOf =>
    obtain ⟨x, hx⟩ := numberParam_of_requireNumbers h Nat.zero_lt_one
    simp [number, hx, bind, Except.bind]
  case between =>
    obtain ⟨x, hx⟩ := numberParam_of_requireNumbers h (by decide : 0 < 2)
    obtain ⟨y, hy⟩ := numberParam_of_requireNumbers h (by decide : 1 < 2)
    simp [number, hx, hy, bind, Except.bind]
  case decimal =>
    -- the count asked for is one, or two when a second parameter is given
    obtain ⟨x, hx⟩ := numberParam_of_requireNumbers h
      (show 0 < min (max params.length 1) 2 by omega)
    by_cases hlen : params.length > 1
    · obtain ⟨y, hy⟩ := numberParam_of_requireNumbers h
        (show 1 < min (max params.length 1) 2 by omega)
      simp [number, hx, hy, hlen, bind, Except.bind]
    · simp [number, hx, hlen, bind, Except.bind]
  all_goals simp [number]

theorem list_decides {r : ListRule} (h : (Builtin.list r).validateParams params = .ok ())
    (w : Json) : ∃ d, list r w params = .ok d := by
  cases r
  case min | max | length =>
    obtain ⟨x, hx⟩ := numberParam_of_requireNumbers h Nat.zero_lt_one
    simp [list, hx, bind, Except.bind]
  all_goals simp [list]

theorem file_decides {r : FileRule} (h : (Builtin.file r).validateParams params = .ok ())
    (w : Json) : ∃ d, file r w params = .ok d := by
  cases r
  case min | max =>
    obtain ⟨x, hx⟩ := numberParam_of_requireNumbers h Nat.zero_lt_one
    simp [file, hx, bind, Except.bind]
  all_goals simp [file]

end Check

theorem Builtin.verdict_decides {b : Builtin} {params : List String}
    (h : b.validateParams params = .ok ()) (now : Calendar.Moment) (ctx : Context) (w : Json) :
    ∃ d, b.verdict now ctx w params = .ok d := by
  cases b with
  | text r => exact Check.text_decides h w
  | number r => exact Check.number_decides h w
  | list r => exact Check.list_decides h w
  | file r => exact Check.file_decides h w
  | object r => cases r <;> simp [Builtin.verdict]
  | _ => simp [Builtin.verdict]

theorem Rule.parse_error {s : String} {f : Fault} (h : Rule.parse s = .error f) :
    f.isCompileError := by
  unfold Rule.parse at h
  dsimp only at h
  split at h
  · cases h
    rfl
  · split at h
    · cases h
    · split at h
      · cases h
        rfl
      · split at h
        · cases hu : Rule.unionParams (Text.trim s) _ with
          | error f' =>
            rw [hu] at h
            cases h
            unfold Rule.unionParams at hu
            dsimp only at hu
            split at hu
            · cases hu
              rfl
            · cases hu
              rfl
            · split at hu
              · cases hu
              · cases hu
              · cases hu
                rfl
          | ok ps =>
            rw [hu] at h
            cases h
        · split at h <;> cases h

theorem Definition.toRules_error {d : Definition} {f : Fault} (h : d.toRules = .error f) :
    f.isCompileError := by
  cases d with
  | text s =>
    obtain ⟨_, -, hp⟩ := mapM_error_mem h
    exact Rule.parse_error hp
  | tokens ts =>
    obtain ⟨_, -, hp⟩ := mapM_error_mem h
    exact Rule.parse_error hp
  | rules rs => cases h

instance : LawfulBEq BaseType where
  rfl := by intro a; cases a <;> decide
  eq_of_beq := by intro a b; cases a <;> cases b <;> decide

namespace Registry

/-- Every untyped entry is a builtin that `Builtin.untyped` lists under its name, and every entry
of a typed table a builtin that `Builtin.typed` lists for the table's type under its name. -/
structure BuiltinTables (r : Registry) : Prop where
  base : ∀ p ∈ r.base, ∃ b, p.2 = .builtin b ∧ (p.1, b) ∈ Builtin.untyped
  additional : ∀ tbl ∈ r.additional, ∀ p ∈ tbl.2,
    ∃ b, p.2 = .builtin b ∧ (p.1, b) ∈ Builtin.typed tbl.1

theorem BuiltinTables.register {r : Registry} (h : r.BuiltinTables) {n : String} {b : Builtin}
    (hb : (n, b) ∈ Builtin.untyped) : (r.register n (.builtin b)).BuiltinTables := by
  refine ⟨fun p hp => ?_, h.additional⟩
  rcases Assoc.mem_insert hp with hp | rfl
  · exact h.base p hp
  · exact ⟨b, rfl, hb⟩

theorem BuiltinTables.registerAdditional {r : Registry} (h : r.BuiltinTables) {t : BaseType}
    {n : String} {b : Builtin} (hb : (n, b) ∈ Builtin.typed t) :
    (r.registerAdditional t n (.builtin b)).BuiltinTables := by
  refine ⟨h.base, fun tbl htbl p hp => ?_⟩
  rcases Assoc.mem_insert htbl with htbl | rfl
  · exact h.additional tbl htbl p hp
  · -- the table of `t` after the insertion: its old entries, or the new one
    rcases Assoc.mem_insert hp with hp | rfl
    · cases hl : r.additional.lookup t with
      | none => simp [hl] at hp
      | some old =>
        simp only [hl, Option.getD_some] at hp
        exact h.additional (t, old) (Assoc.mem_of_lookup_eq_some hl) p hp
    · exact ⟨b, rfl, hb⟩

theorem builtinTables_untyped (l : List (String × Builtin)) (hl : ∀ q ∈ l, q ∈ Builtin.untyped)
    {r : Registry} (h : r.BuiltinTables) :
    (l.foldl (fun r (n, b) => r.register n (.builtin b)) r).BuiltinTables := by
  induction l generalizing r with
  | nil => exact h
  | cons q l ih =>
    exact ih (fun q' hq' => hl q' (List.mem_cons_of_mem q hq'))
      (h.register (hl q List.mem_cons_self))

theorem builtinTables_typed (t : BaseType) (l : List (String × Builtin))
    (hl : ∀ q ∈ l, q ∈ Builtin.typed t) {r : Registry} (h : r.BuiltinTables) :
    (l.foldl (fun r (n, b) => r.registerAdditional t n (.builtin b)) r).BuiltinTables := by
  induction l generalizing r with
  | nil => exact h
  | cons q l ih =>
    exact ih (fun q' hq' => hl q' (List.mem_cons_of_mem q hq'))
      (h.registerAdditional (hl q List.mem_cons_self))

theorem builtinTables_builtins : builtins.BuiltinTables := by
  unfold builtins
  have h₀ : empty.BuiltinTables := ⟨fun _ h => by simp [empty] at h, fun _ h => by simp [empty] at h⟩
  have h₁ := builtinTables_untyped Builtin.untyped (fun _ h => h) h₀
  generalize Builtin.untyped.foldl _ empty = r₁ at h₁
  induction BaseType.all generalizing r₁ with
  | nil => exact h₁
  | cons t ts ih => exact ih _ (builtinTables_typed t _ (fun _ h => h) h₁)

theorem builtins_custom : builtins.custom = [] := by
  have hu : ∀ (l : List (String × Builtin)) (r : Registry),
      (l.foldl (fun r (n, b) => r.register n (.builtin b)) r).custom = r.custom := by
    intro l
    induction l with
    | nil => intro r; rfl
    | cons q l ih => intro r; exact ih _
  have ht : ∀ (t : BaseType) (l : List (String × Builtin)) (r : Registry),
      (l.foldl (fun r (n, b) => r.registerAdditional t n (.builtin b)) r).custom = r.custom := by
    intro t l
    induction l with
    | nil => intro r; rfl
    | cons q l ih => intro r; exact ih _
  unfold builtins
  generalize hr : Builtin.untyped.foldl _ empty = r₁
  have h₁ : r₁.custom = [] := by rw [← hr, hu]; rfl
  clear hr
  induction BaseType.all generalizing r₁ with
  | nil => exact h₁
  | cons t ts ih => exact ih _ (by dsimp only; rw [ht]; exact h₁)

/-- The registry `extend` alone makes from the builtin one: its untyped and typed tables are the
builtin ones, and its custom rules are given by predicates. -/
structure ExtendsBuiltins (r : Registry) : Prop where
  tables : r.BuiltinTables
  custom : ∀ p ∈ r.custom, ∃ c : CustomRule, p.2 = .extension c.handler

theorem ExtendsBuiltins.extend {r : Registry} (h : r.ExtendsBuiltins) (c : CustomRule) :
    (r.extend c).ExtendsBuiltins := by
  refine ⟨⟨h.tables.base, h.tables.additional⟩, fun p hp => ?_⟩
  rcases Assoc.mem_insert hp with hp | rfl
  · exact h.custom p hp
  · exact ⟨c, rfl⟩

theorem extendsBuiltins_foldl (customs : List CustomRule) :
    (customs.foldl extend builtins).ExtendsBuiltins := by
  have h₀ : builtins.ExtendsBuiltins :=
    ⟨builtinTables_builtins, fun p hp => by rw [builtins_custom] at hp; cases hp⟩
  generalize builtins = r at h₀
  induction customs generalizing r with
  | nil => exact h₀
  | cons c cs ih => exact ih _ (h₀.extend c)

theorem additionalHandler_eq_some {r : Registry} {parent : BaseType} {name : String}
    {res : RuleKind × Handler} (h : r.additionalHandler parent name = some res) :
    res.1 = .additional parent name ∧ ∃ tbl, (parent, tbl) ∈ r.additional ∧ (name, res.2) ∈ tbl := by
  unfold additionalHandler at h
  obtain ⟨hd, hbind, rfl⟩ := Option.map_eq_some_iff.1 h
  obtain ⟨tbl, htbl, hd⟩ := Option.bind_eq_some_iff.1 hbind
  exact ⟨rfl, tbl, Assoc.mem_of_lookup_eq_some htbl, Assoc.mem_of_lookup_eq_some hd⟩

/-- What resolution can give: for `custom:<name>` a custom rule of that name; otherwise an
untyped rule under the rule's name, or a rule of some type's table under the rule's name or, for
a dotted name, under the part after the dot. -/
theorem resolve_cases {r : Registry} {rule : Rule} {t : Option BaseType} {res : RuleKind × Handler}
    (h : r.resolve rule t = .ok res) :
    (rule.isCustom ∧ ∃ c, (c, res.2) ∈ r.custom ∧ res.1 = .custom c) ∨
    (rule.isCustom = false ∧ (rule.name, res.2) ∈ r.base ∧ res.1 = .base) ∨
    (rule.isCustom = false ∧ ∃ parent name, r.additionalHandler parent name = some res ∧
      (name = rule.name ∨ ∃ p, splitOnce rule.name '.' = some (p, name))) := by
  unfold resolve at h
  split at h
  · next hc =>
    split at h
    · cases h
    · next c _ _ =>
      split at h
      · next hd => cases h; exact .inl ⟨hc, c, Assoc.mem_of_lookup_eq_some hd, rfl⟩
      · cases h
  · next hc =>
    have hc' : rule.isCustom = false := by simpa using hc
    split at h
    · next hd => cases h; exact .inr (.inl ⟨hc', Assoc.mem_of_lookup_eq_some hd, rfl⟩)
    · dsimp only at h
      split at h
      · next parent child hdot =>
        split at h
        · next ha =>
          cases h
          obtain ⟨⟨p, child'⟩, hsplit, hmap⟩ := Option.bind_eq_some_iff.1 hdot
          obtain ⟨_, -, hpair⟩ := Option.map_eq_some_iff.1 hmap
          cases hpair
          exact .inr (.inr ⟨hc', _, _, ha, .inr ⟨p, hsplit⟩⟩)
        · cases h
      · split at h
        · next ha =>
          cases h
          obtain ⟨t', -, ht'⟩ := Option.bind_eq_some_iff.1 ha
          exact .inr (.inr ⟨hc', t', rule.name, ht', .inl rfl⟩)
        · split at h
          · next ha =>
            cases h
            obtain ⟨⟨t', _⟩, -, ht'⟩ := List.exists_of_findSome?_eq_some ha
            exact .inr (.inr ⟨hc', t', rule.name, ht', .inl rfl⟩)
          · cases h

end Registry

/-- A handler that never refuses to decide: a builtin, which decides once its parameters are
accepted, or an extension whose check always gives a verdict. -/
def Handler.Decides : Handler → Prop
  | .builtin _ => True
  | .extension x => ∀ v params ctx, ∃ d, x.check v params ctx = .ok d

theorem CustomRule.handler_decides (c : CustomRule) : (Handler.extension c.handler).Decides :=
  fun _ _ _ => ⟨_, rfl⟩

namespace Registry.ExtendsBuiltins

variable {r : Registry} {rule : Rule} {t : Option BaseType} {res : RuleKind × Handler}

theorem resolve_decides (hr : r.ExtendsBuiltins) (h : r.resolve rule t = .ok res) :
    res.2.Decides := by
  rcases resolve_cases h with ⟨-, c, hc, -⟩ | ⟨-, hb, -⟩ | ⟨-, parent, name, ha, -⟩
  · obtain ⟨cr, hcr⟩ := hr.custom _ hc
    rw [show res.2 = _ from hcr]
    exact cr.handler_decides
  · obtain ⟨b, hb', -⟩ := hr.tables.base _ hb
    rw [show res.2 = _ from hb']
    trivial
  · obtain ⟨-, tbl, htbl, hmem⟩ := additionalHandler_eq_some ha
    obtain ⟨b, hb', -⟩ := hr.tables.additional _ htbl _ hmem
    rw [show res.2 = _ from hb']
    trivial

theorem resolve_shape (hr : r.ExtendsBuiltins) (h : r.resolve rule t = .ok res)
    (hn : rule.name = "shape") : res = (.additional .object "shape", .builtin (.object .shape)) := by
  rcases resolve_cases h with ⟨hc, -⟩ | ⟨-, hb, -⟩ | ⟨-, parent, name, ha, hname⟩
  · simp [Rule.isCustom, hn] at hc
  · obtain ⟨b, -, hmem⟩ := hr.tables.base _ hb
    rw [hn] at hmem
    simp [Builtin.untyped, BaseType.all, BaseType.name] at hmem
  · have hname' : name = "shape" := by
      rcases hname with rfl | ⟨p, hsplit⟩
      · exact hn
      · rw [hn] at hsplit
        cases hsplit
    subst hname'
    obtain ⟨hk, tbl, htbl, hmem⟩ := additionalHandler_eq_some ha
    obtain ⟨b, hb, hty⟩ := hr.tables.additional _ htbl _ hmem
    obtain ⟨k, hd⟩ := res
    simp only at hk hb hty
    subst hk hb
    cases parent <;> simp [Builtin.typed] at hty
    subst hty
    rfl

end Registry.ExtendsBuiltins

namespace Registry

variable {r : Registry} {rule : Rule} {t : Option BaseType} {f : Fault}

theorem resolve_error (h : r.resolve rule t = .error f) : f.isCompileError := by
  unfold resolve at h
  split at h
  · split at h
    · cases h
      rfl
    · split at h
      · cases h
      · cases h
        rfl
  · split at h
    · cases h
    · dsimp only at h
      split at h
      · split at h
        · cases h
        · cases h
          rfl
      · split at h
        · cases h
        · split at h
          · cases h
          · cases h
            rfl

theorem bind_error (h : r.bind t rule = .error f) : f.isCompileError := by
  unfold Registry.bind at h
  rcases Except.bind_eq_error h with hres | ⟨⟨kind, hd⟩, -, h⟩
  · exact resolve_error hres
  · -- the handler refuses the rule's parameters
    dsimp only at h
    split at h
    · cases h
    · cases h
      rfl

theorem bind_ok {c : CompiledRule} (h : r.bind t rule = .ok c) :
    r.resolve rule t = .ok (c.kind, c.handler) ∧ c.rule = rule ∧
      c.handler.validateParams c.params = .ok () := by
  unfold Registry.bind at h
  obtain ⟨⟨kind, hd⟩, hres, h⟩ := Except.bind_eq_ok h
  dsimp only at h
  split at h
  · next hv =>
    cases h
    exact ⟨hres, rfl, hv⟩
  · cases h

theorem compile_error {field : String} {rules : List Rule} (h : r.compile field rules = .error f) :
    f.isCompileError := by
  unfold Registry.compile at h
  rcases Except.bind_eq_error h with ht | ⟨bt, -, h⟩
  · -- the rules declare base types that disagree
    unfold declaredType at ht
    split at ht
    · cases ht
    · cases ht
    · cases ht
      rfl
  · rcases Except.bind_eq_error h with hb | ⟨bound, -, h⟩
    · obtain ⟨_, -, hg⟩ := mapM_error_mem hb
      exact bind_error hg
    · cases h

theorem mem_insertByPriority {c x : CompiledRule} {rules : List CompiledRule} :
    x ∈ insertByPriority c rules ↔ x = c ∨ x ∈ rules := by
  induction rules with
  | nil => simp [insertByPriority]
  | cons d ds ih =>
    unfold insertByPriority
    split <;> simp [ih, or_left_comm]

theorem mem_byPriority {x : CompiledRule} {rules : List CompiledRule} :
    x ∈ byPriority rules ↔ x ∈ rules := by
  induction rules with
  | nil => simp [byPriority]
  | cons c cs ih =>
    simp only [byPriority, List.foldr_cons] at ih ⊢
    rw [mem_insertByPriority, ih, List.mem_cons]

theorem compile_mem_rules {field : String} {rules : List Rule} {ch : Chain}
    (h : r.compile field rules = .ok ch) {c : CompiledRule} (hc : c ∈ ch.rules) :
    c.rule ∈ rules ∧ r.bind ch.baseType c.rule = .ok c := by
  unfold Registry.compile at h
  obtain ⟨bt, -, h⟩ := Except.bind_eq_ok h
  obtain ⟨bound, hb, h⟩ := Except.bind_eq_ok h
  cases h
  obtain ⟨x, hx, hbind⟩ := mapM_ok_mem hb (mem_byPriority.1 hc)
  rw [(bind_ok hbind).2.1]
  exact ⟨hx, hbind⟩

theorem compile_mem {field : String} {rules : List Rule} {ch : Chain}
    (h : r.compile field rules = .ok ch) {c : CompiledRule} (hc : c ∈ ch.rules) :
    r.bind ch.baseType c.rule = .ok c :=
  (compile_mem_rules h hc).2

theorem compileEntry_error {entry : String × Definition} (h : r.compileEntry entry = .error f) :
    f.isCompileError := by
  unfold compileEntry at h
  rcases Except.bind_eq_error h with hr | ⟨rules, -, h⟩
  · exact Definition.toRules_error hr
  · rcases Except.bind_eq_error h with hc | ⟨c, -, h⟩
    · exact compile_error hc
    · cases h

theorem compileEntry_ok_rules {entry : String × Definition} {pc : String × Chain}
    (h : r.compileEntry entry = .ok pc) :
    ∃ rules, entry.2.toRules = .ok rules ∧ r.compile entry.1 rules = .ok pc.2 := by
  unfold compileEntry at h
  obtain ⟨rules, hr, h⟩ := Except.bind_eq_ok h
  obtain ⟨c, hc, h⟩ := Except.bind_eq_ok h
  cases h
  exact ⟨rules, hr, hc⟩

theorem compileEntry_ok {entry : String × Definition} {pc : String × Chain}
    (h : r.compileEntry entry = .ok pc) : ∃ rules, r.compile entry.1 rules = .ok pc.2 := by
  obtain ⟨rules, -, hc⟩ := compileEntry_ok_rules h
  exact ⟨rules, hc⟩

end Registry

/-- Rules each named `shape` hold a schema that can be read. -/
def ShapesReadable (rules : List Rule) : Prop :=
  ∀ r ∈ rules, r.name = "shape" → ∃ s, Schema.ofText ((r.params.head?).getD "") = .ok s

/-- A chain none of whose rules refuses to decide: each rule is bound to a handler that decides,
with parameters the handler accepted, and a rule named `shape` holds a readable schema. -/
structure Chain.Checkable (c : Chain) : Prop where
  decides : ∀ r ∈ c.rules, r.handler.Decides
  accepted : ∀ r ∈ c.rules, r.handler.validateParams r.params = .ok ()
  shapes : ShapesReadable (c.rules.map (·.rule))

theorem Registry.ExtendsBuiltins.compile_checkable {r : Registry} (hr : r.ExtendsBuiltins)
    {field : String} {rules : List Rule} {ch : Chain} (h : r.compile field rules = .ok ch) :
    ch.Checkable := by
  refine ⟨fun c hc => ?_, fun c hc => ?_, fun rl hrl hn => ?_⟩
  · exact hr.resolve_decides (Registry.bind_ok (Registry.compile_mem h hc)).1
  · exact (Registry.bind_ok (Registry.compile_mem h hc)).2.2
  · obtain ⟨c, hc, rfl⟩ := List.mem_map.1 hrl
    obtain ⟨hres, -, hv⟩ := Registry.bind_ok (Registry.compile_mem h hc)
    obtain ⟨hk, hh⟩ := Prod.mk.inj (hr.resolve_shape hres hn)
    -- a `shape` is bound as the object table's rule, so it is handed its own parameters
    have hp : c.params = c.rule.params := by simp [CompiledRule.params, hk, RuleKind.boundParams]
    rw [hh, hp] at hv
    obtain ⟨_, -, hv⟩ := Except.bind_eq_ok hv
    obtain ⟨s, hs, -⟩ := Except.bind_eq_ok hv
    exact ⟨s, hs⟩

/-- Whether a fault is a rule's check refusing to decide. -/
def Fault.isRuleExecution : Fault → Bool
  | .ruleExecution .. => true
  | _ => false

theorem Fault.not_isRuleExecution {f : Fault} (h : f.isCompileError) : f.isRuleExecution = false := by
  cases f <;> simp_all [Fault.isCompileError, Fault.isRuleExecution]

theorem eq_unknownRule_of_check {α : Type} {x : Except Fault α} {n : String} {t : Option BaseType}
    (h : (match x with | .error (.unknownRule m t') => m == n && t' == t | _ => false) = true) :
    x = .error (.unknownRule n t) := by
  cases x with
  | ok _ => cases h
  | error f =>
    cases f with
    | unknownRule m t' =>
      simp only [Bool.and_eq_true, beq_iff_eq] at h
      rw [h.1, h.2]
    | _ => cases h

namespace Engine

variable (e : Engine)

theorem check_extension_aborts {P : Fault → Prop} (fuel : Nat) (ctx : Context) {x : Extension}
    (hx : (Handler.extension x).Decides) (v : Option Json) (params : List String) :
    AbortsOnly P (e.check (fuel + 1) ctx (.extension x) v params) := by
  obtain ⟨d, hd⟩ := hx v params ctx
  rw [e.check_extension_eq, hd]
  exact AbortsOnly.bind (AbortsOnly.of_modify _) fun _ => AbortsOnly.of_lift fun f hf => by cases hf

/-- No run over a registry that `extend` made from the builtin one aborts because a check refused
to decide. By induction along the three functions: the chains a run builds are checkable, and a
check of a rule of a checkable chain decides, or aborts with a fault of building (a union's rule
set) or of a nested schema. -/
theorem no_refused_check (hr : e.registry.ExtendsBuiltins) :
    (∀ fuel data schema, AbortsOnly (·.isRuleExecution = false) (e.run fuel data schema)) ∧
    (∀ fuel inst chain bail, chain.Checkable →
      AbortsOnly (·.isRuleExecution = false) (e.runChain fuel inst chain bail)) ∧
    (∀ fuel ctx h v params, h.Decides → h.validateParams params = .ok () →
      ShapesReadable ctx.chain → AbortsOnly (·.isRuleExecution = false) (e.check fuel ctx h v params)) := by
  refine Engine.run.mutual_induct e _ _ _ ?run0 ?run ?chain0 ?chain ?check0 ?ext1 ?ext2 ?ext3
    ?presence ?union ?absent ?shape ?shapeOther ?strictParams ?strictShape ?strictOther ?verdict
  case run0 => intro data schema; rw [Engine.run.eq_1]; exact AbortsOnly.of_pure _
  case run =>
    intro fuel data schema ih
    refine e.run_succ_aborts (fun f hf => ?_) fun chains hchains p c path v hinst => ?_
    · obtain ⟨_, -, hentry⟩ := mapM_error_mem hf
      exact Fault.not_isRuleExecution (Registry.compileEntry_error hentry)
    · -- the instance runs a chain the schema built
      obtain ⟨entry, -, hentry⟩ := mapM_ok_mem hchains (e.mem_of_fieldInstances hinst)
      obtain ⟨rules, hrules⟩ := Registry.compileEntry_ok hentry
      exact ih p c path v (hr.compile_checkable hrules)
  case chain0 => intro inst chain bail _; rw [Engine.runChain.eq_1]; exact AbortsOnly.of_pure _
  case chain =>
    intro fuel inst chain bail ih hck
    exact e.runChain_succ_aborts fun r hr =>
      ih r (hck.decides r hr) (hck.accepted r hr) hck.shapes
  case check0 => intro ctx h v params _ _ _; rw [Engine.check.eq_1]; exact AbortsOnly.of_pure _
  case ext1 => intro n ctx x v params _ _ _ hx _ _; exact e.check_extension_aborts n ctx hx v params
  case ext2 => intro n ctx x v params _ _ _ hx _ _; exact e.check_extension_aborts n ctx hx v params
  case ext3 => intro n ctx x v params _ hx _ _; exact e.check_extension_aborts n ctx hx v params
  case presence =>
    intro fuel ctx v params r _ _ _
    rw [Engine.check.eq_3]
    exact AbortsOnly.of_pure _
  case union =>
    intro fuel ctx v params ih _ hacc _
    -- the rule sets and the flag were read when the chain was built
    obtain ⟨_, -, hacc⟩ := Except.bind_eq_ok hacc
    obtain ⟨sets, hsets, hacc⟩ := Except.bind_eq_ok hacc
    obtain ⟨stop, hstop, -⟩ := Except.bind_eq_ok hacc
    rw [Engine.check.eq_4]
    refine AbortsOnly.of_lift_bind (fun f hf => by simp [hsets, Except.mapError] at hf)
      fun _ _ => AbortsOnly.of_lift_bind (fun f hf => by simp [hstop, Except.mapError] at hf)
      fun _ _ => ?_
    refine AbortsOnly.ite (AbortsOnly.of_pure _) (AbortsOnly.bind
      (AbortsOnly.forIn _ _ fun set _ matched => ?_) fun matched =>
        AbortsOnly.ite (AbortsOnly.of_pure _) (AbortsOnly.of_pure _))
    -- a rule set is built when it runs: it aborts with a fault of building, or runs checkable
    refine AbortsOnly.ite (AbortsOnly.of_lift_bind
      (fun f hf => Fault.not_isRuleExecution (Registry.compile_error hf)) fun chain hchain =>
        AbortsOnly.bind (ih chain (hr.compile_checkable hchain)) fun fs => ?_) (AbortsOnly.of_pure _)
    exact AbortsOnly.ite (AbortsOnly.ite (AbortsOnly.of_pure _) (AbortsOnly.of_pure _))
      (AbortsOnly.of_pure _)
  case absent =>
    intro fuel ctx b params h₁ h₂ _ _ _
    rw [Engine.check.eq_5 _ _ _ _ _ h₁ h₂]
    exact AbortsOnly.of_pure _
  case shape =>
    -- a nested schema was read when the chain was built; a fault of its run is wrapped
    intro fuel ctx params fs _ _ hacc _
    obtain ⟨_, -, hacc⟩ := Except.bind_eq_ok hacc
    obtain ⟨schema, hschema, -⟩ := Except.bind_eq_ok hacc
    exact e.check_shape_aborts (fun f hf => by simp [hschema, Except.mapError] at hf) fun _ => rfl
  case shapeOther =>
    intro fuel ctx params w h _ _ _
    rw [Engine.check.eq_7 _ _ _ _ _ h]
    exact AbortsOnly.of_pure _
  case strictParams =>
    intro fuel ctx params fs h _ _ _
    rw [Engine.check.eq_8, if_pos h]
    refine AbortsOnly.bind (AbortsOnly.of_pure _) fun allowed => ?_
    dsimp only
    split
    · exact AbortsOnly.of_pure _
    · split <;> exact AbortsOnly.of_pure _
  case strictShape =>
    -- the allowed keys come from the chain's `shape`, whose schema reads
    intro fuel ctx params fs h _ _ hshapes
    rw [Engine.check.eq_8, if_neg h]
    refine AbortsOnly.of_lift_bind (fun f hf => ?_) fun keys _ =>
      AbortsOnly.bind (AbortsOnly.of_pure _) fun allowed => ?_
    · split at hf
      · next shape hfind =>
        obtain ⟨s, hs⟩ := hshapes shape (List.mem_of_find?_eq_some hfind)
          (by simpa using List.find?_some hfind)
        simp [hs, Except.map, Except.mapError] at hf
      · cases hf
    · dsimp only
      split
      · exact AbortsOnly.of_pure _
      · split <;> exact AbortsOnly.of_pure _
  case strictOther =>
    intro fuel ctx params w h _ _ _
    rw [Engine.check.eq_9 _ _ _ _ _ h]
    exact AbortsOnly.of_pure _
  case verdict =>
    intro fuel ctx params b w h₁ h₂ h₃ h₄ h₅ h₆ _ hacc _
    rw [Engine.check.eq_10 _ _ _ _ _ _ h₁ h₂ h₃ h₄ h₅ h₆]
    obtain ⟨d, hd⟩ := Builtin.verdict_decides hacc e.now ctx w
    exact AbortsOnly.of_lift fun f hf => by simp [hd, Except.mapError] at hf

theorem validate_no_refused_check (hr : e.registry.ExtendsBuiltins) (data : Json) (schema : Schema)
    (rule field source : String) : e.validate data schema ≠ .error (.ruleExecution rule field source) := by
  intro h
  have := (e.no_refused_check hr).1 _ data schema [] _ h
  simp [Fault.isRuleExecution] at this

end Engine

/-- How many leading parameters a builtin's check or message reads by position without looking
whether they are there: the bound of a length or size rule, both bounds of a `between`, the
pattern of `regex`, the format of a date `format`, and the other field of `same` and
`different`. -/
def Builtin.positionalParams : Builtin → Nat
  | .text .between | .number .between | .date .between => 2
  | .text .min | .text .max | .text .length | .text .pattern => 1
  | .number .min | .number .max | .number .multipleOf => 1
  | .list .min | .list .max | .list .length => 1
  | .file .min | .file .max => 1
  | .date .format => 1
  | .comparison .same | .comparison .different => 1
  | _ => 0

theorem Builtin.positionalParams_le {b : Builtin} {params : List String}
    (h : b.validateParams params = .ok ()) : b.positionalParams ≤ params.length := by
  have hnum : ∀ {k}, requireNumbers params k = .ok () → k ≤ params.length :=
    fun h => (requireNumbers_ok h).1
  have hreq : ∀ {k}, requireParams params k = .ok () → k ≤ params.length :=
    fun h => requireParams_ok.1 h
  cases b with
  | text r =>
    cases r
    case min | max | length | between => exact hnum h
    case pattern =>
      obtain ⟨_, hp, -⟩ := Except.bind_eq_ok h
      exact hreq hp
    all_goals exact Nat.zero_le _
  | number r =>
    cases r
    case min | max | multipleOf | between => exact hnum h
    all_goals exact Nat.zero_le _
  | list r =>
    cases r
    case min | max | length => exact hnum h
    all_goals exact Nat.zero_le _
  | file r =>
    cases r
    case min | max => exact hnum h
    all_goals exact Nat.zero_le _
  | date r =>
    cases r
    case between | format => exact hreq h
    all_goals exact Nat.zero_le _
  | comparison r =>
    cases r
    case same | different => exact hreq h
    all_goals exact Nat.zero_le _
  | _ => exact Nat.zero_le _

/-- With the builtin rules and custom rules given by predicates, no validation aborts because a
rule's check refused to decide, whatever the schema, data, options and messages: every parameter
a check reads was accepted when its chain was built, and each one a builtin reads by position is
there. -/
theorem validate_never_faults_in_a_check (customs : List CustomRule) (config : Config)
    (formatter : Formatter) (now : Calendar.Moment) (data : Json) (schema : Schema) :
    (∀ rule field source,
      (Engine.mk (customs.foldl Registry.extend Registry.builtins) config formatter now).validate
        data schema ≠ .error (.ruleExecution rule field source)) ∧
    ∀ (b : Builtin) (params : List String), b.validateParams params = .ok () →
      b.positionalParams ≤ params.length :=
  ⟨Engine.validate_no_refused_check _ (Registry.extendsBuiltins_foldl customs) data schema,
    fun _ _ h => Builtin.positionalParams_le h⟩

/-- With the builtin rules, a validation of a `between` rule never faults in a check, and
`between` accepts its two bounds, as many as it reads by position. -/
theorem between_takes_two_bounds :
    (∀ rule field source,
      (Engine.mk (([] : List CustomRule).foldl Registry.extend Registry.builtins) Config.default
          ⟨Catalog.empty, none⟩ default).validate (.obj [("n", .num (.nat 5))])
        ⟨[("n", .text "between:1,9")]⟩ ≠ .error (.ruleExecution rule field source)) ∧
      (Builtin.number .between).validateParams ["1", "9"] = .ok () ∧
      (Builtin.number .between).positionalParams ≤ ["1", "9"].length := by
  have hv : (Builtin.number .between).validateParams ["1", "9"] = .ok () := by decide +kernel
  have h := validate_never_faults_in_a_check [] Config.default ⟨Catalog.empty, none⟩ default
    (.obj [("n", .num (.nat 5))]) ⟨[("n", .text "between:1,9")]⟩
  exact ⟨h.1, hv, h.2 _ _ hv⟩

end FieldRules

import FieldRules.Proofs.FuelStable
import FieldRules.Proofs.RenderRead
import FieldRules.Proofs.RuleText
import FieldRules.Proofs.SchemaOrder

namespace FieldRules

/-- The size of a union's rule sets: the characters their JSON text takes at least, when the
parameter is a JSON array of rule sets; nothing otherwise. -/
def unionSize (param : String) : Nat :=
  match Json.read param with
  | .ok (.arr items) => if items.all Json.isRuleSet then (Json.arr items).textSize else 0
  | _ => 0

/-- How far the runs a rule starts can nest, by its first parameter: a union's rule sets by
their size, a shape's schema by the length of its text. Other rules start no run. -/
def Handler.nestingSize : Handler → List String → Nat
  | .builtin .union, params => unionSize (params.head?.getD "")
  | .builtin (.object .shape), params => (params.head?.getD "").length
  | _, _ => 0

/-- The nesting size a rule has whatever handler it resolves to: a union's by its rule sets,
any other rule's by the length of its first parameter. -/
def Rule.nestingSize (r : Rule) : Nat :=
  if r.name = "union" then unionSize (r.params.head?.getD "") else (r.params.head?.getD "").length

theorem unionSize_le (param : String) : unionSize param ≤ param.length := by
  unfold unionSize
  split
  · next items h =>
    split
    · exact Json.textSize_le_of_read h
    · exact Nat.zero_le _
  · exact Nat.zero_le _

theorem unionSize_empty : unionSize "" = 0 := Nat.le_zero.1 (unionSize_le "")

theorem unionSize_render_le (v : Json) : unionSize v.render ≤ v.textSize := by
  unfold unionSize
  split
  · next items h =>
    split
    · next hall =>
      rw [Json.eq_of_read_render h fun x hx => List.all_eq_true.1 hall x hx]
    · exact Nat.zero_le _
  · exact Nat.zero_le _

theorem unionSize_render_of_readLeading {w v : Json} {rest : String} {n : Nat}
    (h : Json.readLeading (w.render ++ rest) = .ok (some (v, n))) :
    unionSize v.render ≤ unionSize w.render := by
  unfold unionSize
  split
  · next items hv =>
    split
    · next hall =>
      -- what is read back is an array of rule sets, so it is the value written at the front
      have hitems : ∀ x ∈ items, x.isRuleSet := fun x hx => List.all_eq_true.1 hall x hx
      have hvw : v = .arr items := Json.eq_of_read_render hv hitems
      subst hvw
      rw [Json.eq_of_readLeading_render rest h hitems, hv]
      simp only [if_pos hall, le_refl]
    · exact Nat.zero_le _
  · exact Nat.zero_le _

theorem length_trim_le (s : String) : (Text.trim s).length ≤ s.length := by
  obtain ⟨-, B₁, B₂, -, -, hs⟩ := Text.trimChars_spec s.toList
  have hlen := congrArg List.length hs
  rw [← String.length_toList, ← String.length_toList (s := s), Text.toList_trim]
  simp only [List.length_append] at hlen
  omega

theorem length_le_intercalate {α : Type} (sep : List α) :
    ∀ {Ps : List (List α)} {P : List α}, P ∈ Ps → P.length ≤ (sep.intercalate Ps).length
  | [_], _, h => by
    rw [List.mem_singleton] at h
    simp [h]
  | Q :: R :: rest, P, h => by
    rw [List.intercalate_cons_cons, List.length_append, List.length_append]
    rcases List.mem_cons.1 h with rfl | h
    · omega
    · have := length_le_intercalate sep h
      omega

theorem length_le_of_mem_splitTopLevel {sep : Char} {s p : String} (h : p ∈ splitTopLevel sep s) :
    p.length ≤ s.length := by
  simp only [splitTopLevel, List.mem_map] at h
  obtain ⟨P, hP, rfl⟩ := h
  have hjoin : List.intercalate [sep] (splitChars sep SplitState.initial [] s.toList) =
      [].reverse ++ s.toList := intercalate_splitChars _ _ _
  rw [String.length_ofList, ← String.length_toList (s := s)]
  simp only [List.reverse_nil, List.nil_append] at hjoin
  rw [← hjoin]
  simpa using length_le_intercalate [sep] hP

theorem Rule.nestingSize_le_of_parse {tok : String} {r : Rule} (h : Rule.parse tok = .ok r) :
    r.nestingSize ≤ tok.length := by
  obtain ⟨-, hcases⟩ := parse_eq_ok h
  have htrim := length_trim_le tok
  rcases hcases with ⟨-, rfl⟩ | ⟨N, R, hT, -, -, -, hkind⟩
  · simp [Rule.nestingSize, Rule.named, unionSize_empty]
  · -- the parameter text follows the colon in the trimmed token
    have hR : (String.ofList R).length < tok.length := by
      have hlen := congrArg List.length hT
      rw [String.length_toList] at hlen
      simp only [List.length_append, List.length_cons] at hlen
      rw [String.length_ofList]
      omega
    have hRtrim := length_trim_le (String.ofList R)
    rcases hkind with ⟨hu, hps⟩ | ⟨hs, hps⟩ | ⟨hu, -, hps⟩
    · obtain ⟨sets, n, flags, hlead, hps', -⟩ := unionParams_eq_ok hps
      have hsets := Json.textSize_le_of_readLeading hlead
      have hrender := unionSize_render_le sets
      simp only [Rule.nestingSize, hu, if_true, hps', List.head?_cons, Option.getD_some]
      omega
    · rw [Rule.nestingSize, if_neg (by rw [hs]; decide), hps]
      simp only [List.head?_cons, Option.getD_some]
      omega
    · rw [Rule.nestingSize, if_neg hu, hps]
      cases hsplit : splitTopLevel ',' (String.ofList R) with
      | nil => simp
      | cons p ps =>
        have hp : p.length ≤ (String.ofList R).length :=
          length_le_of_mem_splitTopLevel (hsplit ▸ List.mem_cons_self)
        simp only [List.map_cons, List.head?_cons, Option.getD_some]
        have := length_trim_le p
        omega

/-- A rule read again from its canonical token is no larger than it: any rule but a union with
parameters reads back as itself, and a union's rule sets, kept in compact form, read back as
the same sets or as no rule sets at all. -/
theorem Rule.nestingSize_of_parse_display {tok : String} {r r' : Rule} (h : Rule.parse tok = .ok r)
    (h' : Rule.parse r.display = .ok r') : r'.nestingSize ≤ r.nestingSize := by
  by_cases hu : r.name = "union"
  · obtain ⟨hne, hcases⟩ := parse_eq_ok h
    rcases hcases with ⟨hcolon, rfl⟩ | ⟨N, R, -, hcolonN, hname, hnameNe, hkind⟩
    · -- a union without parameters is its own token
      have hn : Rule.GoodName (Text.trim tok) := ⟨trimmed_trim tok, hne, hcolon⟩
      rw [parse_display_named (r := Rule.named (Text.trim tok)) rfl hn] at h'
      obtain rfl := Except.ok.inj h'
      exact le_refl _
    · rcases hkind with ⟨-, hps⟩ | ⟨hs, -⟩ | ⟨hu', -⟩
      · obtain ⟨sets, n, flags, -, hps', hflags⟩ := unionParams_eq_ok hps
        have hn : Rule.GoodName r.name := hname ▸ goodName_of_colon hcolonN (hname ▸ hnameNe)
        have htrimmed : ∀ p ∈ r.params, Text.Trimmed p.toList := by
          rw [hps']
          rintro p (_ | ⟨_, hp⟩)
          · exact Json.render_trimmed sets
          · rcases hflags with rfl | ⟨F, rfl, hF⟩
            · cases hp
            · rw [List.mem_singleton.1 hp]
              exact hF
        rw [parse_display_eq (by rw [hps']; simp) hn htrimmed, if_pos hu] at h'
        obtain ⟨ps, hps'', rfl⟩ : ∃ ps, Rule.unionParams r.display (",".intercalate r.params) = .ok ps ∧
            r' = ⟨r.name, ps⟩ := by
          cases hup : Rule.unionParams r.display (",".intercalate r.params) with
          | error e => rw [hup] at h'; cases h'
          | ok ps =>
            rw [hup] at h'
            exact ⟨ps, rfl, (Except.ok.inj h').symm⟩
        -- the parameters read again start with the rule sets read from the compact ones
        rw [hps'] at hps''
        obtain ⟨rest, v, m, hlead, hhead⟩ := unionParams_lead r.display (Json.render_trimmed sets) hflags hps''
        simp only [Rule.nestingSize, hu, if_true, hhead, Option.getD_some, hps', List.head?_cons]
        exact unionSize_render_of_readLeading hlead
      · exact absurd (hu ▸ hs) (by decide)
      · exact absurd hu hu'
  · -- any other rule is canonical and reads back as itself
    have htok : Rule.parse (String.ofList tok.toList) = .ok r := by
      rw [String.ofList_toList]
      exact h
    have hback := (display_of_parse htok fun hn => absurd hn hu).2
    rw [hback] at h'
    obtain rfl := Except.ok.inj h'
    exact le_refl _

theorem Builtin.name_of_mem_untyped_union {n : String} (h : (n, Builtin.union) ∈ Builtin.untyped) :
    n = "union" := by
  simpa [Builtin.untyped, BaseType.all] using h

theorem Builtin.not_mem_untyped_shape (n : String) : (n, Builtin.object .shape) ∉ Builtin.untyped := by
  simp [Builtin.untyped, BaseType.all]

theorem Builtin.not_mem_typed_union (t : BaseType) (n : String) : (n, Builtin.union) ∉ Builtin.typed t := by
  cases t <;> simp [Builtin.typed]

theorem Builtin.name_of_mem_typed_shape {t : BaseType} {n : String}
    (h : (n, Builtin.object .shape) ∈ Builtin.typed t) : n = "shape" := by
  cases t <;> simp_all [Builtin.typed]

/-- With builtin rules and custom predicates, a rule resolves to no handler whose nesting size
exceeds the rule's: only a rule named `union` reaches the union, and the shape is reached by a
rule named `shape` or `<type>.shape`, which is no union. -/
theorem Registry.BuiltinsWith.nestingSize_le {P : CustomRule → Prop} {reg : Registry}
    (hr : reg.BuiltinsWith P) {r : Rule} {t : Option BaseType} {k : RuleKind} {h : Handler}
    (hres : reg.resolve r t = .ok (k, h)) : h.nestingSize (k.boundParams r) ≤ r.nestingSize := by
  rcases resolve_cases hres with ⟨-, c, hc, -⟩ | ⟨-, hb, hk⟩ | ⟨-, parent, name, ha, hname⟩
  · obtain ⟨cr, -, hcr⟩ := hr.custom _ hc
    simp only at hcr
    rw [hcr]
    exact Nat.zero_le _
  · obtain ⟨b, hbh, hmem⟩ := hr.tables.base _ hb
    simp only at hbh hmem hk
    subst hbh hk
    cases b with
    | union => simp [Handler.nestingSize, Rule.nestingSize, Builtin.name_of_mem_untyped_union hmem,
        RuleKind.boundParams]
    | object o =>
      cases o with
      | shape => exact absurd hmem (Builtin.not_mem_untyped_shape _)
      | _ => exact Nat.zero_le _
    | _ => exact Nat.zero_le _
  · obtain ⟨hk, tbl, htbl, hmem⟩ := additionalHandler_eq_some ha
    obtain ⟨b, hbh, hty⟩ := hr.tables.additional _ htbl _ hmem
    simp only at hk hbh hty
    subst hk hbh
    cases b with
    | union => exact absurd hty (Builtin.not_mem_typed_union _ _)
    | object o =>
      cases o with
      | shape =>
        -- a rule reaching the shape is named `shape`, or `<type>.shape`: it is no union
        have hname' : r.name ≠ "union" := by
          intro hu
          rcases hname with rfl | ⟨p, hsplit⟩
          · exact absurd (Builtin.name_of_mem_typed_shape hty) (by rw [hu]; decide)
          · rw [hu] at hsplit
            cases hsplit
        simp [Handler.nestingSize, Rule.nestingSize, hname', RuleKind.boundParams]
      | _ => exact Nat.zero_le _
    | _ => exact Nat.zero_le _

theorem Rule.nestingSize_le_display (r : Rule) : r.nestingSize ≤ r.display.length := by
  by_cases hp : r.params = []
  · simp [Rule.nestingSize, hp, unionSize_empty]
  · obtain ⟨p, ps, hps⟩ := List.exists_cons_of_ne_nil hp
    have hfirst : p.length ≤ r.display.length := by
      rw [← String.length_toList (s := r.display), ← String.length_toList (s := p),
        display_toList_of_ne_nil hp, hps]
      have := length_le_intercalate [','] (List.mem_map_of_mem (f := String.toList)
        (List.mem_cons_self : p ∈ p :: ps))
      simp only [List.length_append, List.length_cons]
      omega
    have hunion := unionSize_le p
    unfold Rule.nestingSize
    split <;> simp only [hps, List.head?_cons, Option.getD_some] <;> omega

theorem foldl_eq_add_sum {α : Type} {g : Nat → α → Nat} (f : α → Nat) (hg : ∀ n a, g n a = n + f a)
    (l : List α) (init : Nat) : l.foldl g init = init + (l.map f).sum := by
  induction l generalizing init with
  | nil => simp
  | cons a l ih =>
    rw [List.foldl_cons, ih, hg, List.map_cons, List.sum_cons]
    omega

theorem Definition.weight_tokens (ts : List String) :
    (Definition.tokens ts).weight = (ts.map fun t => t.length + 1).sum := by
  unfold Definition.weight
  exact (foldl_eq_add_sum (fun t => t.length + 1) (fun n t => by omega) ts 0).trans (Nat.zero_add _)

theorem Definition.weight_rules (rs : List Rule) :
    (Definition.rules rs).weight = (rs.map fun r => r.display.length + 1).sum := by
  unfold Definition.weight
  exact (foldl_eq_add_sum (fun r => r.display.length + 1) (fun n r => by omega) rs 0).trans
    (Nat.zero_add _)

theorem Schema.weight_eq_sum (S : Schema) :
    S.weight = 1 + (S.entries.map fun e => e.1.length + e.2.weight + 1).sum := by
  unfold Schema.weight
  exact foldl_eq_add_sum _ (fun n e => by obtain ⟨p, d⟩ := e; simp only; omega) S.entries 1

theorem exists_piece_of_rulesOfText {text : String} {rules : List Rule}
    (h : rulesOfText text = .ok rules) {q : Rule} (hq : q ∈ rules) :
    ∃ piece, Rule.parse piece = .ok q ∧ piece.length ≤ text.length := by
  obtain ⟨piece, hpiece, hparse⟩ := mapM_ok_mem h hq
  exact ⟨piece, hparse, length_le_of_mem_splitTopLevel (List.mem_filter.1 hpiece).1⟩

/-- A rule set read from JSON is read from a text or an array of texts, and every rule of it
is smaller than the text the set takes. -/
theorem RuleSet.nestingSize_lt {x : Json} {set : RuleSet} (h : RuleSet.ofJson x = .ok set) :
    x.isRuleSet = true ∧ ∀ q ∈ set.rules, q.nestingSize + 2 ≤ x.textSize := by
  cases x with
  | str text =>
    refine ⟨rfl, fun q hq => ?_⟩
    cases hr : rulesOfText text with
    | error f =>
      simp [RuleSet.ofJson, hr, bind, Except.bind, Except.map, Except.mapError] at h
    | ok rs =>
      cases ht : rulesOfTokens (rs.map Rule.display) with
      | error f =>
        simp [RuleSet.ofJson, hr, ht, bind, Except.bind, Except.map, Except.mapError] at h
      | ok rules =>
        simp only [RuleSet.ofJson, hr, ht, bind, Except.bind, Except.map, Except.mapError,
          Except.ok.injEq] at h
        subst h
        -- each rule is read from the canonical token of a rule read from a piece of the text
        obtain ⟨tok, htok, hq'⟩ := mapM_ok_mem ht hq
        obtain ⟨r', hr', rfl⟩ := List.mem_map.1 htok
        obtain ⟨piece, hpiece, hlen⟩ := exists_piece_of_rulesOfText hr hr'
        have := Rule.nestingSize_of_parse_display hpiece hq'
        have := Rule.nestingSize_le_of_parse hpiece
        simp only [Json.textSize]
        omega
  | arr items =>
    unfold RuleSet.ofJson at h
    simp only [bind, Except.bind] at h
    split at h
    · cases h
    · next tokens htoks =>
      split at h
      · cases h
      · next rules hrules =>
        simp only [Except.ok.injEq] at h
        subst h
        -- every item is a token, and the set's rules are read from the tokens
        have hstr : ∀ t ∈ tokens, Json.str t ∈ items := by
          intro t ht
          obtain ⟨x, hx, hxt⟩ := mapM_ok_mem htoks ht
          cases x <;> simp at hxt
          exact hxt ▸ hx
        refine ⟨?_, fun q hq => ?_⟩
        · refine List.all_eq_true.2 fun x hx => ?_
          obtain ⟨t, hxt⟩ := mapM_ok_of_mem htoks hx
          cases x <;> simp_all [Json.asString?]
        · obtain ⟨t, ht, hq'⟩ := mapM_ok_mem (Except.eq_ok_of_mapError hrules) hq
          have hle := Rule.nestingSize_le_of_parse hq'
          have hsum := List.le_sum_of_mem (List.mem_map_of_mem (f := Json.textSize) (hstr t ht))
          simp only [Json.textSize, Json.itemsSize_eq_sum] at hsum ⊢
          omega
  | _ =>
    simp [RuleSet.ofJson, bind, Except.bind] at h

theorem nestingSize_lt_of_unionSets {param : String} {sets : List RuleSet}
    (h : unionSets param = .ok sets) {set : RuleSet} (hset : set ∈ sets) {q : Rule}
    (hq : q ∈ set.rules) : q.nestingSize < unionSize param := by
  unfold unionSets at h
  split at h
  · cases h
  · next items hread =>
    obtain ⟨x, hx, hxset⟩ := mapM_ok_mem h hset
    have hall : items.all Json.isRuleSet = true := List.all_eq_true.2 fun y hy =>
      (RuleSet.nestingSize_lt (mapM_ok_of_mem h hy).choose_spec).1
    have hlt := (RuleSet.nestingSize_lt hxset).2 q hq
    have hsum := List.le_sum_of_mem (List.mem_map_of_mem (f := Json.textSize) hx)
    simp only [unionSize, hread, if_pos hall, Json.textSize, Json.itemsSize_eq_sum]
    omega
  · cases h

theorem Definition.nestingSize_le_weight {d : Definition} {rules : List Rule}
    (h : d.toRules = .ok rules) {q : Rule} (hq : q ∈ rules) : q.nestingSize ≤ d.weight := by
  cases d with
  | text s =>
    obtain ⟨piece, hpiece, hlen⟩ := exists_piece_of_rulesOfText h hq
    exact (Rule.nestingSize_le_of_parse hpiece).trans hlen
  | tokens ts =>
    obtain ⟨t, ht, hq'⟩ := mapM_ok_mem h hq
    have hsum := List.le_sum_of_mem (List.mem_map_of_mem (f := fun t : String => t.length + 1) ht)
    rw [Definition.weight_tokens]
    have := Rule.nestingSize_le_of_parse hq'
    omega
  | rules rs =>
    cases h
    have hsum := List.le_sum_of_mem (List.mem_map_of_mem (f := fun r : Rule => r.display.length + 1) hq)
    rw [Definition.weight_rules]
    have := Rule.nestingSize_le_display q
    omega

theorem Schema.weight_le_of_mem {S : Schema} {entry : String × Definition} (h : entry ∈ S.entries) :
    entry.2.weight < S.weight := by
  have hsum := List.le_sum_of_mem
    (List.mem_map_of_mem (f := fun e : String × Definition => e.1.length + e.2.weight + 1) h)
  rw [Schema.weight_eq_sum]
  omega

theorem sum_le_of_forall₂ {α β : Type} {R : α → β → Prop} {f : α → Nat} {g : β → Nat}
    (hfg : ∀ a b, R a b → f a ≤ g b) {l₁ : List α} {l₂ : List β} (h : List.Forall₂ R l₁ l₂) :
    (l₁.map f).sum ≤ (l₂.map g).sum := by
  induction h with
  | nil => exact le_refl _
  | cons hab _ ih =>
    simp only [List.map_cons, List.sum_cons]
    have := hfg _ _ hab
    omega

theorem eq_map_str_of_mapM_asString {items : List Json} {ts : List String}
    (h : items.mapM Json.asString? = some ts) : items = ts.map Json.str := by
  induction items generalizing ts with
  | nil =>
    cases h
    rfl
  | cons x xs ih =>
    simp only [List.mapM_cons, Option.bind_eq_bind, Option.bind_eq_some_iff, Option.pure_def,
      Option.some.injEq] at h
    obtain ⟨a, ha, as, has, rfl⟩ := h
    cases x <;> simp [Json.asString?] at ha
    subst ha
    rw [ih has, List.map_cons]

theorem Definition.weight_lt_of_ofJson {x : Json} {d : Definition} (h : Definition.ofJson x = .ok d) :
    d.weight + 2 ≤ x.textSize := by
  cases x with
  | str s =>
    cases h
    simp [Definition.weight, Json.textSize]
  | arr items =>
    simp only [Definition.ofJson] at h
    split at h
    · next ts hts =>
      cases h
      rw [eq_map_str_of_mapM_asString hts]
      rw [Definition.weight_tokens]
      have hle : (ts.map fun t => t.length + 1).sum ≤ ((ts.map Json.str).map Json.textSize).sum := by
        rw [List.map_map]
        exact List.sum_le_sum fun t _ => by simp [Json.textSize]
      simp only [Json.textSize, Json.itemsSize_eq_sum]
      omega
    · cases h
  | _ => cases h

theorem Schema.weight_lt_of_ofText {text : String} {S : Schema} (h : Schema.ofText text = .ok S) :
    S.weight < text.length := by
  unfold Schema.ofText at h
  split at h
  · cases h
  · next v hread =>
    have hv := Json.textSize_le_of_read hread
    have hS := Except.eq_ok_of_mapError h
    unfold Schema.ofJson at hS
    split at hS
    · next fs =>
      cases hentries : fs.mapM fun (kd : String × Json) => (Definition.ofJson kd.2).map (kd.1, ·) with
      | error f => rw [hentries] at hS; cases hS
      | ok entries =>
        rw [hentries] at hS
        obtain rfl : (⟨entries⟩ : Schema) = S := Except.ok.inj hS
        -- each entry weighs less than the member it is read from
        have hmap : (fs.map id).mapM (fun (kd : String × Json) => (Definition.ofJson kd.2).map (kd.1, ·)) =
            .ok entries := by rwa [List.map_id]
        have hle := sum_le_of_forall₂
          (f := fun e : String × Definition => e.1.length + e.2.weight + 1)
          (g := fun kd : String × Json => kd.1.length + 3 + kd.2.textSize)
          (fun e kd hkd => ?_) (mapM_map_ok hmap).flip
        · simp only [Schema.weight_eq_sum]
          have hsize : (Json.obj fs).textSize =
              (fs.map fun kd : String × Json => kd.1.length + 3 + kd.2.textSize).sum + 2 := by
            simp only [Json.textSize, Json.fieldsSize_eq_sum]
          omega
        · cases hd : Definition.ofJson kd.2 with
          | error f => simp [hd, Except.map] at hkd
          | ok d =>
            simp only [id, hd, Except.map, Except.ok.injEq] at hkd
            subst hkd
            have := Definition.weight_lt_of_ofJson hd
            simp only
            omega
    · cases hS

theorem Handler.nestingSize_le_length (h : Handler) (params : List String) :
    h.nestingSize params ≤ (params.head?.getD "").length := by
  unfold Handler.nestingSize
  split
  · exact unionSize_le _
  · exact le_refl _
  · exact Nat.zero_le _

namespace Engine

/-- With builtin rules and custom predicates, nesting sizes bound the nesting of runs: a rule is
bound to a handler no larger than itself, and the rules of a union's sets, the schema of a
shape and the rules of a schema are read from smaller texts. -/
def nestingBound {P : CustomRule → Prop} (e : Engine) (hr : e.registry.BuiltinsWith P) :
    e.NestingBound where
  size := Handler.nestingSize
  union_lt := fun hsets set hset _ _ hchain r hrc => by
    obtain ⟨hrule, hbind⟩ := Registry.compile_mem_rules hchain hrc
    calc r.handler.nestingSize r.params
        ≤ r.rule.nestingSize := hr.nestingSize_le (Registry.bind_ok hbind).1
      _ < unionSize _ := nestingSize_lt_of_unionSets hsets hset hrule
  shape_lt := fun hS => Schema.weight_lt_of_ofText hS
  schema_le := fun {S} _ hchains pc hpc r hrc => by
    obtain ⟨entry, hentry, hpc'⟩ := mapM_ok_mem hchains hpc
    obtain ⟨rules, hrules, hcompile⟩ := Registry.compileEntry_ok_rules hpc'
    obtain ⟨hrule, hbind⟩ := Registry.compile_mem_rules hcompile hrc
    calc r.handler.nestingSize r.params
        ≤ r.rule.nestingSize := hr.nestingSize_le (Registry.bind_ok hbind).1
      _ ≤ entry.2.weight := Definition.nestingSize_le_weight hrules hrule
      _ ≤ S.weight := (Schema.weight_le_of_mem hentry).le

/-- Validation with builtin rules and any custom predicates. No rule's nesting size exceeds the
length of its first parameter; every rule the rule sets of a union run is smaller than the
union, the schema a shape runs weighs less than the shape, and no rule of a schema is larger
than the schema's weight. So each level of nesting reads a strictly smaller text, and the fuel
`validate` gives outlasts the nesting: a run with any more fuel gives what `validate` gives. -/
theorem validate_nesting_shrinks (customs : List CustomRule) (config : Config)
    (formatter : Formatter) (now : Calendar.Moment) :
    let e : Engine := ⟨customs.foldl Registry.extend Registry.builtins, config, formatter, now⟩
    (∀ (h : Handler) (params : List String), h.nestingSize params ≤ (params.head?.getD "").length) ∧
    (∀ (params : List String) (sets : List RuleSet), unionSets (params.head?.getD "") = .ok sets →
      ∀ set ∈ sets, ∀ (pattern : String) (chain : Chain),
        e.registry.compile pattern set.rules = .ok chain →
        ∀ r ∈ chain.rules, r.handler.nestingSize r.params < (Handler.builtin .union).nestingSize params) ∧
    (∀ (params : List String) (S : Schema), Schema.ofText (params.head?.getD "") = .ok S →
      S.weight < (Handler.builtin (.object .shape)).nestingSize params) ∧
    (∀ (S : Schema) (chains : List (String × Chain)),
      S.entries.mapM e.registry.compileEntry = .ok chains →
      ∀ pc ∈ chains, ∀ r ∈ pc.2.rules, r.handler.nestingSize r.params ≤ S.weight) ∧
    ∀ (n : Nat) (data : Json) (S : Schema), 3 * S.weight + 3 ≤ n →
      (e.run n data S).run [] = e.validate data S := by
  intro e
  have hr : e.registry.BuiltinsWith fun _ => True :=
    Registry.builtinsWith_foldl customs fun _ _ => trivial
  let B := e.nestingBound hr
  exact ⟨Handler.nestingSize_le_length, fun _ _ hsets set hset _ _ hchain => B.union_lt hsets set hset hchain,
    fun _ _ hS => B.shape_lt hS, fun _ _ hchains => B.schema_le hchains,
    fun _ _ _ hn => B.run_eq_validate hn⟩

end Engine

/-- A shape whose nested schema holds one string rule weighs more than that schema, and a schema
of it validates alike with any fuel its weight bounds. -/
theorem shape_schema_runs_within_fuel :
    let e : Engine := ⟨([] : List CustomRule).foldl Registry.extend Registry.builtins, Config.default,
      ⟨Catalog.empty, none⟩, default⟩
    let S : Schema := ⟨[("x", .text "shape:\x7b\"a\":\"string\"\x7d")]⟩
    (∃ S', Schema.ofText "\x7b\"a\":\"string\"\x7d" = .ok S' ∧
      S'.weight < (Handler.builtin (.object .shape)).nestingSize ["\x7b\"a\":\"string\"\x7d"]) ∧
    3 * S.weight + 3 ≤ 200 ∧
    (e.run 200 (.obj [("x", .obj [("a", .num (.nat 5))])]) S).run [] =
      e.validate (.obj [("x", .obj [("a", .num (.nat 5))])]) S := by
  intro e S
  obtain ⟨-, -, hshape, -, hfuel⟩ := Engine.validate_nesting_shrinks [] Config.default
    ⟨Catalog.empty, none⟩ default
  obtain ⟨S', hS', -⟩ := exists_ok_of_toOption_map (g := fun _ => ())
    (by decide +kernel : (Schema.ofText "\x7b\"a\":\"string\"\x7d").toOption.map (fun _ => ()) = some ())
  have hw : 3 * S.weight + 3 ≤ 200 := by decide +kernel
  exact ⟨⟨S', hS', hshape ["\x7b\"a\":\"string\"\x7d"] S' hS'⟩, hw, hfuel 200 _ S hw⟩

end FieldRules

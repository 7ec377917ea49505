import FieldRules.Proofs.RuleText
import FieldRules.Proofs.RenderRead

namespace FieldRules

namespace SplitState

variable {sep : Char}

/-- A character that moves the splitter outside strings: a quote or a bracket. -/
def movesSplitter (c : Char) : Bool := ['"', '[', '{', '(', ']', '}', ')'].contains c

theorem walk_inside_plain (d : Nat) {l : List Char} (h : ∀ c ∈ l, movesSplitter c = false) :
    walk sep ⟨d + 1, false, false⟩ l = some ⟨d + 1, false, false⟩ := by
  induction l with
  | nil => rfl
  | cons c l ih =>
    have hc := h c List.mem_cons_self
    simp only [movesSplitter, List.contains_eq_mem, List.mem_cons, List.not_mem_nil, or_false,
      decide_eq_false_iff_not, not_or] at hc
    have hstep : (⟨d + 1, false, false⟩ : SplitState).step sep c = some ⟨d + 1, false, false⟩ := by
      simp [SplitState.step, hc.1, hc.2.1, hc.2.2.1, hc.2.2.2.1, hc.2.2.2.2.1, hc.2.2.2.2.2.1,
        hc.2.2.2.2.2.2]
    rw [walk_cons, hstep, Option.bind_some]
    exact ih fun x hx => h x (List.mem_cons_of_mem _ hx)

theorem movesSplitter_of_num {c : Char} (h : c.isDigit ∨ c ∈ ['-', '.', 'e', '+', 'n', 'u', 'l']) :
    movesSplitter c = false := by
  rcases h with h | h
  · have hc := Json.digit_toNat h
    simp only [movesSplitter, List.contains_eq_mem, List.mem_cons, List.not_mem_nil, or_false,
      decide_eq_false_iff_not]
    intro h'
    rcases h' with rfl | rfl | rfl | rfl | rfl | rfl | rfl <;> exact absurd hc (by decide)
  · simp only [List.mem_cons, List.not_mem_nil, or_false] at h
    rcases h with rfl | rfl | rfl | rfl | rfl | rfl | rfl <;> decide

theorem renderFields_toList (fs : List (String × Json)) :
    (Json.renderFields fs).toList =
      List.intercalate [','] (fs.map fun p => (quote p.1).toList ++ ':' :: p.2.render.toList) := by
  induction fs with
  | nil => simp [Json.renderFields]
  | cons p fs ih =>
    obtain ⟨k, v⟩ := p
    cases fs with
    | nil => simp [Json.renderFields]
    | cons q qs =>
      rw [Json.renderFields.eq_3 _ _ _ (List.cons_ne_nil _ _), String.toList_append,
        String.toList_append, String.toList_append, String.toList_append, ih]
      simp only [List.map_cons, List.intercalate_cons_cons, List.append_assoc]
      rfl

/-- An object whose values each walk back within its braces walks back to where it started:
its keys are strings and its colons move nothing. -/
theorem walk_render_obj (d : Nat) {fs : List (String × Json)}
    (h : ∀ p ∈ fs, walk sep ⟨d + 1, false, false⟩ p.2.render.toList = some ⟨d + 1, false, false⟩) :
    walk sep ⟨d, false, false⟩ (Json.obj fs).render.toList = some ⟨d, false, false⟩ := by
  have hfield : ∀ x ∈ fs.map (fun p => (quote p.1).toList ++ ':' :: p.2.render.toList),
      walk sep ⟨d + 1, false, false⟩ x = some ⟨d + 1, false, false⟩ := by
    intro x hx
    obtain ⟨p, hp, rfl⟩ := List.mem_map.1 hx
    rw [walk_append, walk_quote, Option.bind_some, walk_cons]
    rw [show (⟨d + 1, false, false⟩ : SplitState).step sep ':' = some ⟨d + 1, false, false⟩ by
      simp [SplitState.step]]
    exact h p hp
  have hopen : walk sep ⟨d, false, false⟩ ['\x7b'] = some ⟨d + 1, false, false⟩ := by
    simp [walk, SplitState.step]
  have hclose : walk sep ⟨d + 1, false, false⟩ ['\x7d'] = some ⟨d, false, false⟩ := by
    simp [walk, SplitState.step]
  rw [Json.render, String.toList_append, String.toList_append, renderFields_toList]
  rw [show "\x7b".toList = ['\x7b'] from rfl, show "\x7d".toList = ['\x7d'] from rfl, walk_append,
    walk_append, hopen, Option.bind_some, walk_intercalate_comma d hfield, Option.bind_some, hclose]

/-- Inside brackets the text of every value walks the splitter back to where it started. By
recursion on the value, through the items of arrays and the values of objects. -/
theorem walk_render (d : Nat) (v : Json) :
    walk sep ⟨d + 1, false, false⟩ v.render.toList = some ⟨d + 1, false, false⟩ := by
  match v with
  | .null => exact walk_inside_plain d (by simp [Json.render, movesSplitter])
  | .bool b => cases b <;> exact walk_inside_plain d (by simp [Json.render, movesSplitter])
  | .num n => exact walk_inside_plain d fun c hc => movesSplitter_of_num (n.render_chars c hc)
  | .str s => exact walk_quote d s
  | .arr xs => exact walk_render_arr (d + 1) fun x _ => walk_render (d + 1) x
  | .obj fs => exact walk_render_obj (d + 1) fun p _ => walk_render (d + 1) p.2
termination_by sizeOf v
decreasing_by
  · have := List.sizeOf_lt_of_mem ‹x ∈ xs›
    simp only [Json.arr.sizeOf_spec]
    omega
  · have := List.sizeOf_lt_of_mem ‹p ∈ fs›
    have hp : sizeOf p.2 < sizeOf p := by
      obtain ⟨k, x⟩ := p
      simp only [Prod.mk.sizeOf_spec]
      omega
    simp only [Json.obj.sizeOf_spec]
    omega

end SplitState

open SplitState

theorem splitTopLevel_of_walk {sep : Char} (hsep : isSeparator sep) {s : String} {st : SplitState}
    (h : walk sep initial s.toList = some st) : splitTopLevel sep s = [s] := by
  have hone : List.intercalate [sep] [s.toList] = s.toList := List.intercalate_singleton
  rw [splitTopLevel, ← hone, splitChars_intercalate (cutsAtTop_of_isSeparator hsep)
    (Pieces.last (by simp [h]))]
  simp

namespace Json

theorem read_render_ruleSets {sets : List Json} (h : ∀ x ∈ sets, x.isRuleSet) :
    read (Json.arr sets).render = .ok (.arr sets) := by
  have hback : ReadsBack 128 (.arr sets) :=
    readsBack_arr (by decide) fun x hx => readsBack_ruleSet (by decide) (h x hx)
  set c := Cursor.start (Json.arr sets).render
  have hrest : c.rest = utf8 (Json.arr sets).render.toList ++ [] := by
    simp only [c, Cursor.start, toUTF8_toList, List.append_nil]
  obtain ⟨c', hv, hr, -⟩ := hback c [] (budget c) hrest
    (by simp only [budget, hrest, List.append_nil]; omega)
  have hskip : c'.skipBlanks = c' := by simp [Cursor.skipBlanks, hr]
  rw [read]
  simp only [bind, Except.bind]
  rw [show readValue 128 (Cursor.start (Json.arr sets).render)
    (budget (Cursor.start (Json.arr sets).render)) = .ok (.arr sets, c') from hv]
  simp [hskip, hr, pure, Except.pure]

end Json

namespace Rule

theorem union_params (sets : List (List Rule)) (stop : Bool) :
    (Rule.union sets stop).params =
      [(Json.arr (sets.map fun set => .arr (set.map fun r => .str r.display))).render,
        if stop then "true" else "false"] := rfl

theorem union_sets_isRuleSet (sets : List (List Rule)) :
    ∀ x ∈ sets.map (fun set => Json.arr (set.map fun r => .str r.display)), x.isRuleSet := by
  intro x hx
  obtain ⟨set, -, rfl⟩ := List.mem_map.1 hx
  simp [Json.isRuleSet, Json.asString?]

theorem goodName_union : Rule.GoodName "union" := by
  have h : "union".toList = ['u', 'n', 'i', 'o', 'n'] := rfl
  exact ⟨trimmed_of_noBlank (by rw [h]; simp [Text.isBlank]), by rw [h]; simp, by rw [h]; simp⟩

theorem goodName_shape : Rule.GoodName "shape" := by
  have h : "shape".toList = ['s', 'h', 'a', 'p', 'e'] := rfl
  exact ⟨trimmed_of_noBlank (by rw [h]; simp [Text.isBlank]), by rw [h]; simp, by rw [h]; simp⟩

theorem union_canonical (sets : List (List Rule)) (stop : Bool) :
    (Rule.union sets stop).CanonicalUnion := fun _ =>
  ⟨_, union_sets_isRuleSet sets, [if stop then "true" else "false"], union_params sets stop,
    by cases stop <;> simp [plainText, splitStops]⟩

theorem parse_display_union_built (sets : List (List Rule)) (stop : Bool) :
    Rule.parse (Rule.union sets stop).display = .ok (Rule.union sets stop) := by
  have hflag : Text.Trimmed (if stop then "true" else "false").toList := by
    cases stop <;> exact trimmed_of_noBlank (by simp [Text.isBlank])
  have hparams : Rule.unionParams (Rule.union sets stop).display
      (",".intercalate (Rule.union sets stop).params) = .ok (Rule.union sets stop).params := by
    rw [union_params]
    exact unionParams_canonical _ (union_sets_isRuleSet sets) (.inr ⟨_, rfl, hflag⟩)
  exact parse_display_union goodName_union rfl (union_canonical sets stop) hparams

theorem split_display_union_built (sets : List (List Rule)) (stop : Bool) :
    splitTopLevel '|' (Rule.union sets stop).display = [(Rule.union sets stop).display] :=
  splitTopLevel_of_walk isSeparator_pipe (walk_display_union rfl (union_canonical sets stop))

theorem ofJson_tokens (set : List Rule) :
    RuleSet.ofJson (.arr (set.map fun r => .str r.display)) =
      ((rulesOfTokens (set.map Rule.display)).mapError Fault.message).map
        fun rules => ⟨rules, "|".intercalate (set.map Rule.display)⟩ := by
  have hmap : set.map (fun r => Json.str r.display) = (set.map Rule.display).map Json.str := by
    simp
  simp only [RuleSet.ofJson, hmap]
  rw [mapM_map_of_inverse (f := Json.str) fun _ _ => rfl]
  simp only [bind, Except.bind]
  cases (rulesOfTokens (set.map Rule.display)).mapError Fault.message <;> rfl

theorem unionSets_built (sets : List (List Rule)) (stop : Bool) :
    unionSets (((Rule.union sets stop).params.head?).getD "") =
      sets.mapM fun set => ((rulesOfTokens (set.map Rule.display)).mapError Fault.message).map
        fun rules => ⟨rules, "|".intercalate (set.map Rule.display)⟩ := by
  rw [union_params]
  simp only [List.head?_cons, Option.getD_some, unionSets,
    Json.read_render_ruleSets (union_sets_isRuleSet sets), List.mapM_map]
  exact congrArg (sets.mapM ·) (funext ofJson_tokens)

theorem readBuiltSet_ok_iff (set : List Rule) :
    (∃ y, ((rulesOfTokens (set.map Rule.display)).mapError Fault.message).map
        (fun rules => (⟨rules, "|".intercalate (set.map Rule.display)⟩ : RuleSet)) = .ok y) ↔
      ∀ r ∈ set, ∃ r', Rule.parse r.display = .ok r' := by
  constructor
  · rintro ⟨y, hy⟩ r hr
    cases htok : rulesOfTokens (set.map Rule.display) with
    | error e => simp [htok, Except.mapError, Except.map] at hy
    | ok rules => exact mapM_ok_iff_forall.1 ⟨rules, htok⟩ r.display (List.mem_map_of_mem hr)
  · intro hall
    obtain ⟨rules, htok⟩ := (@mapM_ok_iff_forall _ _ _ Rule.parse (set.map Rule.display)).2
      fun d hd => by
        obtain ⟨r, hr, rfl⟩ := List.mem_map.1 hd
        exact hall r hr
    exact ⟨_, by rw [rulesOfTokens, htok]; rfl⟩

theorem readBuiltSet_display {set : List Rule} {y : RuleSet}
    (hy : ((rulesOfTokens (set.map Rule.display)).mapError Fault.message).map
      (fun rules => (⟨rules, "|".intercalate (set.map Rule.display)⟩ : RuleSet)) = .ok y) :
    y.display = "|".intercalate (set.map Rule.display) := by
  cases htok : rulesOfTokens (set.map Rule.display) with
  | error e => simp [htok, Except.mapError, Except.map] at hy
  | ok rules =>
    simp only [htok, Except.mapError, Except.map, Except.ok.injEq] at hy
    rw [← hy]

theorem shape_display (j : Json) : (Rule.shape j).display.toList = "shape:".toList ++ j.render.toList := by
  simp [Rule.shape, Rule.display]

theorem parse_display_shape_built (j : Json) :
    Rule.parse (Rule.shape j).display = .ok (Rule.shape j) :=
  have hparams : (Rule.shape j).params = [Text.trim j.render] := by
    simp [Rule.shape, trim_of_trimmed (Json.render_trimmed j)]
  parse_display_shape goodName_shape rfl hparams

/-- The token of a shape built from an object or an array is one piece of a pipe-separated text:
the schema opens a bracket at once, and closes it at its end. -/
theorem split_display_shape_built {j : Json}
    (hj : walk '|' initial j.render.toList = some initial) :
    splitTopLevel '|' (Rule.shape j).display = [(Rule.shape j).display] := by
  have hwalk : walk '|' initial (Rule.shape j).display.toList = some initial := by
    rw [shape_display, walk_append, walk_plain (by simp [splitStops]), Option.bind_some, hj]
  exact splitTopLevel_of_walk isSeparator_pipe hwalk

/-- Rules built in code read back from their tokens. A union built from rule sets and a flag is
written as one token of a pipe-separated text, which reads back as the union; its rule sets read
back from its first parameter set by set, each shown by its rules' tokens joined by pipes, with
the rules those tokens read as, so the tokens are recovered exactly when every one reads as a
rule. A shape built from an object or an array is written as one token, which reads back as the
shape. -/
theorem built_rules_read_back (sets : List (List Rule)) (stop : Bool) :
    Rule.parse (Rule.union sets stop).display = .ok (Rule.union sets stop) ∧
    splitTopLevel '|' (Rule.union sets stop).display = [(Rule.union sets stop).display] ∧
    unionSets (((Rule.union sets stop).params.head?).getD "") =
      sets.mapM (fun set => ((rulesOfTokens (set.map Rule.display)).mapError Fault.message).map
        fun rules => ⟨rules, "|".intercalate (set.map Rule.display)⟩) ∧
    ((∃ rs, unionSets (((Rule.union sets stop).params.head?).getD "") = .ok rs ∧
        rs.map RuleSet.display = sets.map fun set => "|".intercalate (set.map Rule.display)) ↔
      ∀ set ∈ sets, ∀ r ∈ set, ∃ r', Rule.parse r.display = .ok r') ∧
    (∀ fs : List (String × Json),
      Rule.parse (Rule.shape (.obj fs)).display = .ok (Rule.shape (.obj fs)) ∧
      splitTopLevel '|' (Rule.shape (.obj fs)).display = [(Rule.shape (.obj fs)).display]) ∧
    (∀ items : List Json,
      Rule.parse (Rule.shape (.arr items)).display = .ok (Rule.shape (.arr items)) ∧
      splitTopLevel '|' (Rule.shape (.arr items)).display = [(Rule.shape (.arr items)).display]) := by
  refine ⟨parse_display_union_built sets stop, split_display_union_built sets stop,
    unionSets_built sets stop, ?_, fun fs => ⟨parse_display_shape_built _, ?_⟩,
    fun items => ⟨parse_display_shape_built _, ?_⟩⟩
  · rw [unionSets_built]
    constructor
    · -- every set read, so every token of it
      rintro ⟨rs, hrs, -⟩ set hset
      exact (readBuiltSet_ok_iff set).1 (mapM_ok_iff_forall.1 ⟨rs, hrs⟩ set hset)
    · intro hall
      obtain ⟨rs, hrs⟩ := mapM_ok_of_forall fun set hset => (readBuiltSet_ok_iff set).2 (hall set hset)
      exact ⟨rs, hrs, mapM_ok_map (fun _ _ hy => readBuiltSet_display hy) hrs⟩
  · exact split_display_shape_built (walk_render_obj 0 fun p _ => walk_render 0 p.2)
  · exact split_display_shape_built (walk_render_arr 0 fun x _ => walk_render 0 x)

end Rule

/-- The union of the sets `string|email` and `number`, built in code, reads back from its token,
and its sets read back shown by their tokens. -/
theorem built_union_reads_back :
    let sets := [[Rule.named "string", Rule.named "email"], [Rule.named "number"]]
    Rule.parse (Rule.union sets true).display = .ok (Rule.union sets true) ∧
      ∃ rs, unionSets (((Rule.union sets true).params.head?).getD "") = .ok rs ∧
        rs.map RuleSet.display = ["string|email", "number"] := by
  intro sets
  have h := Rule.built_rules_read_back sets true
  have hall : ∀ set ∈ sets, ∀ r ∈ set, ∃ r', Rule.parse r.display = .ok r' := by
    intro set hset r hr
    refine ⟨r, eq_ok_of_toOption ?_⟩
    simp only [sets, List.mem_cons, List.not_mem_nil, or_false] at hset
    rcases hset with rfl | rfl <;> simp only [List.mem_cons, List.not_mem_nil, or_false] at hr
    · rcases hr with rfl | rfl <;> decide +kernel
    · subst hr
      decide +kernel
  obtain ⟨rs, hrs, hdisplay⟩ := h.2.2.2.1.2 hall
  exact ⟨h.1, rs, hrs, hdisplay.trans (by decide +kernel)⟩

/-- A rule with an empty name, built into a union: the union reads back, but its rule sets do
not, the empty token of the rule being no rule. -/
theorem empty_name_set_fails_to_read :
    (Rule.union [[Rule.named ""]] true).display = "union:[[\"\"]],true" ∧
      (unionSets (((Rule.union [[Rule.named ""]] true).params.head?).getD "")).toBool = false :=
  ⟨by decide +kernel, by decide +kernel⟩

end FieldRules

import FieldRules.Proofs.ChainRun
import FieldRules.Proofs.SplitText

namespace FieldRules

namespace Json

/-- Blank values: absent, `null`, a text with nothing left after trimming, an empty array or an
empty object. -/
inductive Blank : Option Json → Prop where
  | absent : Blank none
  | null : Blank (some .null)
  | text {s : String} (h : Text.trim s = "") : Blank (some (.str s))
  | emptyArray : Blank (some (.arr []))
  | emptyObject : Blank (some (.obj []))

/-- An absent or `null` value. -/
def Absent (v : Option Json) : Prop := v = none ∨ v = some .null

end Json

namespace Text

theorem isBlankText_iff_trim (s : String) : isBlankText s = true ↔ trim s = "" := by
  rw [← String.toList_eq_nil_iff, toList_trim, isBlankText, List.all_eq_true]
  constructor
  · intro h
    simpa using @trimChars_eq s.toList [] [] h (by simp [Blanks]) (by simp [Trimmed])
  · intro h c hc
    obtain ⟨-, B₁, B₂, h₁, h₂, hs⟩ := trimChars_spec s.toList
    rw [h, List.append_nil] at hs
    rw [hs] at hc
    exact (h₁.append h₂) c hc

end Text

theorem Json.isBlank_iff (v : Option Json) : Json.isBlank v = true ↔ Json.Blank v := by
  constructor
  · intro h
    match v, h with
    | none, _ => exact .absent
    | some .null, _ => exact .null
    | some (.str s), h => exact .text ((Text.isBlankText_iff_trim s).1 h)
    | some (.arr []), _ => exact .emptyArray
    | some (.obj []), _ => exact .emptyObject
  · rintro (_ | _ | h | _ | _)
    all_goals simp [Json.isBlank]
    exact (Text.isBlankText_iff_trim _).2 h

theorem Check.isAbsent_iff (v : Option Json) : Check.isAbsent v = true ↔ Json.Absent v := by
  rcases v with _ | (_ | _ | _ | _ | _ | _) <;> simp [Check.isAbsent, Json.Absent]

/-- The field named by the first parameter, read in the data at the running field's positions,
holds a scalar whose text is one of the other parameters. -/
def OtherIsOneOf (data : Json) (field : String) : List String → Prop
  | [] => False
  | other :: values =>
    ∃ w t, Path.lookup data (Path.align other field) = some w ∧ w.scalarText? = some t ∧ t ∈ values

/-- Whether a presence rule requires the field to hold a value, from the data and the field's
concrete path. -/
def Presence.Requires (data : Json) (field : String) (params : List String) : Presence → Prop
  | .required => True
  | .requiredIf => OtherIsOneOf data field params
  | .requiredUnless => ¬OtherIsOneOf data field params
  | .requiredWith => ∃ f ∈ params, ¬Json.Blank (Path.lookup data (Path.align f field))
  | .requiredWithout => ∃ f ∈ params, Json.Blank (Path.lookup data (Path.align f field))
  | .nullable => False

namespace Check

/-- Whether a presence rule requires the value, as its check computes it. -/
def requires (r : Presence) (ctx : Context) (params : List String) : Bool :=
  match r with
  | .required => true
  | .requiredIf => otherMatches ctx params
  | .requiredUnless => !otherMatches ctx params
  | .requiredWith => params.any fun p => !Json.isBlank (ctx.lookup p)
  | .requiredWithout => params.any fun p => Json.isBlank (ctx.lookup p)
  | .nullable => false

theorem presence_eq_conditional (r : Presence) (ctx : Context) (v : Option Json)
    (params : List String) : presence r ctx v params = conditional (requires r ctx params) v := by
  cases r <;> rfl

theorem otherMatches_iff (ctx : Context) (params : List String) :
    otherMatches ctx params = true ↔ OtherIsOneOf ctx.data ctx.field params := by
  cases params with
  | nil => simp [otherMatches, OtherIsOneOf]
  | cons other values =>
    simp only [otherMatches, OtherIsOneOf, Context.lookup]
    cases hw : Path.lookup ctx.data (Path.align other ctx.field) with
    | none => simp
    | some w =>
      cases ht : w.scalarText? with
      | none => simp [ht]
      | some t => simp [ht]

theorem requires_iff (r : Presence) (ctx : Context) (params : List String) :
    requires r ctx params = true ↔ r.Requires ctx.data ctx.field params := by
  cases r <;> simp [requires, Presence.Requires, ← otherMatches_iff, ← Json.isBlank_iff,
    Context.lookup]

variable (b : Bool) (v : Option Json)

theorem conditional_eq_fail_iff : conditional b v = .fail ↔ b = true ∧ Json.isBlank v = true := by
  cases b <;> cases hb : Json.isBlank v <;> cases ha : isAbsent v <;>
    simp [conditional, Verdict.ofBool, hb, ha]

theorem conditional_eq_halt_iff : conditional b v = .halt ↔ b = false ∧ isAbsent v = true := by
  cases b <;> cases hb : Json.isBlank v <;> cases ha : isAbsent v <;>
    simp [conditional, Verdict.ofBool, hb, ha]

theorem conditional_eq_pass_iff :
    conditional b v = .pass ↔ (b = true ∧ Json.isBlank v = false) ∨ (b = false ∧ isAbsent v = false) := by
  cases b <;> cases hb : Json.isBlank v <;> cases ha : isAbsent v <;>
    simp [conditional, Verdict.ofBool, hb, ha]

end Check

namespace Engine

variable (e : Engine) (fuel : Nat) (inst : Instance) (chain : Chain) (bail : Bool)

theorem check_presence (ctx : Context) (r : Presence) (v : Option Json) (params : List String)
    (t : List String) :
    (e.check (fuel + 1) ctx (.builtin (.presence r)) v params).run t =
      .ok (Check.presence r ctx v params, t) := by
  rw [Engine.check.eq_3]
  rfl

theorem invokedAmong_of_halt {c : CompiledRule} (hi : c.handler.implicit = true)
    (hh : e.answer fuel inst chain c = .ok (.halt, [])) (rest : List CompiledRule) :
    e.invokedAmong fuel inst chain bail (c :: rest) = [c] ∧ e.failureOf inst chain c .halt = none := by
  have hruns : c.runsOn (!Check.isAbsent inst.value) = true := by
    simp [CompiledRule.runsOn, hi]
  have hend : endsChain bail (.ok (.halt, [])) = true := by
    cases bail <;> rfl
  refine ⟨?_, rfl⟩
  rw [invokedAmong_cons, if_pos hruns, hh, if_pos hend]

/-- A rule of a chain bound to a presence handler, checked on a field instance, decides from the data the instance
was found in: it fails exactly when the rule requires a value and the value is blank, it halts
exactly when the rule does not require a value and the value is absent or `null`, and it passes
otherwise, without a fault and without counted checks. `required` always requires a value,
`nullable` never; `required_if` and `required_unless` read their other field at the positions of
the running field, and `required_with` and `required_without` their listed fields. A halting
presence rule is the last rule its chain checks, and it records nothing. -/
theorem presence_rule_decides (rule : Rule) (kind : RuleKind) (priority : Int) (r : Presence)
    (rest : List CompiledRule) (t : List String) :
    let c : CompiledRule := ⟨rule, kind, .builtin (.presence r), priority⟩
    ∃ verdict, (e.check (fuel + 1) (e.context inst chain c) c.handler inst.value c.params).run t =
        .ok (verdict, t) ∧
      (verdict = .fail ↔ r.Requires inst.data inst.field c.params ∧ Json.Blank inst.value) ∧
      (verdict = .halt ↔ ¬r.Requires inst.data inst.field c.params ∧ Json.Absent inst.value) ∧
      (verdict = .pass ↔ r.Requires inst.data inst.field c.params ∧ ¬Json.Blank inst.value ∨
        ¬r.Requires inst.data inst.field c.params ∧ ¬Json.Absent inst.value) ∧
      (verdict = .halt → e.invokedAmong (fuel + 1) inst chain bail (c :: rest) = [c] ∧
        e.failureOf inst chain c verdict = none) := by
  intro c
  have hc : c.handler = .builtin (.presence r) := rfl
  set ctx := e.context inst chain c
  -- the context reads the instance's data at the instance's field
  have hreq : Check.requires r ctx c.params = true ↔ r.Requires inst.data inst.field c.params :=
    Check.requires_iff r ctx c.params
  have hblank := Json.isBlank_iff inst.value
  have habsent := Check.isAbsent_iff inst.value
  refine ⟨Check.presence r ctx inst.value c.params, by rw [hc, check_presence], ?_, ?_, ?_, ?_⟩
  · rw [Check.presence_eq_conditional, Check.conditional_eq_fail_iff, hreq, hblank]
  · rw [Check.presence_eq_conditional, Check.conditional_eq_halt_iff, ← Bool.not_eq_true, hreq,
      habsent]
  · rw [Check.presence_eq_conditional, Check.conditional_eq_pass_iff]
    simp only [← Bool.not_eq_true, hreq, hblank, habsent]
  · intro hhalt
    rw [hhalt]
    -- the rule's check at the chain's fuel is the same halting verdict
    have hanswer : e.answer (fuel + 1) inst chain c = .ok (.halt, []) := by
      rw [answer, hc, check_presence, hhalt]
    exact e.invokedAmong_of_halt (fuel + 1) inst chain bail (by rw [hc]; rfl) hanswer rest

end Engine

end FieldRules

import FieldRules.Proofs.NestingSize

namespace FieldRules

namespace Schema

/-- The segment a pattern declares right after the segments `ps`, when it extends them segment by
segment. -/
def childAfter (ps : List String) (key : String) : Option String :=
  if ps <+: Path.segments key then (Path.segments key)[ps.length]? else none

/-- The distinct segments the patterns declare right after the segments `ps`, in declaration
order. -/
def declaredChildren (s : Schema) (ps : List String) : List String :=
  (s.keys.filterMap (childAfter ps)).eraseDups

theorem childStep_eq (ps acc : List String) (key : String) :
    childStep ps acc key =
      match childAfter ps key with
      | some c => if c ∈ acc then acc else acc ++ [c]
      | none => acc := by
  unfold childStep childAfter
  by_cases hp : ps <+: Path.segments key
  · rw [if_pos (List.isPrefixOf_iff_prefix.2 hp), if_pos hp]
    cases (Path.segments key)[ps.length]? <;> simp
  · rw [if_neg (by rwa [List.isPrefixOf_iff_prefix]), if_neg hp]

theorem nodup_childStep {ps acc : List String} (h : acc.Nodup) (key : String) :
    (childStep ps acc key).Nodup := by
  rw [childStep_eq]
  cases childAfter ps key with
  | none => exact h
  | some c =>
    dsimp only
    by_cases hc : c ∈ acc
    · rwa [if_pos hc]
    · rw [if_neg hc]
      refine List.nodup_append.2 ⟨h, List.nodup_singleton c, ?_⟩
      rintro a ha b hb rfl
      exact hc ((List.mem_singleton.1 hb) ▸ ha)

theorem eraseDups_append_cons_of_mem {acc rest : List String} {c : String} (h : c ∈ acc) :
    (acc ++ c :: rest).eraseDups = (acc ++ rest).eraseDups := by
  rw [List.eraseDups_append, List.eraseDups_append]
  simp [List.removeAll, h]

theorem foldl_childStep (ps : List String) :
    ∀ (keys acc : List String), acc.Nodup →
      keys.foldl (childStep ps) acc = (acc ++ keys.filterMap (childAfter ps)).eraseDups
  | [], acc, h => by simp [eraseDups_of_nodup h]
  | key :: keys, acc, h => by
    rw [List.foldl_cons, foldl_childStep ps keys _ (nodup_childStep h key), childStep_eq,
      List.filterMap_cons]
    cases childAfter ps key with
    | none => rfl
    | some c =>
      dsimp only
      by_cases hc : c ∈ acc
      · rw [if_pos hc, eraseDups_append_cons_of_mem hc]
      · rw [if_neg hc, List.append_assoc, List.singleton_append]

/-- The child keys of a parent are the distinct segments the patterns declare right after the
parent's segments, in declaration order. -/
theorem childKeys_eq_declaredChildren (s : Schema) (parent : String) :
    s.childKeys parent = s.declaredChildren (Path.segments parent) := by
  rw [childKeys_eq_foldl, foldl_childStep _ _ _ List.nodup_nil, List.nil_append]
  rfl

theorem declaredChildren_nil (s : Schema) :
    s.declaredChildren [] = (s.keys.filterMap fun key => (Path.segments key).head?).eraseDups := by
  unfold declaredChildren
  congr 1
  refine List.filterMap_congr fun key _ => ?_
  simp [childAfter, List.head?_eq_getElem?]

end Schema

namespace Engine

variable (e : Engine)

theorem check_shape_of_not_obj (fuel : Nat) (ctx : Context) (params : List String) {w : Json}
    (hw : ∀ fs, w ≠ .obj fs) (t : List String) :
    (e.check (fuel + 1) ctx (.builtin (.object .shape)) (some w) params).run t = .ok (.fail, t) := by
  rw [Engine.check.eq_7 _ _ _ _ _ hw]
  rfl

theorem check_shape_run (fuel : Nat) (ctx : Context) {params : List String} {S : Schema}
    (hS : Schema.ofText (params.head?.getD "") = .ok S) (fs : List (String × Json))
    (t : List String) :
    (e.check (fuel + 1) ctx (.builtin (.object .shape)) (some (.obj fs)) params).run t =
      (((e.run fuel (.obj fs) S).run t).mapError (.schemaShape ctx.field)).map fun r =>
        (if r.1.valid then .pass else .failWith [("errors", shapeErrors r.1.errors)], r.2) := by
  have hS' : (Schema.ofText (params.head?.getD "")).mapError ctx.fault = .ok S := by
    rw [hS]
    rfl
  rw [Engine.check.eq_6, hS', liftM_ok_bind]
  simp only [StateT.run_bind, StateT.run_get, pure_bind]
  cases (e.run fuel (.obj fs) S).run t with
  | error f => rfl
  | ok r =>
    obtain ⟨nested, u⟩ := r
    simp only [StateT.run_bind, StateT.run_set, pure_bind, Except.mapError, Except.map]
    cases nested.valid <;> rfl

/-- A `shape` rule whose parameter holds the schema `S` validates its object against `S` as a
validation of its own, with the same rules, options and messages and with the object as the
whole data; the check reads nothing else of its context but the running field, which a fault of
the nested validation is wrapped with. It passes when the nested outcome is valid, and otherwise
fails with each nested failure as `field: message`, in report order, as its `errors`; the checks
the nested validation counts follow the tally it started from. A value that is no object fails.
This holds whenever the engine's nesting is bounded (`Engine.nestingBound`: the builtin rules
with any custom predicates) and the check has the fuel a validation gives it. -/
theorem check_shape_validates_nested (B : e.NestingBound) {fuel : Nat} {params : List String}
    {S : Schema} (hS : Schema.ofText (params.head?.getD "") = .ok S)
    (hfuel : 3 * S.weight + 3 ≤ fuel) (ctx : Context) (t : List String) :
    (∀ w, (∀ fs, w ≠ .obj fs) →
      (e.check (fuel + 1) ctx (.builtin (.object .shape)) (some w) params).run t = .ok (.fail, t)) ∧
    ∀ fs, (e.check (fuel + 1) ctx (.builtin (.object .shape)) (some (.obj fs)) params).run t =
      ((e.validate (.obj fs) S).mapError (.schemaShape ctx.field)).map fun r =>
        (if r.1.valid then .pass else .failWith [("errors", shapeErrors r.1.errors)], t ++ r.2) := by
  refine ⟨fun w hw => e.check_shape_of_not_obj fuel ctx params hw t, fun fs => ?_⟩
  -- the nested run appends to the tally, and with this fuel it is the validation
  rw [e.check_shape_run fuel ctx hS fs t, e.run_appends fuel (.obj fs) S t,
    B.run_eq_validate hfuel]
  cases e.validate (.obj fs) S <;> rfl

/-- The keys `strict` allows when its parameters list none: the first segments of the schema of
the chain's first `shape`, else the segments the schema declares right under the running pattern;
every key (`none`) when a wildcard is among them. A `shape` whose schema does not read faults. -/
def strictDeclared (ctx : Context) : Except Fault (Option (List String)) :=
  let keys : Except Fault (List String) :=
    match ctx.chain.find? (·.name == "shape") with
    | some shape =>
      ((Schema.ofText (shape.params.head?.getD "")).map fun S =>
        (S.keys.filterMap fun key => (Path.segments key).head?).eraseDups).mapError ctx.fault
    | none => .ok (ctx.schema.declaredChildren (Path.segments ctx.pattern))
  keys.map fun ks => if Path.wildcard ∈ ks then none else some ks

/-- The verdict of `strict` on an object's members: every key passes when no list is given;
otherwise it fails exactly when some key is outside the list, naming those keys in the object's
order as its `fields`. -/
def strictVerdict (allowed : Option (List String)) (fs : List (String × Json)) : Verdict :=
  match allowed with
  | none => .pass
  | some keys =>
    match (fs.map (·.1)).filter (· ∉ keys) with
    | [] => .pass
    | extra => .failWith [("fields", ", ".intercalate extra)]

theorem unexpectedKeys_eq_filter (fs : List (String × Json)) (keys : List String) :
    Check.unexpectedKeys fs keys = (fs.map (·.1)).filter (· ∉ keys) := by
  simp [Check.unexpectedKeys]

theorem strict_allowed_verdict (fs : List (String × Json)) (allowed : Option (List String))
    (t : List String) :
    ((match allowed with
      | none => pure .pass
      | some keys =>
        match Check.unexpectedKeys fs keys with
        | [] => pure .pass
        | extra => pure (.failWith [("fields", ", ".intercalate extra)]) : Eval Verdict).run t) =
      .ok (strictVerdict allowed fs, t) := by
  cases allowed with
  | none => rfl
  | some keys =>
    simp only [strictVerdict, ← unexpectedKeys_eq_filter]
    cases Check.unexpectedKeys fs keys <;> rfl

theorem strict_derived_verdict (fs : List (String × Json)) (keys : List String) (t : List String) :
    ((pure (if keys.contains Path.wildcard = true then none else some keys) >>= fun allowed =>
      match allowed with
      | none => pure .pass
      | some keys =>
        match Check.unexpectedKeys fs keys with
        | [] => pure .pass
        | extra => pure (.failWith [("fields", ", ".intercalate extra)]) : Eval Verdict).run t) =
      .ok (strictVerdict (if Path.wildcard ∈ keys then none else some keys) fs, t) := by
  rw [pure_bind, ← strict_allowed_verdict fs _ t]
  by_cases hw : Path.wildcard ∈ keys
  · simp [hw]
  · simp [hw]

/-- A `strict` rule decides on the keys of an object: with parameters it allows exactly them;
without, it allows the first segments of the schema of the chain's first `shape` or, when the
chain has none, the distinct segments, in declaration order, that the schema's patterns declare
right after the running pattern's segments, and a wildcard among those allows every key. It fails
exactly when the object has a key outside what it allows, naming those keys in the object's
order; a value that is no object fails. -/
theorem check_strict_rejects_undeclared (fuel : Nat) (ctx : Context) (params : List String)
    (t : List String) :
    (∀ w, (∀ fs, w ≠ .obj fs) →
      (e.check (fuel + 1) ctx (.builtin (.object .strict)) (some w) params).run t = .ok (.fail, t)) ∧
    ∀ fs, (e.check (fuel + 1) ctx (.builtin (.object .strict)) (some (.obj fs)) params).run t =
      ((if params = [] then strictDeclared ctx else .ok (some params)).map fun allowed =>
        (strictVerdict allowed fs, t)) := by
  refine ⟨fun w hw => ?_, fun fs => ?_⟩
  · rw [Engine.check.eq_9 _ _ _ _ _ hw]
    rfl
  · rw [Engine.check.eq_8]
    by_cases hp : params = []
    · -- the declared keys, from the chain's `shape` or from the schema
      subst hp
      simp only [List.isEmpty_nil, Bool.not_true, Bool.false_eq_true, if_false, if_true,
        strictDeclared]
      cases ctx.chain.find? (·.name == "shape") with
      | some shape =>
        dsimp only
        cases Schema.ofText (shape.params.head?.getD "") with
        | error msg => rfl
        | ok S =>
          -- the root's child keys are the first segments
          have hroot : S.childKeys "" = S.declaredChildren [] :=
            Schema.childKeys_eq_declaredChildren S ""
          rw [show ((Except.ok S : Except String Schema).map (·.childKeys "")).mapError ctx.fault =
            .ok (S.childKeys "") from rfl, liftM_ok_bind, hroot, Schema.declaredChildren_nil]
          exact strict_derived_verdict fs _ t
      | none =>
        dsimp only
        rw [liftM_ok_bind, Schema.childKeys_eq_declaredChildren]
        exact strict_derived_verdict fs _ t
    · have hne : (!params.isEmpty) = true := by simpa using hp
      rw [if_pos hne, if_neg hp]
      exact strict_allowed_verdict fs (some params) t

end Engine

/-- `strict` fails a number, whatever keys it would allow. -/
theorem strict_fails_a_number :
    let e : Engine := ⟨Registry.builtins, Config.default, ⟨Catalog.empty, none⟩, default⟩
    let ctx := e.context ⟨.obj [("a", .num (.nat 5))], ⟨[]⟩, "a", "a", some (.num (.nat 5))⟩
      ⟨none, []⟩ default
    (e.check 1 ctx (.builtin (.object .strict)) (some (.num (.nat 5))) []).run [] = .ok (.fail, []) :=
  (Engine.check_strict_rejects_undeclared _ 0 _ [] []).1 (.num (.nat 5)) fun _ h => by cases h

/-- A `shape` holding a schema that requires a `name`, checked with the builtin rules and the fuel
a validation gives it: its schema reads, and the check is the nested validation. -/
theorem shape_requiring_name_validates_nested :
    let e : Engine := ⟨Registry.builtins, Config.default, ⟨Catalog.empty, none⟩, default⟩
    let ctx := e.context ⟨.obj [("a", .obj [])], ⟨[]⟩, "a", "a", some (.obj [])⟩ ⟨none, []⟩ default
    let params := ["\x7b\"name\":\"required\"\x7d"]
    ∃ S, Schema.ofText (params.head?.getD "") = .ok S ∧ 3 * S.weight + 3 ≤ 45 ∧
      (∀ w, (∀ fs, w ≠ .obj fs) →
        (e.check (45 + 1) ctx (.builtin (.object .shape)) (some w) params).run [] = .ok (.fail, [])) ∧
      ∀ fs, (e.check (45 + 1) ctx (.builtin (.object .shape)) (some (.obj fs)) params).run [] =
        ((e.validate (.obj fs) S).mapError (.schemaShape ctx.field)).map fun r =>
          (if r.1.valid then .pass else .failWith [("errors", shapeErrors r.1.errors)], [] ++ r.2) := by
  intro e ctx params
  obtain ⟨S, hS, hw⟩ := exists_ok_of_toOption_map
    (by decide +kernel : (Schema.ofText (params.head?.getD "")).toOption.map Schema.weight = some 14)
  have hfuel : 3 * S.weight + 3 ≤ 45 := by omega
  have hr : e.registry.BuiltinsWith fun _ => True := Registry.builtins_builtinsWith
  exact ⟨S, hS, hfuel, Engine.check_shape_validates_nested e (e.nestingBound hr) hS hfuel ctx []⟩

end FieldRules

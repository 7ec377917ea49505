import FieldRules.Proofs.SchemaKeys
import FieldRules.Proofs.WriteOrder

namespace FieldRules

theorem lookup_eq_of_perm {β : Type} {l' l : List (String × β)} (h : l'.Perm l)
    (hn : (l.map (·.1)).Nodup) (k : String) : l'.lookup k = l.lookup k := by
  induction h with
  | nil => rfl
  | cons x _ ih =>
    obtain ⟨k', v⟩ := x
    by_cases hk : k = k'
    · subst hk
      simp only [List.lookup_cons_self]
    · have hk' : (k == k') = false := beq_eq_false_iff_ne.2 hk
      simp only [List.lookup_cons, hk']
      exact ih (List.nodup_cons.1 hn).2
  | swap x y l =>
    obtain ⟨kx, vx⟩ := x
    obtain ⟨ky, vy⟩ := y
    have hxy : ky ≠ kx := by
      intro h
      simp only [List.map_cons, List.nodup_cons, List.mem_cons] at hn
      exact hn.1 (Or.inl h.symm)
    by_cases hx : k = kx
    · subst hx
      have hy : (k == ky) = false := beq_eq_false_iff_ne.2 hxy.symm
      simp only [List.lookup_cons, hy]
    · have hx' : (k == kx) = false := beq_eq_false_iff_ne.2 hx
      simp only [List.lookup_cons, hx']
  | trans h₁ h₂ ih₁ ih₂ =>
    exact (ih₁ ((h₂.map _).nodup_iff.2 hn)).trans (ih₂ hn)

theorem eraseDups_append_of_disjoint {α : Type} [BEq α] [LawfulBEq α] {as bs : List α}
    (h : as.Disjoint bs) : (as ++ bs).eraseDups = as.eraseDups ++ bs.eraseDups := by
  rw [List.eraseDups_append]
  congr 2
  refine List.filter_eq_self.2 fun b hb => ?_
  have hb' : b ∉ as := fun ha => h ha hb
  simpa using hb'

/-- The part of a concatenation of blocks at the paths of one block is that block, when blocks
lie at disjoint paths and each block lies within its own. -/
theorem flatMap_filter_of_pairwise {γ : Type} {L : List γ} {Q F : γ → List String}
    (hdisj : (L.map Q).Pairwise List.Disjoint) (hF : ∀ x ∈ L, ∀ f ∈ F x, f ∈ Q x) {y : γ}
    (hy : y ∈ L) : (L.flatMap F).filter (· ∈ Q y) = F y := by
  obtain ⟨pre, post, rfl⟩ := List.append_of_mem hy
  rw [List.map_append, List.map_cons, List.pairwise_append, List.pairwise_cons] at hdisj
  obtain ⟨-, ⟨hpost, -⟩, hpre⟩ := hdisj
  -- a block other than `y`'s lies outside `y`'s paths
  have hout : ∀ x ∈ pre ++ post, (F x).filter (· ∈ Q y) = [] := by
    intro x hx
    refine List.filter_eq_nil_iff.2 fun f hf hfy => ?_
    rcases List.mem_append.1 hx with hx | hx
    · exact hpre (Q x) (List.mem_map_of_mem hx) (Q y) List.mem_cons_self
        (hF x (by simp [hx]) f hf) (of_decide_eq_true hfy)
    · exact hpost (Q x) (List.mem_map_of_mem hx) (of_decide_eq_true hfy)
        (hF x (by simp [hx]) f hf)
  have hself : (F y).filter (· ∈ Q y) = F y :=
    List.filter_eq_self.2 fun f hf => decide_eq_true (hF y (by simp) f hf)
  rw [List.filter_flatMap, List.flatMap_append, List.flatMap_cons, hself,
    List.flatMap_eq_nil_iff.2 fun x hx => hout x (List.mem_append_left _ hx),
    List.flatMap_eq_nil_iff.2 fun x hx => hout x (List.mem_append_right _ hx)]
  simp

theorem Schema.weight_perm {S' S : Schema} (h : S'.entries.Perm S.entries) : S'.weight = S.weight := by
  unfold Schema.weight
  refine h.foldl_eq' (fun x _ y _ n => ?_) 1
  obtain ⟨p, d⟩ := x
  obtain ⟨q, d'⟩ := y
  dsimp only
  omega

namespace Bag

theorem failedFields_append' (O₁ O₂ : List (String × List Failure)) :
    failedFields (O₁ ++ O₂) = failedFields O₁ ++ failedFields O₂ := by
  simp [failedFields, List.filter_append]

theorem failuresAt_append' (O₁ O₂ : List (String × List Failure)) (f : String) :
    failuresAt (O₁ ++ O₂) f = failuresAt O₁ f ++ failuresAt O₂ f := by
  simp [failuresAt, List.filter_append]

theorem mem_paths_of_failedFields {O : List (String × List Failure)} {f : String}
    (h : f ∈ failedFields O) : f ∈ O.map (·.1) :=
  (List.filter_sublist.map _).subset h

theorem groupByField_append_of_disjoint {O₁ O₂ : List (String × List Failure)}
    (h : (O₁.map (·.1)).Disjoint (O₂.map (·.1))) :
    groupByField (O₁ ++ O₂) = groupByField O₁ ++ groupByField O₂ := by
  have hfailed : (failedFields O₁).Disjoint (failedFields O₂) := fun f h₁ h₂ =>
    h (mem_paths_of_failedFields h₁) (mem_paths_of_failedFields h₂)
  unfold groupByField
  rw [failedFields_append', eraseDups_append_of_disjoint hfailed, List.map_append]
  -- a field failed in one part has no failures in the other
  congr 1
  · refine List.map_congr_left fun f hf => ?_
    have hf₁ := List.mem_eraseDups.1 hf
    have hf₂ : f ∉ failedFields O₂ := fun h₂ => hfailed hf₁ h₂
    rw [failuresAt_append', failuresAt_eq_nil hf₂, List.append_nil]
  · refine List.map_congr_left fun f hf => ?_
    have hf₂ := List.mem_eraseDups.1 hf
    have hf₁ : f ∉ failedFields O₁ := fun h₁ => hfailed h₁ hf₂
    rw [failuresAt_append', failuresAt_eq_nil hf₁, List.nil_append]

theorem groupByField_flatMap {γ : Type} {B : γ → List (String × List Failure)} :
    ∀ {L : List γ}, (L.map fun x => (B x).map (·.1)).Pairwise List.Disjoint →
      groupByField (L.flatMap B) = L.flatMap fun x => groupByField (B x)
  | [], _ => rfl
  | x :: L, h => by
    rw [List.map_cons, List.pairwise_cons] at h
    have hdisj : ((B x).map (·.1)).Disjoint ((L.flatMap B).map (·.1)) := by
      intro f hx hL
      rw [List.map_flatMap] at hL
      obtain ⟨y, hy, hfy⟩ := List.mem_flatMap.1 hL
      exact h.1 _ (List.mem_map_of_mem hy) hx hfy
    rw [List.flatMap_cons, List.flatMap_cons, groupByField_append_of_disjoint hdisj,
      groupByField_flatMap h.2]

theorem mem_paths_of_groupByField {O : List (String × List Failure)} {f : String}
    (h : f ∈ (groupByField O).map (·.1)) : f ∈ O.map (·.1) := by
  simp only [groupByField, List.map_map, Function.comp_def, List.map_id'] at h
  exact mem_paths_of_failedFields (List.mem_eraseDups.1 h)

end Bag

namespace Engine

variable (e : Engine)

theorem fieldInstances_eq_flatMap (data : Json) (chains : List (String × Chain)) :
    e.fieldInstances data chains = chains.flatMap fun ch => e.fieldInstances data [ch] := by
  simp [fieldInstances, resolveChains, List.map_flatMap]

theorem fieldInstances_perm {data : Json} {chains' chains : List (String × Chain)}
    (h : chains'.Perm chains) : (e.fieldInstances data chains').Perm (e.fieldInstances data chains) := by
  rw [fieldInstances_eq_flatMap, e.fieldInstances_eq_flatMap data chains]
  exact h.flatMap_right _

/-- The failures a field instance records, none where its run faults. -/
def failuresOf (fuel : Nat) (data : Json) (schema : Schema)
    (i : String × Chain × String × Option Json) : List Failure :=
  (e.instanceFailures fuel data schema i).toOption.getD []

theorem failuresOf_of_ok {fuel : Nat} {data : Json} {schema : Schema}
    {i : String × Chain × String × Option Json} {fs : List Failure}
    (h : e.instanceFailures fuel data schema i = .ok fs) : e.failuresOf fuel data schema i = fs := by
  simp [failuresOf, h, Except.toOption]

theorem failures_eq_map {fuel : Nat} {data : Json} {schema : Schema}
    {insts : List (String × Chain × String × Option Json)} {fss : List (List Failure)}
    (h : insts.mapM (e.instanceFailures fuel data schema) = .ok fss) :
    fss = insts.map (e.failuresOf fuel data schema) := by
  have hmap := mapM_ok_map (fun _ _ hxy => (e.failuresOf_of_ok hxy).symm) h
  rwa [List.map_id'] at hmap

theorem outcomeOf_valid (data : Json) (chains : List (String × Chain)) (fss : List (List Failure)) :
    (e.outcomeOf data chains fss).valid = (e.outcomeOf data chains fss).errors.entries.isEmpty := rfl

theorem outcomeOf_data (data : Json) (chains : List (String × Chain)) (fss : List (List Failure)) :
    (e.outcomeOf data chains fss).data =
      ((chains.map (·.1)).flatMap (Path.resolve data)).foldl e.writeBack data := rfl

theorem block_paths (data : Json) (φ : String × Chain × String × Option Json → List Failure)
    (ch : String × Chain) :
    ((e.fieldInstances data [ch]).map fun i => (i.2.2.1, φ i)).map (·.1) =
      (Path.resolve data ch.1).map (·.1) := by
  rw [List.map_map]
  simpa [Function.comp_def] using e.fieldInstances_paths data [ch]

/-- The report of a run whose instances recorded `φ`, pattern by pattern: when the patterns reach
disjoint paths, each pattern's instances are grouped on their own, in the order of the chains. -/
theorem outcomeOf_errors (data : Json) (chains : List (String × Chain))
    (φ : String × Chain × String × Option Json → List Failure)
    (hblocks : (chains.map fun ch => (Path.resolve data ch.1).map (·.1)).Pairwise List.Disjoint) :
    (e.outcomeOf data chains ((e.fieldInstances data chains).map φ)).errors.entries =
      chains.flatMap fun ch =>
        Bag.groupByField ((e.fieldInstances data [ch]).map fun i => (i.2.2.1, φ i)) := by
  show Bag.groupByField (((e.fieldInstances data chains).map (·.2.2.1)).zip
    ((e.fieldInstances data chains).map φ)) = _
  rw [List.zip_map', fieldInstances_eq_flatMap, List.map_flatMap]
  refine Bag.groupByField_flatMap ?_
  rwa [List.map_congr_left fun ch _ => e.block_paths data φ ch]

/-- A field instance of a schema's chains runs alike against any schema with the same patterns:
the registry compiled its chain, so every rule of it ignores the schema. -/
theorem instanceFailures_withSchema (hr : e.registry.BuiltinsWith CustomRule.IgnoresSchema)
    {fuel : Nat} {data : Json} {S' S : Schema} (hkeys : S'.keys.Perm S.keys)
    {chains : List (String × Chain)} (hc : S'.entries.mapM e.registry.compileEntry = .ok chains)
    {i : String × Chain × String × Option Json} (hi : i ∈ e.fieldInstances data chains) :
    e.instanceFailures fuel data S' i = e.instanceFailures fuel data S i := by
  obtain ⟨p, c, path, v⟩ := i
  obtain ⟨entry, -, hentry⟩ := mapM_ok_mem hc (e.mem_of_fieldInstances hi)
  obtain ⟨rules, hcomp⟩ := Registry.compileEntry_ok hentry
  have hh : ∀ r ∈ c.rules, Registry.HandlerOf CustomRule.IgnoresSchema r.kind r.handler :=
    fun r hr' => hr.compile_handlerOf hcomp hr'
  show (e.runChain fuel ((⟨data, S, p, path, v⟩ : Instance).withSchema S') c e.config.bail).run' [] =
    (e.runChain fuel ⟨data, S, p, path, v⟩ c e.config.bail).run' []
  rw [(e.schema_independence hr).1 fuel _ c _ hh S' hkeys]

theorem blocks_eq_entries {data : Json} {S : Schema} {chains : List (String × Chain)}
    (hc : S.entries.mapM e.registry.compileEntry = .ok chains) :
    (chains.map fun ch => (Path.resolve data ch.1).map (·.1)) =
      S.entries.map fun en => (Path.resolve data en.1).map (·.1) := by
  have hpat : chains.map (·.1) = S.entries.map (·.1) := Registry.mapM_compileEntry_patterns hc
  calc (chains.map fun ch => (Path.resolve data ch.1).map (·.1))
      = (chains.map (·.1)).map fun p => (Path.resolve data p).map (·.1) := by rw [List.map_map]; rfl
    _ = (S.entries.map (·.1)).map fun p => (Path.resolve data p).map (·.1) := by rw [hpat]
    _ = S.entries.map fun en => (Path.resolve data en.1).map (·.1) := by rw [List.map_map]; rfl

/-- The order of a schema's entries orders the report and nothing else. Validate the same data
against two schemas holding the same entries in different orders, with the builtin rules and
custom predicates that do not read the schema, no two entries reaching one concrete path.
Wherever the first validation succeeds the second does too, with the same verdict, the same data
and the same failures for each field; its failed fields come pattern by pattern in the order of
the second schema, those of one pattern in the order the first report lists them. -/
theorem validate_schema_order {e : Engine}
    (hr : e.registry.BuiltinsWith CustomRule.IgnoresSchema) {S S' : Schema}
    (hperm : S'.entries.Perm S.entries) {data : Json}
    (hdisj : (S.entries.map fun en => (Path.resolve data en.1).map (·.1)).Pairwise List.Disjoint)
    {r : Outcome} {calls : List String} (h : e.validate data S = .ok (r, calls)) :
    ∃ r' calls', e.validate data S' = .ok (r', calls') ∧ r'.valid = r.valid ∧ r'.data = r.data ∧
      (∀ f, r'.errors.get? f = r.errors.get? f) ∧
      r'.errors.fields = S'.keys.flatMap fun p =>
        r.errors.fields.filter (· ∈ (Path.resolve data p).map (·.1)) := by
  obtain ⟨chains, fss, hc, hfss, hrdef⟩ := e.validate_ok_outcome h
  have hr₀ : r = e.outcomeOf data chains fss := hrdef
  subst hr₀
  -- the second schema compiles to the same chains in its own order
  obtain ⟨chains', hc', hchains⟩ := mapM_ok_perm hperm hc
  have hkeys : S'.keys.Perm S.keys := hperm.map _
  have hblocks := (e.blocks_eq_entries hc).symm ▸ hdisj
  have hblocks' := ((hchains.map _).pairwise_iff List.Disjoint.symm).2 hblocks
  -- every instance records the same failures under both schemas
  have hsame : ∀ i ∈ e.fieldInstances data chains',
      e.instanceFailures (3 * S.weight + 2) data S' i =
        .ok (e.failuresOf (3 * S.weight + 2) data S i) := by
    intro i hi
    obtain ⟨fs, hfs⟩ := mapM_ok_of_mem hfss ((e.fieldInstances_perm hchains).subset hi)
    rw [e.instanceFailures_withSchema hr hkeys hc' hi, hfs, e.failuresOf_of_ok hfs]
  obtain ⟨fss', hfss'⟩ := mapM_ok_of_forall fun i hi => ⟨_, hsame i hi⟩
  have hfss'_eq : fss' = (e.fieldInstances data chains').map (e.failuresOf (3 * S.weight + 2) data S) := by
    rw [e.failures_eq_map hfss']
    exact List.map_congr_left fun i hi => e.failuresOf_of_ok (hsame i hi)
  obtain ⟨u, hrun⟩ := e.run_succ_of_ok hc' hfss' []
  -- the two reports are the same blocks of groups, in the two orders of the chains
  have herr := e.outcomeOf_errors data chains (e.failuresOf (3 * S.weight + 2) data S) hblocks
  have herr' := e.outcomeOf_errors data chains' (e.failuresOf (3 * S.weight + 2) data S) hblocks'
  rw [← e.failures_eq_map hfss] at herr
  rw [← hfss'_eq] at herr'
  have hentries := hchains.flatMap_right fun ch => Bag.groupByField
    ((e.fieldInstances data [ch]).map fun i => (i.2.2.1, e.failuresOf (3 * S.weight + 2) data S i))
  rw [← herr, ← herr'] at hentries
  refine ⟨e.outcomeOf data chains' fss', u, ?_, ?_, ?_, ?_, ?_⟩
  · show (e.run (3 * S'.weight + 2 + 1) data S').run [] = _
    rw [Schema.weight_perm hperm]
    exact hrun
  · rw [outcomeOf_valid, outcomeOf_valid]
    exact hentries.isEmpty_eq
  · rw [outcomeOf_data, outcomeOf_data]
    refine e.foldl_writeBack_perm (hchains.map _) ?_ data
    rwa [List.map_map]
  · intro f
    exact lookup_eq_of_perm hentries (Bag.wellFormed_groupByField _).fields_nodup f
  · -- each pattern's fields, taken from the first report, are its own group's
    show (e.outcomeOf data chains' fss').errors.entries.map (·.1) = S'.keys.flatMap fun p =>
      ((e.outcomeOf data chains fss).errors.entries.map (·.1)).filter
        (· ∈ (Path.resolve data p).map (·.1))
    rw [herr, herr', Schema.keys, ← Registry.mapM_compileEntry_patterns hc', List.flatMap_map,
      List.map_flatMap, List.map_flatMap]
    refine List.flatMap_congr fun ch hch => ?_
    refine (flatMap_filter_of_pairwise (F := fun c => (Bag.groupByField ((e.fieldInstances data [c]).map
      fun i => (i.2.2.1, e.failuresOf (3 * S.weight + 2) data S i))).map (·.1)) hblocks
      (fun c _ f hf => ?_) (hchains.subset hch)).symm
    rw [← e.block_paths data (e.failuresOf (3 * S.weight + 2) data S) c]
    exact Bag.mem_paths_of_groupByField hf

end Engine

/-- A schema requiring `name` and a number at `age`, in both orders, on data with a text at `age`:
both fields fail under either order, in the order of the schema. -/
theorem reordered_schema_reports_alike :
    ∃ r calls, Validator.new.validate default (.obj [("age", .str "x")])
        ⟨[("name", .text "required"), ("age", .text "number")]⟩ = .ok (r, calls) ∧
      ∃ r' calls', Validator.new.validate default (.obj [("age", .str "x")])
          ⟨[("age", .text "number"), ("name", .text "required")]⟩ = .ok (r', calls') ∧
        r'.valid = r.valid ∧ r'.data = r.data ∧ (∀ f, r'.errors.get? f = r.errors.get? f) ∧
        r'.errors.fields = (⟨[("age", .text "number"), ("name", .text "required")]⟩ : Schema).keys.flatMap
          fun p => r.errors.fields.filter
            (· ∈ (Path.resolve (.obj [("age", .str "x")]) p).map (·.1)) := by
  obtain ⟨⟨r, calls⟩, hv, -⟩ := exists_ok_of_toOption_map
    (by decide +kernel : (Validator.new.validate default (.obj [("age", .str "x")])
      ⟨[("name", .text "required"), ("age", .text "number")]⟩).toOption.map
        (fun a => a.1.valid) = some false)
  have hpaths : ((⟨[("name", .text "required"), ("age", .text "number")]⟩ : Schema).entries.map
      fun en => (Path.resolve (.obj [("age", .str "x")]) en.1).map (·.1)) = [["name"], ["age"]] := by
    decide +kernel
  exact ⟨r, calls, hv, Engine.validate_schema_order
    (e := ⟨Registry.builtins, Config.default, ⟨Catalog.empty, none⟩, default⟩)
    (Registry.builtinsWith_foldl [] fun _ h => by cases h) (.swap _ _ []) (by rw [hpaths]; simp) hv⟩

end FieldRules

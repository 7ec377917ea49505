import FieldRules.Proofs.Run
import FieldRules.Proofs.AssocInsert

namespace FieldRules

theorem nodup_eraseDups {α : Type} [BEq α] [LawfulBEq α] : ∀ l : List α, l.eraseDups.Nodup
  | [] => List.nodup_nil
  | a :: as => by
    rw [List.eraseDups_cons]
    refine List.nodup_cons.2 ⟨?_, nodup_eraseDups _⟩
    simp [List.mem_eraseDups]
termination_by l => l.length
decreasing_by simpa using Nat.lt_succ_of_le (List.length_filter_le _ as)

namespace Bag

/-- Each field once, each with a failure: what the documentation calls the failed fields. -/
structure WellFormed (b : Bag) : Prop where
  fields_nodup : b.fields.Nodup
  failures_ne_nil : ∀ e ∈ b.entries, e.2 ≠ []

theorem wellFormed_empty : Bag.empty.WellFormed :=
  ⟨List.nodup_nil, fun _ h => by cases h⟩

theorem WellFormed.record {b : Bag} (hb : b.WellFormed) (field : String) {fs : List Failure}
    (hfs : fs ≠ []) : (b.record field fs).WellFormed := by
  unfold Bag.record
  cases hl : b.entries.lookup field with
  | some old =>
    have hany : b.entries.any (·.1 == field) = true := by
      obtain ⟨l₁, l₂, hsplit, -⟩ := List.lookup_eq_some_iff.1 hl
      exact List.any_eq_true.2 ⟨(field, old), by simp [hsplit], by simp⟩
    refine ⟨?_, fun e he => ?_⟩
    · -- an update in place keeps the keys
      have hkeys : ((Assoc.insert b.entries field (old ++ fs)).map (·.1)) = b.fields := by
        simp only [Assoc.insert, hany, if_true, List.map_map, fields]
        apply List.map_congr_left
        intro e _
        by_cases h : e.1 = field <;> simp [h]
      simpa [fields] using hkeys ▸ hb.fields_nodup
    · simp only [Assoc.insert, hany, if_true, List.mem_map] at he
      obtain ⟨e', he', rfl⟩ := he
      by_cases h : e'.1 = field
      · simp [h, hfs]
      · simpa [h] using hb.failures_ne_nil e' he'
  | none =>
    have hnot : field ∉ b.fields := by
      intro hf
      obtain ⟨e, he, rfl⟩ := List.mem_map.1 hf
      simpa using List.lookup_eq_none_iff.1 hl e he
    refine ⟨?_, fun e he => ?_⟩
    · have hnodup : (b.fields ++ [field]).Nodup :=
        List.nodup_append.2 ⟨hb.fields_nodup, List.nodup_singleton _, fun a ha c hc => by
          rw [List.mem_singleton.1 hc]
          rintro rfl
          exact hnot ha⟩
      simpa [fields] using hnodup
    · rcases List.mem_append.1 he with he | he
      · exact hb.failures_ne_nil e he
      · rw [List.mem_singleton.1 he]
        exact hfs

theorem wellFormed_groupByField (outcomes : List (String × List Failure)) :
    (⟨groupByField outcomes⟩ : Bag).WellFormed := by
  refine ⟨?_, fun e he => ?_⟩
  · simpa [fields, groupByField, List.map_map, Function.comp_def] using
      nodup_eraseDups (failedFields outcomes)
  · obtain ⟨f, hf, rfl⟩ := List.mem_map.1 he
    obtain ⟨o, ho, rfl⟩ := List.mem_map.1 (List.mem_eraseDups.1 hf)
    obtain ⟨hmem, hne⟩ := List.mem_filter.1 ho
    intro hnil
    change failuresAt outcomes o.1 = [] at hnil
    have hsub : o.2 ⊆ failuresAt outcomes o.1 :=
      fun x hx => List.mem_flatMap.2 ⟨o, List.mem_filter.2 ⟨hmem, by simp⟩, hx⟩
    cases hl : o.2 with
    | nil => simp [hl] at hne
    | cons x xs => simpa [hnil] using hsub (hl ▸ List.mem_cons_self)

/-- A flat entry read back: its field, and the rule and message of its failure. -/
def flatRow? (v : Json) : Option (String × Failure) := do
  let f ← (Json.get? "field" v).bind Json.asString?
  let r ← (Json.get? "rule" v).bind Json.asString?
  let m ← (Json.get? "message" v).bind Json.asString?
  pure (f, ⟨r, m⟩)

/-- The entries of a flat report read back, in order. -/
def flatEntries? : Json → Option (List (String × Failure))
  | .arr items => items.mapM flatRow?
  | _ => none

/-- The failures of a bag one by one, each with its field, in report order. -/
def failureList (b : Bag) : List (String × Failure) := b.entries.flatMap fun e => e.2.map (e.1, ·)

theorem flatRow?_entry (f : String) (x : Failure) :
    flatRow? (.obj [("field", .str f), ("rule", .str x.rule), ("message", .str x.message)]) =
      some (f, x) := by
  simp [flatRow?, Json.get?, Json.asString?, List.lookup]

/-- The flat shape reads back as the bag's failures one by one: each entry carries the field,
rule and message of one failure. -/
theorem flatEntries?_toFlat (b : Bag) : flatEntries? b.toFlat = some b.failureList := by
  have hflat : b.toFlat = .arr (b.failureList.map fun p =>
      Json.obj [("field", .str p.1), ("rule", .str p.2.rule), ("message", .str p.2.message)]) := by
    simp [toFlat, failureList, List.map_flatMap, Function.comp_def]
  rw [hflat, flatEntries?, List.mapM_map]
  simp only [Function.comp_def, flatRow?_entry]
  simpa using List.mapM_pure (m := Option) (l := b.failureList) (f := id)

/-- The bag a flat report reads back as: its entries grouped by field. -/
def ofFlat? (v : Json) : Option Bag :=
  (flatEntries? v).map fun es => ⟨groupByField (es.map fun p => (p.1, [p.2]))⟩

theorem failedFields_singles (b : Bag) :
    failedFields (b.failureList.map fun p => (p.1, [p.2])) =
      b.entries.flatMap fun e => List.replicate e.2.length e.1 := by
  simp [failedFields, failureList, List.map_flatMap, List.filter_flatMap, List.filter_map,
    Function.comp_def]

theorem failuresAt_singles (b : Bag) (f : String) :
    failuresAt (b.failureList.map fun p => (p.1, [p.2])) f =
      b.entries.flatMap fun e => if e.1 = f then e.2 else [] := by
  unfold failuresAt failureList
  simp only [List.filter_map, List.flatMap_map, Function.comp_def]
  induction b.entries with
  | nil => rfl
  | cons e es ih =>
    by_cases h : e.1 = f <;> simp [h, ih, List.filter_map, Function.comp_def, List.flatMap_map]

theorem eraseDups_replicates {entries : List (String × List Failure)}
    (hnodup : (entries.map (·.1)).Nodup) (hne : ∀ e ∈ entries, e.2 ≠ []) :
    (entries.flatMap fun e => List.replicate e.2.length e.1).eraseDups = entries.map (·.1) := by
  induction entries with
  | nil => rfl
  | cons e es ih =>
    obtain ⟨hnew, hnodup'⟩ := List.nodup_cons.1 hnodup
    simp only [List.mem_map, not_exists, not_and] at hnew
    obtain ⟨n, hn⟩ : ∃ n, e.2.length = n + 1 :=
      ⟨e.2.length - 1, by have := List.length_pos_iff.2 (hne e List.mem_cons_self); omega⟩
    -- the rest holds no copy of this field, so dropping the copies keeps it whole
    have hrest : ((List.replicate n e.1 ++ es.flatMap fun e => List.replicate e.2.length e.1).filter
        fun x => !x == e.1) = es.flatMap fun e => List.replicate e.2.length e.1 := by
      rw [List.filter_append, List.filter_eq_nil_iff.2 (by simp), List.nil_append,
        List.filter_eq_self]
      intro x hx
      obtain ⟨e', he', hx'⟩ := List.mem_flatMap.1 hx
      rw [(List.eq_of_mem_replicate hx')]
      simpa using hnew e' he'
    rw [List.flatMap_cons, hn, List.replicate_succ, List.cons_append, List.eraseDups_cons, hrest,
      ih hnodup' fun e' he' => hne e' (List.mem_cons_of_mem e he'), List.map_cons]

/-- The flat shape of a well-formed bag reads back as the bag: grouping its entries by field
gives each field's failures, rules and messages, in report order. -/
theorem ofFlat?_toFlat {b : Bag} (hb : b.WellFormed) : ofFlat? b.toFlat = some b := by
  rw [ofFlat?, flatEntries?_toFlat, Option.map_some]
  obtain ⟨entries⟩ := b
  congr 2
  have hfields := eraseDups_replicates hb.fields_nodup hb.failures_ne_nil
  simp only [groupByField, failedFields_singles, failuresAt_singles]
  rw [hfields, List.map_map]
  conv_rhs => rw [← List.map_id entries]
  apply List.map_congr_left
  intro e he
  -- the failures gathered under the entry's field are the entry's own
  have hown := Assoc.flatMap_of_key hb.fields_nodup (fun fs : List Failure => fs) he
  simp [hown]

/-- The message of the first failure of a rule among a field's failures. -/
def firstMessage (fs : List Failure) (rule : String) : String :=
  ((fs.find? (·.rule == rule)).map (·.message)).getD ""

theorem firstMessage_append {p : List Failure} {r : String} (hr : r ∈ p.map (·.rule))
    (q : List Failure) : firstMessage (p ++ q) r = firstMessage p r := by
  obtain ⟨x, hx, rfl⟩ := List.mem_map.1 hr
  obtain ⟨y, hy⟩ : ∃ y, p.find? (·.rule == x.rule) = some y :=
    Option.isSome_iff_exists.1 (List.find?_isSome.2 ⟨x, hx, by simp⟩)
  simp [firstMessage, List.find?_append, hy]

theorem firstMessage_snoc {p : List Failure} {x : Failure} (hx : x.rule ∉ p.map (·.rule)) :
    firstMessage (p ++ [x]) x.rule = x.message := by
  have hnone : p.find? (·.rule == x.rule) = none :=
    List.find?_eq_none.2 fun y hy hyx => hx (List.mem_map.2 ⟨y, hy, by simpa using hyx⟩)
  simp [firstMessage, List.find?_append, hnone]

/-- Grouped keeps, for each rule of a field in first-seen order, the message of its first
failure. By induction on the failures from the last one. -/
theorem firstByRule_eq (fs : List Failure) :
    firstByRule fs = (fs.map (·.rule)).eraseDups.map fun r => (r, .str (firstMessage fs r)) := by
  induction fs using List.reverseRecOn with
  | nil => rfl
  | append_singleton p x ih =>
    have hstep : firstByRule (p ++ [x]) =
        if (firstByRule p).any (·.1 == x.rule) then firstByRule p
        else firstByRule p ++ [(x.rule, .str x.message)] := by
      rw [firstByRule, firstByRule, List.foldl_append]
      rfl
    -- the rules seen before keep their first message
    have hkeep : ((p.map (·.rule)).eraseDups.map fun r => (r, Json.str (firstMessage (p ++ [x]) r))) =
        (p.map (·.rule)).eraseDups.map fun r => (r, Json.str (firstMessage p r)) := by
      apply List.map_congr_left
      intro r hr
      rw [firstMessage_append (List.mem_eraseDups.1 hr)]
    rw [hstep, ih, List.map_append, List.map_singleton, List.eraseDups_append]
    by_cases hx : x.rule ∈ p.map (·.rule)
    · have hany : ((p.map (·.rule)).eraseDups.map fun r => (r, Json.str (firstMessage p r))).any
          (·.1 == x.rule) = true := by
        obtain ⟨y, hy, hyx⟩ := List.mem_map.1 hx
        simpa [List.mem_eraseDups] using ⟨y, hy, hyx⟩
      have hrem : [x.rule].removeAll (p.map (·.rule)) = [] := by
        simpa [List.removeAll] using List.mem_map.1 hx
      rw [if_pos hany, hrem, List.eraseDups_nil, List.append_nil, hkeep]
    · have hany : ((p.map (·.rule)).eraseDups.map fun r => (r, Json.str (firstMessage p r))).any
          (·.1 == x.rule) = false := by
        simpa [List.mem_eraseDups] using hx
      have hrem : [x.rule].removeAll (p.map (·.rule)) = [x.rule] := by
        simpa [List.removeAll] using fun y hy h => hx (List.mem_map.2 ⟨y, hy, h⟩)
      rw [if_neg (by simp [hany]), hrem, List.map_append, hkeep]
      simp [List.eraseDups_cons, firstMessage_snoc hx]

theorem lookup_map_of_mem {α : Type} {entries : List (String × List Failure)}
    (hnodup : (entries.map (·.1)).Nodup) (g : List Failure → α) {e : String × List Failure}
    (he : e ∈ entries) : (entries.map fun e => (e.1, g e.2)).lookup e.1 = some (g e.2) := by
  induction entries with
  | nil => cases he
  | cons e' es ih =>
    obtain ⟨hnew, hnodup'⟩ := List.nodup_cons.1 hnodup
    simp only [List.mem_map, not_exists, not_and] at hnew
    rcases List.mem_cons.1 he with h | he
    · subst h
      simp
    · have hne : (e.1 == e'.1) = false := by simpa using fun h => hnew e he h
      rw [List.map_cons, List.lookup_cons, hne]
      exact ih hnodup' he

/-- Laravel carries the fields in report order, each with its failures' messages in order. -/
def LaravelAgrees (b : Bag) : Prop :=
  ∃ members, b.toLaravel = .obj members ∧ members.map (·.1) = b.fields ∧
    ∀ e ∈ b.entries, members.lookup e.1 = some (.arr (e.2.map fun x => .str x.message))

/-- Grouped carries the fields in report order, each mapping its rules, in first-seen order, to
the message of the rule's first failure. -/
def GroupedAgrees (b : Bag) : Prop :=
  ∃ members, b.toGrouped = .obj members ∧ members.map (·.1) = b.fields ∧
    ∀ e ∈ b.entries, members.lookup e.1 =
      some (.obj ((e.2.map (·.rule)).eraseDups.map fun r => (r, .str (firstMessage e.2 r))))

/-- How the laravel, flat and grouped shapes of a bag re-project one another. -/
structure ShapesAgree (b : Bag) : Prop where
  /-- Grouping the flat entries by field gives the bag back: each field in report order with its
  failures, rules and messages, in order. -/
  flat_reads_back : ofFlat? b.toFlat = some b
  flat_fields : (flatEntries? b.toFlat).map (fun es => (es.map (·.1)).eraseDups) = some b.fields
  laravel : b.LaravelAgrees
  grouped : b.GroupedAgrees

theorem laravelAgrees {b : Bag} (h : b.fields.Nodup) : b.LaravelAgrees := by
  refine ⟨_, rfl, by simp [fields], fun e he => ?_⟩
  simpa using lookup_map_of_mem h (fun fs => Json.arr (fs.map fun x => .str x.message)) he

theorem groupedAgrees {b : Bag} (h : b.fields.Nodup) : b.GroupedAgrees := by
  refine ⟨_, rfl, by simp [fields], fun e he => ?_⟩
  have hlookup := lookup_map_of_mem h (fun fs => Json.obj (firstByRule fs)) he
  simpa [firstByRule_eq] using hlookup

theorem WellFormed.shapesAgree {b : Bag} (hb : b.WellFormed) : b.ShapesAgree := by
  refine ⟨ofFlat?_toFlat hb, ?_, laravelAgrees hb.fields_nodup, groupedAgrees hb.fields_nodup⟩
  rw [flatEntries?_toFlat, Option.map_some]
  have h := eraseDups_replicates hb.fields_nodup hb.failures_ne_nil
  simp only [failureList, List.map_flatMap, List.map_map] at h ⊢
  simpa [Function.comp_def, fields] using h

/-- The bag without the fields recorded with no failure. -/
def withFailures (b : Bag) : Bag := ⟨b.entries.filter fun e => !e.2.isEmpty⟩

theorem toFlat_withFailures (b : Bag) : b.withFailures.toFlat = b.toFlat := by
  obtain ⟨entries⟩ := b
  simp only [toFlat, withFailures, Json.arr.injEq]
  induction entries with
  | nil => rfl
  | cons e es ih =>
    obtain ⟨f, fs⟩ := e
    cases fs <;> simp [ih]

theorem wellFormed_withFailures {b : Bag} (h : b.fields.Nodup) : b.withFailures.WellFormed := by
  refine ⟨((List.filter_sublist (l := b.entries)).map Prod.fst).nodup h, fun e he => ?_⟩
  have hkeep := (List.mem_filter.1 he).2
  simpa using hkeep

/-- Grouping the flat entries of a bag with distinct fields gives the bag without the fields
recorded with no failure. -/
theorem ofFlat?_toFlat_of_nodup {b : Bag} (h : b.fields.Nodup) :
    ofFlat? b.toFlat = some b.withFailures := by
  rw [← toFlat_withFailures]
  exact ofFlat?_toFlat (wellFormed_withFailures h)

theorem withFailures_eq_self_iff {b : Bag} : b.withFailures = b ↔ ∀ e ∈ b.entries, e.2 ≠ [] := by
  obtain ⟨entries⟩ := b
  simp [withFailures, List.filter_eq_self]

/-- The laravel and grouped shapes of every bag with distinct fields carry its fields in report
order; its flat shape, read back, gives the bag without the fields recorded with no failure, so
the three shapes re-project one another exactly when every field has a failure. `format` gives
the shape a response type names, and every shape of the empty bag is empty. -/
theorem report_shapes_reproject (b : Bag) (data : Json) (h : b.fields.Nodup) :
    b.LaravelAgrees ∧ b.GroupedAgrees ∧ ofFlat? b.toFlat = some b.withFailures ∧
      (b.ShapesAgree ↔ ∀ e ∈ b.entries, e.2 ≠ []) ∧
      (b.format .laravel data = b.toLaravel ∧ b.format .flat data = b.toFlat ∧
        b.format .grouped data = b.toGrouped ∧ b.format .nested data = b.toNested data) ∧
      ∀ t, Bag.empty.format t data = if t = .flat then .arr [] else .obj [] := by
  refine ⟨laravelAgrees h, groupedAgrees h, ofFlat?_toFlat_of_nodup h, ⟨?_, ?_⟩,
    ⟨rfl, rfl, rfl, rfl⟩, fun t => by cases t <;> rfl⟩
  · -- the flat shape reads back as the bag only when no field was left out of it
    intro hs
    have hback : some b.withFailures = some b :=
      (ofFlat?_toFlat_of_nodup h).symm.trans hs.flat_reads_back
    exact withFailures_eq_self_iff.1 (Option.some.inj hback)
  · intro hne
    exact WellFormed.shapesAgree ⟨h, hne⟩

/-- A field recorded with no failure shows in the laravel and grouped shapes, and keeps the bag
from being empty, but has no flat entry: the shapes of such a bag do not re-project one
another. -/
theorem field_without_failures_leaves_flat :
    let b := Bag.empty.record "a" []
    b.toLaravel = .obj [("a", .arr [])] ∧ b.toGrouped = .obj [("a", .obj [])] ∧
      b.toFlat = .arr [] ∧ b.isEmpty = false ∧ ¬ b.ShapesAgree := by
  intro b
  refine ⟨rfl, rfl, rfl, rfl, fun hs => ?_⟩
  have hempty : ofFlat? b.toFlat = some Bag.empty := rfl
  have hentries := congrArg Bag.entries (Option.some.inj (hempty.symm.trans hs.flat_reads_back))
  cases hentries

end Bag

/-- A bag recorded field by field, as the report tests build it, has shapes that re-project one
another. -/
theorem recorded_report_shapes_agree :
    let b := (Bag.empty.record "email" [⟨"required", "Email is required."⟩]).record "items.1.qty"
      [⟨"min", "Too few."⟩, ⟨"min", "Still too few."⟩]
    b.fields.Nodup ∧ b.ShapesAgree := by
  intro b
  have hb : b.WellFormed :=
    (Bag.wellFormed_empty.record "email" (by simp)).record "items.1.qty" (by simp)
  exact ⟨hb.fields_nodup,
    (Bag.report_shapes_reproject b .null hb.fields_nodup).2.2.2.1.2 hb.failures_ne_nil⟩

theorem Engine.validate_errors_wellFormed {e : Engine} {data : Json} {schema : Schema}
    {r : Outcome} {calls : List String} (h : e.validate data schema = .ok (r, calls)) :
    r.errors.WellFormed := by
  obtain ⟨chains, fss, -, -, -, hentries, -⟩ := e.validate_groups_failures_by_field h
  rw [show r.errors = ⟨r.errors.entries⟩ from rfl, hentries]
  exact Bag.wellFormed_groupByField _

end FieldRules

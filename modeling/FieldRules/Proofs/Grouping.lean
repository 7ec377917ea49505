import Mathlib
import FieldRules.Report

namespace FieldRules

namespace Bag

/-- The fields of the outcomes that have failures, in order, with repeats. -/
def failedFields (outcomes : List (String × List Failure)) : List String :=
  (outcomes.filter (!·.2.isEmpty)).map (·.1)

/-- All the failures the outcomes record for a field, in order. -/
def failuresAt (outcomes : List (String × List Failure)) (field : String) : List Failure :=
  (outcomes.filter (·.1 == field)).flatMap (·.2)

/-- The failures of a list of outcomes grouped by field: each failed field once, in the order
fields first failed, with all the failures recorded for it in order. -/
def groupByField (outcomes : List (String × List Failure)) : List (String × List Failure) :=
  (failedFields outcomes).eraseDups.map fun f => (f, failuresAt outcomes f)

theorem lookup_map_self {κ α : Type} [BEq κ] [LawfulBEq κ] (keys : List κ) (g : κ → α) (k : κ) :
    (keys.map fun f => (f, g f)).lookup k = if k ∈ keys then some (g k) else none := by
  induction keys with
  | nil => simp
  | cons f fs ih =>
    by_cases hk : k = f
    · subst hk; simp
    · simp [List.lookup_cons, ih, hk, beq_eq_false_iff_ne.2 hk]

theorem failedFields_append (outcomes : List (String × List Failure)) (path : String)
    (fs : List Failure) :
    failedFields (outcomes ++ [(path, fs)]) =
      failedFields outcomes ++ if fs.isEmpty then [] else [path] := by
  cases fs <;> simp [failedFields, List.filter_append]

theorem failuresAt_append (outcomes : List (String × List Failure)) (path : String)
    (fs : List Failure) (f : String) :
    failuresAt (outcomes ++ [(path, fs)]) f =
      failuresAt outcomes f ++ if path = f then fs else [] := by
  by_cases h : path = f <;> simp [failuresAt, List.filter_append, h]

theorem failuresAt_eq_nil {outcomes : List (String × List Failure)} {f : String}
    (hf : f ∉ failedFields outcomes) : failuresAt outcomes f = [] := by
  rw [failuresAt, List.flatMap_eq_nil_iff]
  intro o ho
  obtain ⟨hmem, hkey⟩ := List.mem_filter.1 ho
  rcases hlist : o.2 with _ | ⟨x, xs⟩
  · rfl
  · exact absurd (List.mem_map.2 ⟨o, List.mem_filter.2 ⟨hmem, by simp [hlist]⟩,
      by simpa using hkey⟩) hf

theorem groupByField_append_nil (outcomes : List (String × List Failure)) (path : String) :
    groupByField (outcomes ++ [(path, [])]) = groupByField outcomes := by
  simp [groupByField, failedFields_append, failuresAt_append]

/-- Recording the failures of one more outcome keeps the grouping: the field's failures are
appended to its entry, or a new entry is added last. -/
theorem groupByField_append (outcomes : List (String × List Failure)) (path : String)
    {fs : List Failure} (hfs : fs ≠ []) :
    groupByField (outcomes ++ [(path, fs)]) =
      (Bag.record ⟨groupByField outcomes⟩ path fs).entries := by
  have hne : fs.isEmpty = false := by simpa using hfs
  unfold groupByField Bag.record
  simp only [failedFields_append, hne, Bool.false_eq_true, if_false, List.eraseDups_append,
    lookup_map_self, List.mem_eraseDups]
  by_cases hpath : path ∈ failedFields outcomes
  · -- the field failed before: its entry takes the new failures
    have hrem : [path].removeAll (failedFields outcomes) = [] := by
      simp [List.removeAll, hpath]
    have hany : ((failedFields outcomes).eraseDups.map fun f => (f, failuresAt outcomes f)).any
        (·.1 == path) = true := by
      simpa using hpath
    simp only [hpath, if_true, hrem, List.eraseDups_nil, List.append_nil, Assoc.insert, hany,
      List.map_map]
    apply List.map_congr_left
    intro f _
    by_cases hf : f = path
    · subst hf; simp [failuresAt_append]
    · simp [failuresAt_append, hf, Ne.symm hf]
  · -- a new field: its entry goes last
    have hrem : [path].removeAll (failedFields outcomes) = [path] := by
      simp [List.removeAll, hpath]
    simp only [hpath, if_false, hrem, List.map_append]
    congr 1
    · apply List.map_congr_left
      intro f hf
      have hne : path ≠ f := fun h => hpath (h ▸ List.mem_eraseDups.1 hf)
      simp [failuresAt_append, hne]
    · have hdup : [path].eraseDups = [path] := by simp [List.eraseDups_cons]
      simp [hdup, failuresAt_append, failuresAt_eq_nil hpath]

/-- Records the failures of one outcome, when it has any. -/
def recordOutcome (b : Bag) (o : String × List Failure) : Bag :=
  if o.2.isEmpty then b else b.record o.1 o.2

theorem recordOutcome_groupByField (outcomes : List (String × List Failure)) (path : String)
    (fs : List Failure) :
    recordOutcome ⟨groupByField outcomes⟩ (path, fs) = ⟨groupByField (outcomes ++ [(path, fs)])⟩ := by
  unfold recordOutcome
  cases fs with
  | nil => simp [groupByField_append_nil]
  | cons f fs => simp [groupByField_append]

theorem foldl_recordOutcome (outcomes : List (String × List Failure)) :
    outcomes.foldl recordOutcome Bag.empty = ⟨groupByField outcomes⟩ := by
  -- the bag after each outcome is the grouping of the outcomes so far
  have hgen : ∀ pre, outcomes.foldl recordOutcome ⟨groupByField pre⟩ =
      ⟨groupByField (pre ++ outcomes)⟩ := by
    induction outcomes with
    | nil => simp
    | cons o outcomes ih =>
      intro pre
      rw [List.foldl_cons, recordOutcome_groupByField, ih, List.append_assoc,
        List.singleton_append]
  exact hgen []

theorem groupByField_eq_nil_iff (outcomes : List (String × List Failure)) :
    groupByField outcomes = [] ↔ ∀ o ∈ outcomes, o.2 = [] := by
  rw [groupByField, List.map_eq_nil_iff, List.eq_nil_iff_forall_not_mem]
  simp [List.mem_eraseDups, failedFields]

theorem groupByField_zip_eq_nil_iff {fields : List String} {fss : List (List Failure)}
    (hlen : fss.length ≤ fields.length) :
    groupByField (fields.zip fss) = [] ↔ ∀ fs ∈ fss, fs = [] := by
  have hsnd : (fields.zip fss).map Prod.snd = fss := List.map_snd_zip hlen
  rw [groupByField_eq_nil_iff]
  constructor
  · intro hall fs hfs
    rw [← hsnd] at hfs
    obtain ⟨o, ho, rfl⟩ := List.mem_map.1 hfs
    exact hall o ho
  · intro hall o ho
    exact hall o.2 (hsnd ▸ List.mem_map_of_mem ho)

end Bag

end FieldRules

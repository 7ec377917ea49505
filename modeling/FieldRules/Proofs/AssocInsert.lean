import Mathlib.Data.List.Nodup
import FieldRules.Assoc

namespace FieldRules.Assoc

theorem flatMap_of_key {κ α β : Type} [DecidableEq κ] {l : List (κ × α)} (hnd : (l.map (·.1)).Nodup)
    (g : α → List β) {e : κ × α} (he : e ∈ l) :
    (l.flatMap fun e' => if e'.1 = e.1 then g e'.2 else []) = g e.2 := by
  induction l with
  | nil => cases he
  | cons e' es ih =>
    obtain ⟨hnew, hnd'⟩ := List.nodup_cons.1 hnd
    simp only [List.mem_map, not_exists, not_and] at hnew
    rcases List.mem_cons.1 he with rfl | he
    · -- no later entry has this key
      have hnone : (es.flatMap fun e'' => if e''.1 = e.1 then g e''.2 else []) = [] := by
        rw [List.flatMap_eq_nil_iff]
        intro e'' he''
        simp [hnew e'' he'']
      simp [hnone]
    · have hne : e'.1 ≠ e.1 := fun h => hnew e he h.symm
      simp [hne, ih hnd' he]

variable {κ α : Type} [BEq κ]

theorem insert_of_any {l : List (κ × α)} {k : κ} (h : l.any (·.1 == k) = true) (v : α) :
    insert l k v = l.map fun p => if p.1 == k then (p.1, v) else p := by
  simp only [insert, h, if_true]

theorem insert_of_not_any {l : List (κ × α)} {k : κ} (h : l.any (·.1 == k) = false) (v : α) :
    insert l k v = l ++ [(k, v)] := by
  simp [insert, h]

section Lawful

variable [LawfulBEq κ]

theorem mem_of_lookup_eq_some {l : List (κ × α)} {k : κ} {v : α} (h : l.lookup k = some v) :
    (k, v) ∈ l := by
  obtain ⟨l₁, l₂, rfl, -⟩ := List.lookup_eq_some_iff.1 h
  simp

theorem any_key_iff {l : List (κ × α)} {k : κ} : l.any (·.1 == k) = true ↔ k ∈ l.map (·.1) := by
  simp

theorem mem_insert {l : List (κ × α)} {k : κ} {v : α} {p : κ × α} (h : p ∈ insert l k v) :
    p ∈ l ∨ p = (k, v) := by
  unfold insert at h
  split at h
  · obtain ⟨⟨k', w⟩, hq, rfl⟩ := List.mem_map.1 h
    by_cases hk : k' = k
    · subst hk
      simp
    · simp [hk, hq]
  · simpa using h

theorem lookup_map_set (l : List (κ × α)) (k k' : κ) (v : α) :
    (l.map fun p => if p.1 == k then (p.1, v) else p).lookup k' =
      if k' == k then (l.lookup k).map fun _ => v else l.lookup k' := by
  induction l with
  | nil => cases k' == k <;> rfl
  | cons p l ih =>
    obtain ⟨k₁, w₁⟩ := p
    by_cases h' : k' = k₁
    · subst h'
      by_cases h₁ : k' = k
      · subst h₁
        simp
      · have hne : (k' == k) = false := beq_false_of_ne h₁
        simp [hne]
    · have hne : (k' == k₁) = false := beq_false_of_ne h'
      by_cases h₁ : k₁ = k
      · subst h₁
        simp [List.lookup_cons, hne, ih]
      · have hne₁ : (k₁ == k) = false := beq_false_of_ne h₁
        have hne₂ : (k == k₁) = false := beq_false_of_ne (Ne.symm h₁)
        simp [List.lookup_cons, hne, hne₁, hne₂, ih]

theorem lookup_insert (l : List (κ × α)) (k k' : κ) (v : α) :
    (insert l k v).lookup k' = if k' == k then some v else l.lookup k' := by
  by_cases hk : l.any (·.1 == k) = true
  · -- the key is there: its entries take the new value in place
    have hsome : (l.lookup k).isSome := by
      obtain ⟨p, hp, hpk⟩ := List.any_eq_true.1 hk
      rw [beq_iff_eq] at hpk
      exact List.lookup_isSome_iff.2 ⟨p, hp, by rw [beq_iff_eq]; exact hpk.symm⟩
    rw [insert_of_any hk, lookup_map_set]
    cases hlk : l.lookup k with
    | none => simp [hlk] at hsome
    | some w => rfl
  · -- a new key goes last, where only it is found
    have hnone : l.lookup k = none := by
      simp only [List.lookup_eq_none_iff]
      intro p hp
      have hp' : p.1 ≠ k := fun h => hk (List.any_eq_true.2 ⟨p, hp, by simp [h]⟩)
      rw [bne, beq_false_of_ne (Ne.symm hp')]
      rfl
    rw [insert_of_not_any (Bool.eq_false_iff.2 hk), List.lookup_append]
    by_cases h' : k' = k
    · subst h'
      simp [hnone]
    · have hne : (k' == k) = false := beq_false_of_ne h'
      cases l.lookup k' <;> simp [hne, h']

theorem keys_insert (l : List (κ × α)) (k : κ) (v : α) :
    (insert l k v).map (·.1) = l.map (·.1) ++ [k].filter fun k' => k' ∉ l.map (·.1) := by
  by_cases hk : l.any (·.1 == k) = true
  · rw [insert_of_any hk, List.map_map]
    simp only [any_key_iff.1 hk, List.filter_cons, not_true_eq_false, decide_false,
      List.filter_nil, Bool.false_eq_true, if_false, List.append_nil]
    refine List.map_congr_left fun p _ => ?_
    by_cases hp : (p.1 == k) = true <;> simp [hp]
  · have hmem : k ∉ l.map (·.1) := fun h => hk (any_key_iff.2 h)
    simp [insert_of_not_any (Bool.eq_false_iff.2 hk), hmem]

theorem nodup_keys_insert {l : List (κ × α)} (h : (l.map (·.1)).Nodup) (k : κ) (v : α) :
    ((insert l k v).map (·.1)).Nodup := by
  rw [keys_insert]
  by_cases hk : k ∈ l.map (·.1)
  · simpa [hk] using h
  · have hnew : ([k].filter fun k' => k' ∉ l.map (·.1)) = [k] := by simp [hk]
    rw [hnew]
    refine List.nodup_append.2 ⟨h, List.nodup_singleton k, fun a ha b hb => ?_⟩
    rw [List.mem_singleton] at hb
    subst hb
    rintro rfl
    exact hk ha

end Lawful

end FieldRules.Assoc

import Mathlib.Data.List.Nodup
import FieldRules.Regex.Cache
import FieldRules.Proofs.AcceptedParams
import FieldRules.Proofs.NestedReport

namespace FieldRules.Regex.PatternCache

/-- What every reachable cache satisfies. -/
structure Sound (cache : PatternCache) : Prop where
  length_le : cache.entries.length ≤ cacheLimit
  nodup : (cache.entries.map Prod.fst).Nodup
  compiles : ∀ p re, (p, re) ∈ cache.entries → compile p = .ok re

theorem sound_empty : empty.Sound :=
  ⟨by simp [empty, cacheLimit], by simp [empty], by simp [empty]⟩

section Lookup

variable {κ α : Type} [BEq κ] [LawfulBEq κ] {l : List (κ × α)} {k : κ}

theorem fst_ne_of_lookup_eq_none (hnone : l.lookup k = none) {q : κ × α} (hq : q ∈ l) :
    q.1 ≠ k := by
  intro hqk
  simpa [hqk] using List.lookup_eq_none_iff.1 hnone q hq

theorem insert_of_lookup_eq_none (hnone : l.lookup k = none) (v : α) :
    Assoc.insert l k v = l ++ [(k, v)] :=
  Assoc.insert_of_not_any (by simpa using fun a b hab => fst_ne_of_lookup_eq_none hnone (q := (a, b)) hab) v

end Lookup

theorem run_mapM_cons (p : String) (ps : List String) (cache : PatternCache) :
    ((p :: ps).mapM compiled).run cache =
      ((compiled p cache).1 :: ((ps.mapM compiled).run (compiled p cache).2).1,
        ((ps.mapM compiled).run (compiled p cache).2).2) := by
  simp only [List.mapM_cons, StateT.run_bind, StateT.run_pure]
  rfl

theorem Sound.keep {kept : List (String × Matcher)} (h : Sound ⟨kept⟩)
    (hroom : kept.length < cacheLimit) {p : String} {re : Matcher} (hnone : kept.lookup p = none)
    (hre : compile p = .ok re) : Sound ⟨Assoc.insert kept p re⟩ := by
  rw [insert_of_lookup_eq_none hnone re]
  refine ⟨?_, ?_, ?_⟩
  · simp only [List.length_append, List.length_singleton]
    omega
  · rw [List.map_append, List.nodup_append]
    refine ⟨h.nodup, by simp, ?_⟩
    simp only [List.mem_map, List.map_cons, List.map_nil, List.mem_singleton]
    rintro _ ⟨q, hq, rfl⟩ _ rfl
    exact fst_ne_of_lookup_eq_none hnone hq
  · intro q r hq
    rcases List.mem_append.1 hq with hq | hq
    · exact h.compiles q r hq
    · obtain ⟨rfl, rfl⟩ := Prod.mk.inj (List.mem_singleton.1 hq)
      exact hre

/-- One call answers what compiling afresh answers and leaves a sound cache sound: a kept
pattern was kept with its compiled form, and a new one is kept only once it compiles, after
emptying a full cache. -/
theorem compiled_step {cache : PatternCache} (h : cache.Sound) (p : String) :
    (compiled p cache).1 = compile p ∧ (compiled p cache).2.Sound := by
  cases hlook : cache.entries.lookup p with
  | some re =>
    simp only [compiled, hlook]
    exact ⟨(h.compiles p re (Assoc.mem_of_lookup_eq_some hlook)).symm, h⟩
  | none =>
    cases hre : compile p with
    | error e =>
      simp only [compiled, hlook, hre, true_and]
      exact h
    | ok re =>
      simp only [compiled, hlook, hre, true_and]
      split
      · exact sound_empty.keep (by simp [cacheLimit]) rfl hre
      · exact h.keep (by omega) hlook hre

/-- A run of calls from a sound cache answers, call by call, what compiling afresh answers, and
leaves the cache sound; by induction on the calls, each step by `compiled_step`. -/
theorem run_compiled {cache : PatternCache} (h : cache.Sound) (ps : List String) :
    ((ps.mapM compiled).run cache).1 = ps.map compile ∧ ((ps.mapM compiled).run cache).2.Sound := by
  induction ps generalizing cache with
  | nil => exact ⟨rfl, h⟩
  | cons p ps ih =>
    obtain ⟨hp, hs⟩ := compiled_step h p
    obtain ⟨hps, hss⟩ := ih hs
    rw [run_mapM_cons]
    exact ⟨by rw [List.map_cons, hp, hps], hss⟩

/-- The cache never shows. From the cache any history of calls reaches, every further call
answers what compiling its pattern afresh answers, the same matcher or the same fault; and the
reached cache holds at most `cacheLimit` patterns, each once and with its compiled form. -/
theorem compiled_agrees_with_compile (past calls : List String) :
    ((calls.mapM compiled).run ((past.mapM compiled).run empty).2).1 = calls.map compile ∧
      ((past.mapM compiled).run empty).2.Sound := by
  have hreached : ((past.mapM compiled).run empty).2.Sound := (run_compiled sound_empty past).2
  exact ⟨(run_compiled hreached calls).1, hreached⟩

end FieldRules.Regex.PatternCache

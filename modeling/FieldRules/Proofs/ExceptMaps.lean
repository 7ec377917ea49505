import Mathlib.Data.List.Forall2

namespace FieldRules

section Steps

variable {ε α β : Type}

theorem Except.bind_eq_ok {m : Except ε α} {f : α → Except ε β} {b : β} (h : m >>= f = .ok b) :
    ∃ a, m = .ok a ∧ f a = .ok b := by
  cases m with
  | error e => cases h
  | ok a => exact ⟨a, rfl, h⟩

theorem Except.bind_eq_error {m : Except ε α} {f : α → Except ε β} {e : ε}
    (h : m >>= f = .error e) : m = .error e ∨ ∃ a, m = .ok a ∧ f a = .error e := by
  cases m with
  | error e' =>
    cases h
    exact .inl rfl
  | ok a => exact .inr ⟨a, rfl, h⟩

theorem exists_of_map_eq_ok {x : Except ε α} {f : α → β} {b : β} (h : x.map f = .ok b) :
    ∃ a, x = .ok a ∧ f a = b := by
  cases x with
  | error e => cases h
  | ok a => cases h; exact ⟨a, rfl, rfl⟩

theorem Except.eq_ok_of_mapError {ε' : Type} {f : ε → ε'} {x : Except ε α} {a : α}
    (h : x.mapError f = .ok a) : x = .ok a := by
  cases x with
  | error err => cases h
  | ok b => cases h; rfl

theorem eq_ok_of_toOption {x : Except ε α} {a : α} (h : x.toOption = some a) : x = .ok a := by
  cases x <;> simp_all [Except.toOption]

theorem exists_ok_of_toOption_map {x : Except ε α} {g : α → β} {b : β}
    (h : x.toOption.map g = some b) : ∃ a, x = .ok a ∧ g a = b := by
  cases x <;> simp_all [Except.toOption]

end Steps

section Maps

variable {α β ε : Type} {g : α → Except ε β}

theorem mapM_cons_eq_ok {x : α} {xs : List α} {ys : List β} :
    (x :: xs).mapM g = .ok ys ↔ ∃ y ys', g x = .ok y ∧ xs.mapM g = .ok ys' ∧ ys = y :: ys' := by
  rw [List.mapM_cons]
  cases g x <;> cases xs.mapM g <;> simp [bind, Except.bind, pure, Except.pure, eq_comm]

theorem mapM_eq_ok_iff {xs : List α} {ys : List β} :
    xs.mapM g = .ok ys ↔ List.Forall₂ (fun x y => g x = .ok y) xs ys := by
  induction xs generalizing ys with
  | nil => cases ys <;> simp [pure, Except.pure]
  | cons x xs ih =>
    rw [mapM_cons_eq_ok]
    cases ys with
    | nil => simp
    | cons y ys => simp [ih]

/-- A map in `Except` that succeeds keeps what its steps keep: outputs read through `k` are the
inputs read through `k'` when each step that succeeds relates them so. -/
theorem mapM_ok_map {γ : Type} {k : β → γ} {k' : α → γ} (hk : ∀ x y, g x = .ok y → k y = k' x)
    {xs : List α} {ys : List β} (h : xs.mapM g = .ok ys) : ys.map k = xs.map k' := by
  rw [mapM_eq_ok_iff] at h
  induction h with
  | nil => rfl
  | cons hxy _ ih => rw [List.map_cons, List.map_cons, hk _ _ hxy, ih]

theorem mapM_ok_length {xs : List α} {ys : List β} (h : xs.mapM g = .ok ys) :
    ys.length = xs.length :=
  (mapM_eq_ok_iff.1 h).length_eq.symm

theorem mapM_ok_of_forall {xs : List α} (h : ∀ x ∈ xs, ∃ y, g x = .ok y) :
    ∃ ys, xs.mapM g = .ok ys := by
  induction xs with
  | nil => exact ⟨[], rfl⟩
  | cons x xs ih =>
    obtain ⟨y, hy⟩ := h x List.mem_cons_self
    obtain ⟨ys, hys⟩ := ih fun x' hx' => h x' (List.mem_cons_of_mem _ hx')
    exact ⟨y :: ys, mapM_cons_eq_ok.2 ⟨y, ys, hy, hys, rfl⟩⟩

theorem mapM_ok_of_mem {xs : List α} {ys : List β} (h : xs.mapM g = .ok ys) {x : α}
    (hx : x ∈ xs) : ∃ y, g x = .ok y := by
  rw [mapM_eq_ok_iff] at h
  induction h with
  | nil => cases hx
  | cons hxy _ ih =>
    rcases List.mem_cons.1 hx with rfl | hx
    · exact ⟨_, hxy⟩
    · exact ih hx

theorem mapM_ok_mem {xs : List α} {ys : List β} (h : xs.mapM g = .ok ys) {y : β} (hy : y ∈ ys) :
    ∃ x ∈ xs, g x = .ok y := by
  rw [mapM_eq_ok_iff] at h
  induction h with
  | nil => cases hy
  | cons hxy _ ih =>
    rcases List.mem_cons.1 hy with rfl | hy
    · exact ⟨_, List.mem_cons_self, hxy⟩
    · obtain ⟨x, hx, hg⟩ := ih hy
      exact ⟨x, List.mem_cons_of_mem _ hx, hg⟩

theorem mapM_ok_iff_forall {xs : List α} :
    (∃ ys, xs.mapM g = .ok ys) ↔ ∀ x ∈ xs, ∃ y, g x = .ok y :=
  ⟨fun ⟨_, h⟩ _ hx => mapM_ok_of_mem h hx, mapM_ok_of_forall⟩

/-- Two maps in `Except` over one list: where a step of the second succeeds, the same step of the
first succeeds with a related output; so the first map succeeds wherever the second does. -/
theorem mapM_ok_forall₂ {β' : Type} {g' : α → Except ε β'} {R : β' → β → Prop} {xs : List α}
    (h : ∀ x ∈ xs, ∀ y, g x = .ok y → ∃ y', g' x = .ok y' ∧ R y' y) {ys : List β}
    (hys : xs.mapM g = .ok ys) : ∃ ys', xs.mapM g' = .ok ys' ∧ List.Forall₂ R ys' ys := by
  rw [mapM_eq_ok_iff] at hys
  induction hys with
  | nil => exact ⟨[], rfl, .nil⟩
  | @cons x y xs₀ ys₀ hxy _ ih =>
    obtain ⟨y', hy', hR⟩ := h x List.mem_cons_self y hxy
    obtain ⟨ys', hys', hR'⟩ := ih fun x' hx' => h x' (List.mem_cons_of_mem x hx')
    exact ⟨y' :: ys', mapM_cons_eq_ok.2 ⟨y', ys', hy', hys', rfl⟩, .cons hR hR'⟩

theorem mapM_map_ok {γ : Type} {f : γ → α} {xs : List γ} {ys : List β}
    (h : (xs.map f).mapM g = .ok ys) : List.Forall₂ (fun x y => g (f x) = .ok y) xs ys :=
  List.forall₂_map_left_iff.1 (mapM_eq_ok_iff.1 h)

theorem mapM_map_of_inverse {f : β → α} {ys : List β} (h : ∀ y ∈ ys, g (f y) = .ok y) :
    (ys.map f).mapM g = .ok ys :=
  mapM_eq_ok_iff.2 (List.forall₂_map_left_iff.2 (List.forall₂_same.2 h))

theorem mapM_ok_perm {xs' xs : List α} (hp : xs'.Perm xs) {ys : List β}
    (h : xs.mapM g = .ok ys) : ∃ ys', xs'.mapM g = .ok ys' ∧ ys'.Perm ys := by
  induction hp generalizing ys with
  | nil => exact ⟨ys, h, .refl ys⟩
  | cons x _ ih =>
    obtain ⟨y, ys₀, hy, h₀, rfl⟩ := mapM_cons_eq_ok.1 h
    obtain ⟨ys₁, h₁, hp₁⟩ := ih h₀
    exact ⟨y :: ys₁, mapM_cons_eq_ok.2 ⟨y, ys₁, hy, h₁, rfl⟩, hp₁.cons y⟩
  | swap x y l =>
    obtain ⟨a, ys₀, ha, h₀, rfl⟩ := mapM_cons_eq_ok.1 h
    obtain ⟨b, ys₁, hb, h₁, rfl⟩ := mapM_cons_eq_ok.1 h₀
    refine ⟨b :: a :: ys₁, mapM_cons_eq_ok.2 ⟨b, a :: ys₁, hb, ?_, rfl⟩, .swap a b ys₁⟩
    exact mapM_cons_eq_ok.2 ⟨a, ys₁, ha, h₁, rfl⟩
  | trans _ _ ih₁ ih₂ =>
    obtain ⟨ys₂, h₂, hp₂⟩ := ih₂ h
    obtain ⟨ys₁, h₁, hp₁⟩ := ih₁ h₂
    exact ⟨ys₁, h₁, hp₁.trans hp₂⟩

theorem mapM_error_mem {xs : List α} {e : ε} (h : xs.mapM g = .error e) :
    ∃ x ∈ xs, g x = .error e := by
  induction xs with
  | nil => cases h
  | cons x xs ih =>
    rw [List.mapM_cons] at h
    rcases Except.bind_eq_error h with hx | ⟨y, -, h⟩
    · exact ⟨x, List.mem_cons_self, hx⟩
    rcases Except.bind_eq_error h with hxs | ⟨ys, -, h⟩
    · obtain ⟨x', hx', hg⟩ := ih hxs
      exact ⟨x', List.mem_cons_of_mem x hx', hg⟩
    -- the last step only packs the outputs, and cannot fail
    · cases h

theorem mapM_error_of_first {pre post : List α} {x : α} {f : ε}
    (hpre : ∀ q ∈ pre, ∃ y, g q = .ok y) (hx : g x = .error f) :
    (pre ++ x :: post).mapM g = .error f := by
  obtain ⟨ys, hys⟩ := mapM_ok_of_forall hpre
  simp [List.mapM_append, List.mapM_cons, hys, hx, bind, Except.bind]

end Maps

end FieldRules

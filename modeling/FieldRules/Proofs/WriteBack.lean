import FieldRules.Proofs.Run

namespace FieldRules

/-- One step into a value: an object member by key or an array element by position. -/
inductive Step where
  | key (k : String)
  | index (i : Nat)
deriving DecidableEq, Repr

/-- The shape of a value as routes see it: an object's keys in order, an array's length, or a
leaf. -/
inductive Shape where
  | obj (keys : List String)
  | arr (length : Nat)
  | leaf
deriving DecidableEq, Repr

namespace Json

/-- The value a route reaches. -/
def getAt : Json → List Step → Option Json
  | j, [] => some j
  | .obj fs, .key k :: rest => (fs.lookup k).bind (getAt · rest)
  | .arr items, .index i :: rest => items[i]?.bind (getAt · rest)
  | _, _ :: _ => none

/-- The shape of a value. -/
def shape : Json → Shape
  | .obj fs => .obj (fs.map (·.1))
  | .arr items => .arr items.length
  | _ => .leaf

/-- Two values of one shape along every route: each route reaches nothing in both, or values of
the same shape. No key or element is added or removed, and no leaf becomes a container. -/
def SameShape (j j' : Json) : Prop := ∀ σ, (j.getAt σ).map shape = (j'.getAt σ).map shape

@[simp] theorem getAt_nil (j : Json) : j.getAt [] = some j := rfl

theorem getAt_cons (j : Json) (s : Step) (σ : List Step) :
    j.getAt (s :: σ) = (j.getAt [s]).bind (getAt · σ) := by
  cases j <;> cases s <;> simp [getAt]

theorem getAt_append (j : Json) (ρ σ : List Step) :
    j.getAt (ρ ++ σ) = (j.getAt ρ).bind (getAt · σ) := by
  induction ρ generalizing j with
  | nil => rfl
  | cons s ρ ih =>
    rw [List.cons_append, getAt_cons, getAt_cons j s ρ, Option.bind_assoc]
    simp only [ih]

theorem getAt_cons_of_leaf {j : Json} (hj : j.shape = .leaf) (s : Step) (σ : List Step) :
    j.getAt (s :: σ) = none := by
  cases j <;> cases s <;> simp_all [shape, getAt]

theorem eq_of_isPrefix_of_leaf {j x : Json} {ρ ρ' : List Step} (hρ : j.getAt ρ = some x)
    (hx : x.shape = .leaf) (hpre : ρ.IsPrefix ρ') (hρ' : (j.getAt ρ').isSome) : ρ = ρ' := by
  obtain ⟨τ, rfl⟩ := hpre
  cases τ with
  | nil => simp
  | cons s τ =>
    rw [getAt_append, hρ, Option.bind_some, getAt_cons_of_leaf hx] at hρ'
    cases hρ'

namespace SameShape

theorem refl (j : Json) : SameShape j j := fun _ => rfl

theorem trans {j j' j'' : Json} (h : SameShape j j') (h' : SameShape j' j'') :
    SameShape j j'' := fun σ => (h σ).trans (h' σ)

theorem shape_eq {j j' : Json} (h : SameShape j j') : j.shape = j'.shape := by
  simpa using h []

theorem child {j j' m m' : Json} (h : SameShape j j') {s : Step} (hm : j.getAt [s] = some m)
    (hm' : j'.getAt [s] = some m') : SameShape m m' := by
  intro σ
  have hσ := h (s :: σ)
  rwa [getAt_cons, getAt_cons j', hm, hm', Option.bind_some, Option.bind_some] at hσ

end SameShape

/-- A value with the child under one step replaced: routes through that step lead into the new
child, every other route is unchanged, and the shape is kept. -/
structure ChildUpdate (j j' : Json) (st : Step) (m' : Json) : Prop where
  shape_eq : j'.shape = j.shape
  getAt_self : ∀ σ, j'.getAt (st :: σ) = m'.getAt σ
  getAt_other : ∀ s σ, s ≠ st → j'.getAt (s :: σ) = j.getAt (s :: σ)

namespace ChildUpdate

variable {j j' m m' : Json} {st : Step}

theorem frame (hu : ChildUpdate j j' st m') (hm : j.getAt [st] = some m) {ρ : List Step}
    (hframe : ∀ σ, ¬ σ.IsPrefix ρ → m'.getAt σ = m.getAt σ) :
    ∀ σ, ¬ σ.IsPrefix (st :: ρ) → j'.getAt σ = j.getAt σ
  | [], hσ => absurd List.nil_prefix hσ
  | s :: σ, hσ => by
    by_cases hs : s = st
    · subst hs
      rw [hu.getAt_self, getAt_cons, hm, Option.bind_some]
      exact hframe σ fun hp => hσ ((List.prefix_cons_inj s).2 hp)
    · exact hu.getAt_other s σ hs

theorem sameShape (hu : ChildUpdate j j' st m') (hm : j.getAt [st] = some m)
    (hs : SameShape m m') : SameShape j j'
  | [] => by simp [hu.shape_eq]
  | s :: σ => by
    by_cases h : s = st
    · subst h
      rw [hu.getAt_self, getAt_cons, hm, Option.bind_some]
      exact hs σ
    · rw [hu.getAt_other s σ h]

end ChildUpdate

theorem lookup_replace (fs : List (String × Json)) (k k'' : String) (m' : Json) :
    (fs.map fun (k', x) => if k' == k then (k', m') else (k', x)).lookup k'' =
      if k'' = k then (fs.lookup k).map fun _ => m' else fs.lookup k'' := by
  induction fs with
  | nil => by_cases h : k'' = k <;> simp [h]
  | cons f fs ih =>
    obtain ⟨k', x⟩ := f
    by_cases h : k'' = k <;> by_cases h' : k' = k <;> simp_all [List.lookup_cons] <;>
      split <;> simp_all

theorem childUpdate_obj {fs : List (String × Json)} {k : String} {m : Json}
    (hm : fs.lookup k = some m) (m' : Json) :
    ChildUpdate (.obj fs) (.obj (fs.map fun (k', x) => if k' == k then (k', m') else (k', x)))
      (.key k) m' where
  shape_eq := by
    show Shape.obj _ = Shape.obj _
    rw [List.map_map]
    congr 1
    apply List.map_congr_left
    rintro ⟨k', x⟩ -
    by_cases h : k' = k <;> simp [h]
  getAt_self σ := by
    show ((fs.map _).lookup k).bind (getAt · σ) = _
    rw [lookup_replace, if_pos rfl, hm]
    rfl
  getAt_other s σ hs := by
    cases s with
    | key k'' =>
      have hk : k'' ≠ k := fun h => hs (h ▸ rfl)
      show ((fs.map _).lookup k'').bind (getAt · σ) = _
      rw [lookup_replace, if_neg hk]
      rfl
    | index i => rfl

theorem childUpdate_arr {items : List Json} {i : Nat} {m : Json} (hm : items[i]? = some m)
    (m' : Json) : ChildUpdate (.arr items) (.arr (items.set i m')) (.index i) m' where
  shape_eq := by simp [shape]
  getAt_self σ := by
    have hi : i < items.length := (List.getElem?_eq_some_iff.1 hm).1
    simp [getAt, hi]
  getAt_other s σ hs := by
    cases s with
    | key k => rfl
    | index i' =>
      have hi : i ≠ i' := fun h => hs (h ▸ rfl)
      simp [getAt, hi]

end Json

namespace Path

/-- The step a segment takes in a value, as writes read it: the key itself in an object, a
position in canonical decimal in an array, nothing in a leaf. -/
def stepOf (j : Json) (seg : String) : Option Step :=
  match j with
  | .obj _ => some (.key seg)
  | .arr _ => (parseCanonicalIndex seg).map .index
  | _ => none

/-- The route a list of segments denotes in a value, as writes read it. -/
def locateSegments : Json → List String → Option (List Step)
  | _, [] => some []
  | j, seg :: rest =>
    (stepOf j seg).bind fun st =>
      (j.getAt [st]).bind fun m => (locateSegments m rest).map (st :: ·)

/-- The route a concrete path denotes in a value, as writes read it. -/
def locate (data : Json) (path : String) : Option (List Step) :=
  locateSegments data (segments path)

theorem stepOf_eq_of_shape_eq {j j' : Json} (h : j.shape = j'.shape) (seg : String) :
    stepOf j seg = stepOf j' seg := by
  cases j <;> cases j' <;> simp_all [Json.shape, stepOf]

theorem locateSegments_of_sameShape {j j' : Json} (h : Json.SameShape j j')
    (segs : List String) : locateSegments j segs = locateSegments j' segs := by
  induction segs generalizing j j' with
  | nil => rfl
  | cons seg rest ih =>
    simp only [locateSegments, stepOf_eq_of_shape_eq h.shape_eq seg]
    cases stepOf j' seg with
    | none => rfl
    | some st =>
      have hst := h [st]
      simp only [Option.bind_some]
      cases hm : j.getAt [st] <;> cases hm' : j'.getAt [st] <;> simp only [hm, hm'] at hst
      · rfl
      · cases hst
      · cases hst
      · simp only [Option.bind_some, ih (h.child hm hm')]

theorem locateSegments_cons_eq_some {j : Json} {seg : String} {rest : List String}
    {ρ : List Step} (h : locateSegments j (seg :: rest) = some ρ) :
    ∃ st m ρ', stepOf j seg = some st ∧ j.getAt [st] = some m ∧
      locateSegments m rest = some ρ' ∧ ρ = st :: ρ' := by
  simp only [locateSegments, Option.bind_eq_some_iff, Option.map_eq_some_iff] at h
  obtain ⟨st, hst, m, hm, ρ', hρ', rfl⟩ := h
  exact ⟨st, m, ρ', hst, hm, hρ', rfl⟩

theorem assignSegments_cons_of_step {j m m' w : Json} {seg : String} {rest : List String}
    {st : Step} (hst : stepOf j seg = some st) (hm : j.getAt [st] = some m)
    (hassign : assignSegments rest m w = some m') :
    ∃ j', assignSegments (seg :: rest) j w = some j' ∧ Json.ChildUpdate j j' st m' := by
  cases j with
  | obj fs =>
    cases hst
    have hfs : fs.lookup seg = some m := by simpa [Json.getAt] using hm
    refine ⟨_, ?_, Json.childUpdate_obj hfs m'⟩
    simp only [assignSegments, hfs, hassign, Option.map_some]
  | arr items =>
    obtain ⟨i, hi, rfl⟩ := Option.map_eq_some_iff.1 hst
    have hitems : items[i]? = some m := by simpa [Json.getAt] using hm
    refine ⟨_, ?_, Json.childUpdate_arr hitems m'⟩
    simp only [assignSegments, hi, hitems, hassign, Option.map_some]
  | null => cases hst
  | bool => cases hst
  | num => cases hst
  | str => cases hst

/-- Writing a leaf over a leaf through segments that locate it: the write succeeds, the route
then reaches the new value, every route off the way to it is unchanged, and the shape is
kept. -/
theorem assignSegments_of_locate {segs : List String} {j x w : Json} {ρ : List Step}
    (hloc : locateSegments j segs = some ρ) (hx : j.getAt ρ = some x) (hxl : x.shape = .leaf)
    (hw : w.shape = .leaf) :
    ∃ j', assignSegments segs j w = some j' ∧ j'.getAt ρ = some w ∧
      (∀ σ, ¬ σ.IsPrefix ρ → j'.getAt σ = j.getAt σ) ∧ Json.SameShape j j' := by
  induction segs generalizing j ρ with
  | nil =>
    cases hloc
    cases hx
    refine ⟨w, rfl, rfl, ?_, ?_⟩
    · rintro (_ | ⟨s, σ⟩) hσ
      · exact absurd List.nil_prefix hσ
      · rw [Json.getAt_cons_of_leaf hw, Json.getAt_cons_of_leaf hxl]
    · rintro (_ | ⟨s, σ⟩)
      · simp [hxl, hw]
      · rw [Json.getAt_cons_of_leaf hw, Json.getAt_cons_of_leaf hxl]
  | cons seg rest ih =>
    obtain ⟨st, m, ρ', hst, hm, hρ', rfl⟩ := locateSegments_cons_eq_some hloc
    have hxm : m.getAt ρ' = some x := by
      rwa [Json.getAt_cons, hm, Option.bind_some] at hx
    -- the write into the child, then the child replaced in the parent
    obtain ⟨m', hassign, hw', hframe, hshape⟩ := ih hρ' hxm
    obtain ⟨j', hj', hu⟩ := assignSegments_cons_of_step hst hm hassign
    exact ⟨j', hj', by rw [hu.getAt_self]; exact hw', hu.frame hm hframe, hu.sameShape hm hshape⟩

end Path

namespace Text

theorem trim_sublist (s : String) : (trim s).toList.Sublist s.toList := by
  simp only [trim, trimEnd, trimStart, String.toList_ofList]
  have h := (List.dropWhile_sublist isBlank :
    ((s.toList.dropWhile isBlank).reverse.dropWhile isBlank).Sublist _).reverse
  rw [List.reverse_reverse] at h
  exact h.trans (List.dropWhile_sublist isBlank)

theorem trim_eq_of_length_eq {s : String} (h : (trim s).length = s.length) : trim s = s :=
  String.toList_injective ((trim_sublist s).eq_of_length (by simpa [String.length_toList] using h))

end Text

namespace Context

theorem coerce_text (cfg : Config) (s : String) :
    ∃ w, coerce cfg (some (.str s)) = some w ∧ w.shape = .leaf := by
  simp only [coerce]
  generalize (if cfg.autoTrim then Text.trim s else s) = t
  by_cases hn : (cfg.emptyToNull && t.isEmpty) = true
  · exact ⟨.null, by rw [if_pos hn], rfl⟩
  · exact ⟨.str t, by rw [if_neg hn], rfl⟩

theorem coerce_of_unchanged {cfg : Config} {s : String}
    (h : coercionChanges (some (.str s)) (coerce cfg (some (.str s))) = false) :
    coerce cfg (some (.str s)) = some (.str s) := by
  simp only [coerce] at h ⊢
  generalize htdef : (if cfg.autoTrim then Text.trim s else s) = t at h ⊢
  by_cases hn : (cfg.emptyToNull && t.isEmpty) = true
  · rw [if_pos hn] at h
    cases h
  · rw [if_neg hn] at h ⊢
    have hlen : s.length = t.length := by simpa [coercionChanges] using h
    -- only trimming could have changed the text, and it removed nothing
    have hts : t = s := by
      cases hauto : cfg.autoTrim
      · simpa [hauto] using htdef.symm
      · rw [hauto, if_pos rfl] at htdef
        rw [← htdef]
        exact Text.trim_eq_of_length_eq (htdef ▸ hlen.symm)
    rw [hts]

theorem coerce_of_not_text {cfg : Config} {v : Option Json} (hv : ∀ s, v ≠ some (.str s)) :
    coerce cfg v = v ∧ coercionChanges v v = false := by
  cases v with
  | none => exact ⟨rfl, rfl⟩
  | some w =>
    cases w with
    | str s => exact absurd rfl (hv s)
    | _ => exact ⟨rfl, rfl⟩

end Context

namespace Schema

/-- The concrete fields the schema's patterns reach in the data, each with its value: patterns
in declaration order, each in data order. -/
def fieldsIn (schema : Schema) (data : Json) : List (String × Option Json) :=
  schema.keys.flatMap (Path.resolve data)

end Schema

/-- Whether the write-back of a field lands where its text was read: a field holding a text
finds the same text at the location its path denotes for writing. A field holding anything else
is never written. -/
def writesWhereRead (data : Json) : String × Option Json → Bool
  | (path, some (.str s)) =>
    match (Path.locate data path).bind data.getAt with
    | some (.str t) => t == s
    | _ => false
  | _ => true

theorem writesWhereRead_text {data : Json} {path s : String}
    (h : writesWhereRead data (path, some (.str s)) = true) :
    ∃ ρ, Path.locate data path = some ρ ∧ data.getAt ρ = some (.str s) := by
  simp only [writesWhereRead] at h
  cases hl : Path.locate data path with
  | none => simp [hl] at h
  | some ρ =>
    refine ⟨ρ, rfl, ?_⟩
    simp only [hl, Option.bind_some] at h
    split at h
    · rename_i t ht
      rw [ht, beq_iff_eq.1 h]
    · cases h

/-- A location the write-back may change for some fields: one that a text field's path
denotes. -/
def TextLocation (data : Json) (fields : List (String × Option Json)) (ρ : List Step) : Prop :=
  ∃ path s, (path, some (.str s)) ∈ fields ∧ Path.locate data path = some ρ

theorem textLocation_append {data : Json} {l₁ l₂ : List (String × Option Json)}
    {ρ : List Step} :
    TextLocation data (l₁ ++ l₂) ρ ↔ TextLocation data l₁ ρ ∨ TextLocation data l₂ ρ := by
  simp only [TextLocation, List.mem_append, or_and_right, exists_or]

theorem textLocation_snoc_text {data : Json} {done : List (String × Option Json)}
    {path s : String} {ρ ρ' : List Step} (hloc : Path.locate data path = some ρ)
    (h : TextLocation data (done ++ [(path, some (.str s))]) ρ') :
    TextLocation data done ρ' ∨ ρ' = ρ := by
  rcases textLocation_append.1 h with h | ⟨path', s', hmem, hloc'⟩
  · exact Or.inl h
  · cases List.mem_singleton.1 hmem
    rw [hloc] at hloc'
    exact Or.inr (Option.some.inj hloc').symm

theorem textLocation_getAt {data : Json} {fields : List (String × Option Json)}
    (hread : ∀ f ∈ fields, writesWhereRead data f = true) {ρ : List Step}
    (h : TextLocation data fields ρ) : ∃ s, data.getAt ρ = some (.str s) := by
  obtain ⟨path, s, hmem, hloc⟩ := h
  obtain ⟨ρ', hloc', hs⟩ := writesWhereRead_text (hread _ hmem)
  rw [hloc] at hloc'
  cases hloc'
  exact ⟨s, hs⟩

theorem textLocation_eq_of_isPrefix {data : Json} {fields : List (String × Option Json)}
    (hread : ∀ f ∈ fields, writesWhereRead data f = true) {ρ ρ' : List Step} {s : String}
    (hdata : data.getAt ρ = some (.str s)) (h : TextLocation data fields ρ')
    (hp : ρ'.IsPrefix ρ ∨ ρ.IsPrefix ρ') : ρ' = ρ := by
  obtain ⟨s', hs'⟩ := textLocation_getAt hread h
  rcases hp with hp | hp
  · exact Json.eq_of_isPrefix_of_leaf hs' rfl hp (by simp [hdata])
  · exact (Json.eq_of_isPrefix_of_leaf hdata rfl hp (by simp [hs'])).symm

/-- What the write-back has made of the data after some fields: the shape is kept, each text
location holds the coercion of the data's value there, and every route off the way to the text
locations is unchanged. -/
structure WrittenBack (cfg : Config) (data out : Json) (done : List (String × Option Json)) :
    Prop where
  sameShape : Json.SameShape data out
  coerced : ∀ ρ, TextLocation data done ρ → out.getAt ρ = Context.coerce cfg (data.getAt ρ)
  frame : ∀ σ, (∀ ρ, TextLocation data done ρ → ¬ σ.IsPrefix ρ) → out.getAt σ = data.getAt σ

namespace WrittenBack

variable {cfg : Config} {data out : Json} {done : List (String × Option Json)}

theorem start (cfg : Config) (data : Json) : WrittenBack cfg data data [] where
  sameShape := Json.SameShape.refl data
  coerced _ h := by simp [TextLocation] at h
  frame _ _ := rfl

theorem of_not_text (hinv : WrittenBack cfg data out done) (path : String) {v : Option Json} (hv : ∀ s, v ≠ some (.str s)) :
    WrittenBack cfg data out (done ++ [(path, v)]) := by
  have hlocs : ∀ ρ, TextLocation data (done ++ [(path, v)]) ρ → TextLocation data done ρ := by
    intro ρ h
    rcases textLocation_append.1 h with h | ⟨path', s, hmem, -⟩
    · exact h
    · cases List.mem_singleton.1 hmem
      exact absurd rfl (hv s)
  exact ⟨hinv.sameShape, fun ρ h => hinv.coerced ρ (hlocs ρ h),
    fun σ h => hinv.frame σ fun ρ hρ => h ρ (textLocation_append.2 (Or.inl hρ))⟩

theorem getAt_text (hinv : WrittenBack cfg data out done)
    (hdone : ∀ f ∈ done, writesWhereRead data f = true) {ρ : List Step} {s : String}
    (hdata : data.getAt ρ = some (.str s)) :
    out.getAt ρ = data.getAt ρ ∨ out.getAt ρ = Context.coerce cfg (data.getAt ρ) := by
  by_cases h : TextLocation data done ρ
  · exact Or.inr (hinv.coerced ρ h)
  · refine Or.inl (hinv.frame ρ fun ρ' h' hp => h ?_)
    exact textLocation_eq_of_isPrefix hdone hdata h' (Or.inr hp) ▸ h'

/-- A text field is written back once the location its path denotes holds the coerced text,
the shape is kept, and only the way to that location has changed. -/
theorem snoc (hinv : WrittenBack cfg data out done)
    (hdone : ∀ f ∈ done, writesWhereRead data f = true) {path s : String} {ρ : List Step}
    (hloc : Path.locate data path = some ρ) (hdata : data.getAt ρ = some (.str s)) {out' : Json}
    (hshape : Json.SameShape out out') (hself : out'.getAt ρ = Context.coerce cfg (data.getAt ρ))
    (hframe : ∀ σ, ¬ σ.IsPrefix ρ → out'.getAt σ = out.getAt σ) :
    WrittenBack cfg data out' (done ++ [(path, some (.str s))]) := by
  refine ⟨hinv.sameShape.trans hshape, fun ρ' h => ?_, fun σ h => ?_⟩
  · by_cases hp : ρ'.IsPrefix ρ
    · -- a text location on the way to `ρ` is `ρ` itself
      have hρ' : ρ' = ρ := (textLocation_snoc_text hloc h).elim
        (fun h' => textLocation_eq_of_isPrefix hdone hdata h' (Or.inl hp)) id
      rw [hρ', hself]
    · have hne : ρ' ≠ ρ := fun h' => hp (h' ▸ List.prefix_refl ρ')
      rw [hframe ρ' hp]
      exact hinv.coerced ρ' ((textLocation_snoc_text hloc h).resolve_right hne)
  · have hρ : TextLocation data (done ++ [(path, some (.str s))]) ρ :=
      textLocation_append.2 (Or.inr ⟨path, s, List.mem_singleton_self _, hloc⟩)
    rw [hframe σ (h ρ hρ)]
    exact hinv.frame σ fun ρ' h' => h ρ' (textLocation_append.2 (Or.inl h'))

end WrittenBack

namespace Engine

variable (e : Engine)

theorem writeBack_of_not_text (out : Json) (path : String) {v : Option Json}
    (hv : ∀ s, v ≠ some (.str s)) : e.writeBack out (path, v) = out := by
  obtain ⟨hc, hch⟩ := @Context.coerce_of_not_text e.config v hv
  simp only [writeBack, hc, hch]
  cases v <;> rfl

/-- Writing back one text field, read at the location its path denotes, keeps the invariant:
the location takes the coerced text, and only the way to it changes. -/
theorem writtenBack_text {data out : Json} {done : List (String × Option Json)}
    (hinv : WrittenBack e.config data out done)
    (hdone : ∀ f ∈ done, writesWhereRead data f = true) {path s : String} {ρ : List Step}
    (hloc : Path.locate data path = some ρ) (hdata : data.getAt ρ = some (.str s)) :
    WrittenBack e.config data (e.writeBack out (path, some (.str s)))
      (done ++ [(path, some (.str s))]) := by
  obtain ⟨w, hw, hwl⟩ := Context.coerce_text e.config s
  have hcur := hinv.getAt_text hdone hdata
  rw [hdata, hw] at hcur
  by_cases hch : coercionChanges (some (.str s)) (some w) = true
  · -- the write lands at `ρ`, a leaf so far, and puts the coerced text there
    obtain ⟨y, hy, hyl⟩ : ∃ y, out.getAt ρ = some y ∧ y.shape = .leaf :=
      hcur.elim (fun h => ⟨_, h, rfl⟩) fun h => ⟨w, h, hwl⟩
    have hloc' : Path.locate out path = some ρ := by
      rw [Path.locate, ← Path.locateSegments_of_sameShape hinv.sameShape]
      exact hloc
    obtain ⟨out', hassign, hw', hframe, hshape⟩ := Path.assignSegments_of_locate hloc' hy hyl hwl
    have hwrite : e.writeBack out (path, some (.str s)) = out' := by
      simp only [writeBack, hw, hch, if_true]
      rw [Path.assign, hassign]
      rfl
    rw [hwrite]
    exact hinv.snoc hdone hloc hdata hshape (by rw [hw', hdata, hw]) hframe
  · -- nothing is written: the text is its own coercion
    have hself : Context.coerce e.config (some (.str s)) = some (.str s) :=
      Context.coerce_of_unchanged (by simpa [hw] using hch)
    have hwrite : e.writeBack out (path, some (.str s)) = out := by
      simp only [writeBack, hw]
      simp [hch]
    rw [hwrite]
    refine hinv.snoc hdone hloc hdata (Json.SameShape.refl out) ?_ fun _ _ => rfl
    rw [hdata, hself]
    rcases hcur with h | h
    · exact h
    · rw [h, ← hw, hself]

theorem writtenBack_foldl {data : Json} (fields : List (String × Option Json)) :
    ∀ {out : Json} {done : List (String × Option Json)},
      WrittenBack e.config data out done → (∀ f ∈ done, writesWhereRead data f = true) →
      (∀ f ∈ fields, writesWhereRead data f = true) →
      WrittenBack e.config data (fields.foldl e.writeBack out) (done ++ fields) := by
  induction fields with
  | nil =>
    intro out done hinv _ _
    simpa using hinv
  | cons f fields ih =>
    intro out done hinv hdone hfields
    have hf := hfields f (List.mem_cons_self ..)
    have hstep : WrittenBack e.config data (e.writeBack out f) (done ++ [f]) := by
      obtain ⟨path, v⟩ := f
      by_cases htext : ∃ s, v = some (.str s)
      · obtain ⟨s, rfl⟩ := htext
        obtain ⟨ρ, hloc, hdata⟩ := writesWhereRead_text hf
        exact e.writtenBack_text hinv hdone hloc hdata
      · have hv : ∀ s, v ≠ some (.str s) := fun s h => htext ⟨s, h⟩
        rw [e.writeBack_of_not_text out path hv]
        exact hinv.of_not_text path hv
    have hdone' : ∀ g ∈ done ++ [f], writesWhereRead data g = true := fun g hg =>
      (List.mem_append.1 hg).elim (hdone g) fun h => List.mem_singleton.1 h ▸ hf
    have hsplit : done ++ f :: fields = (done ++ [f]) ++ fields := by simp
    rw [List.foldl_cons, hsplit]
    exact ih hstep hdone' fun g hg => hfields g (List.mem_cons_of_mem _ hg)

/-- The data a successful validation returns is its input with the texts the schema reaches
coerced in place, when each of them lies where its path writes: every route reaches a value of
the input's shape, the location each text field's path denotes holds the coerced text, and every
route off the way to those locations reaches what it reached in the input. -/
theorem validate_writes_back_coerced_texts {data : Json} {schema : Schema} {r : Outcome}
    {calls : List String} (h : e.validate data schema = .ok (r, calls))
    (hread : ∀ f ∈ schema.fieldsIn data, writesWhereRead data f = true) :
    Json.SameShape data r.data ∧
      (∀ path s ρ, (path, some (.str s)) ∈ schema.fieldsIn data →
        Path.locate data path = some ρ →
        r.data.getAt ρ = Context.coerce e.config (some (.str s))) ∧
      (∀ σ, (∀ path s ρ, (path, some (.str s)) ∈ schema.fieldsIn data →
          Path.locate data path = some ρ → ¬ σ.IsPrefix ρ) →
        r.data.getAt σ = data.getAt σ) := by
  obtain ⟨chains, fss, hc, -, rfl⟩ := e.validate_ok_outcome h
  have hfields : (chains.map (·.1)).flatMap (Path.resolve data) = schema.fieldsIn data := by
    rw [Registry.mapM_compileEntry_patterns hc]
    rfl
  have hinv := e.writtenBack_foldl (schema.fieldsIn data) (WrittenBack.start e.config data)
    (by simp) hread
  rw [List.nil_append] at hinv
  dsimp only
  rw [hfields]
  refine ⟨hinv.sameShape, fun path s ρ hmem hloc => ?_, fun σ hσ => hinv.frame σ ?_⟩
  · obtain ⟨ρ', hloc', hdata⟩ := writesWhereRead_text (hread _ hmem)
    rw [hloc] at hloc'
    cases hloc'
    rw [hinv.coerced ρ ⟨path, s, hmem, hloc⟩, hdata]
  · rintro ρ ⟨path, s, hmem, hloc⟩
    exact hσ path s ρ hmem hloc

end Engine

/-- With texts trimmed and empty texts read as `null`, a plain field and the elements of an array
reached by a wildcard are all written where they were read, and the output keeps the input's
shape. -/
theorem trimmed_fields_keep_their_shape :
    ∃ r calls,
      (⟨Registry.builtins, ⟨false, true, true, "en", Catalog.empty, .laravel⟩,
          ⟨Catalog.empty, none⟩, default⟩ : Engine).validate
        (.obj [("name", .str "  Ada "), ("tags", .arr [.str " x ", .str "   "])])
        ⟨[("name", .text "string"), ("tags.*", .text "string")]⟩ =
        .ok (r, calls) ∧
      (∀ f ∈ Schema.fieldsIn ⟨[("name", .text "string"),
          ("tags.*", .text "string")]⟩
          (.obj [("name", .str "  Ada "), ("tags", .arr [.str " x ", .str "   "])]),
        writesWhereRead (.obj [("name", .str "  Ada "), ("tags", .arr [.str " x ", .str "   "])])
          f = true) ∧
      Json.SameShape (.obj [("name", .str "  Ada "), ("tags", .arr [.str " x ", .str "   "])])
        r.data := by
  have hread : ∀ f ∈ Schema.fieldsIn ⟨[("name", .text "string"),
      ("tags.*", .text "string")]⟩
      (.obj [("name", .str "  Ada "), ("tags", .arr [.str " x ", .str "   "])]),
      writesWhereRead (.obj [("name", .str "  Ada "), ("tags", .arr [.str " x ", .str "   "])])
        f = true :=
    List.all_eq_true.1 (by decide +kernel)
  have hok : ((⟨Registry.builtins, ⟨false, true, true, "en", Catalog.empty, .laravel⟩,
      ⟨Catalog.empty, none⟩, default⟩ : Engine).validate
      (.obj [("name", .str "  Ada "), ("tags", .arr [.str " x ", .str "   "])])
      ⟨[("name", .text "string"), ("tags.*", .text "string")]⟩).toBool =
      true := by
    decide +kernel
  cases hv : (⟨Registry.builtins, ⟨false, true, true, "en", Catalog.empty, .laravel⟩,
      ⟨Catalog.empty, none⟩, default⟩ : Engine).validate
      (.obj [("name", .str "  Ada "), ("tags", .arr [.str " x ", .str "   "])])
      ⟨[("name", .text "string"), ("tags.*", .text "string")]⟩ with
  | error f =>
    rw [hv] at hok
    cases hok
  | ok a =>
    obtain ⟨r, calls⟩ := a
    exact ⟨r, calls, rfl, hread, (Engine.validate_writes_back_coerced_texts _ hv hread).1⟩

/-- A text under the empty key of the root is read at the path `""`, which denotes the root
itself: the write-back replaces the whole data by the trimmed text, and the member is gone. -/
theorem empty_root_key_text_replaces_data :
    ∃ r calls,
      Validator.new.validate default (.obj [("", .str " x ")]) ⟨[("*", .text "string")]⟩ =
        .ok (r, calls) ∧ r.data = .str "x" := by
  have hdata : (Validator.new.validate default (.obj [("", .str " x ")])
      ⟨[("*", .text "string")]⟩).toOption.map (fun a => a.1.data.same (.str "x")) =
        some true := by
    decide +kernel
  cases hv : Validator.new.validate default (.obj [("", .str " x ")])
      ⟨[("*", .text "string")]⟩ with
  | error f =>
    rw [hv] at hdata
    cases hdata
  | ok a =>
    obtain ⟨r, calls⟩ := a
    rw [hv] at hdata
    refine ⟨r, calls, rfl, ?_⟩
    cases hr : r.data <;>
      simp [Except.toOption, hr, Json.same] at hdata
    rw [hdata]

end FieldRules

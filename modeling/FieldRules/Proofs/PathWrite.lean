import FieldRules.Proofs.WriteOrder

namespace FieldRules

namespace Path

/-- Replaces every `~` followed by `code` with `c`, left to right: a JSON pointer's reference
tokens are read with `~1` as `/`, and then `~0` as `~`. -/
def unescapeTilde (code c : Char) : List Char → List Char
  | '~' :: d :: cs =>
    if d = code then c :: unescapeTilde code c cs else '~' :: unescapeTilde code c (d :: cs)
  | d :: cs => d :: unescapeTilde code c cs
  | [] => []

/-- The reference tokens a JSON pointer names (RFC 6901): none for the empty pointer, else the
pieces after each `/`, each read with `~1` as `/` and then `~0` as `~`. A pointer that does not
start with `/` names nothing. -/
def pointerTokens (ptr : String) : Option (List String) :=
  match ptr.toList with
  | [] => some []
  | '/' :: rest =>
    some ((splitChar '/' rest).map fun t => String.ofList (unescapeTilde '0' '~' (unescapeTilde '1' '/' t)))
  | _ :: _ => none

/-- The characters of an escaped segment. -/
def escapeChar (c : Char) : List Char :=
  if c = '~' then ['~', '0'] else if c = '/' then ['~', '1'] else [c]

theorem escapeSegment_toList (seg : String) :
    (escapeSegment seg).toList = seg.toList.flatMap escapeChar := by
  simp only [escapeSegment, String.toList_ofList]
  congr 1
  funext c
  simp [escapeChar]

theorem unescapeTilde_cons {code c d : Char} (hd : d ≠ '~') (cs : List Char) :
    unescapeTilde code c (d :: cs) = d :: unescapeTilde code c cs := by
  conv_lhs => unfold unescapeTilde
  split <;> simp_all

theorem unescapeTilde_one (s : List Char) :
    unescapeTilde '1' '/' (s.flatMap escapeChar) =
      s.flatMap fun c => if c = '~' then ['~', '0'] else [c] := by
  induction s with
  | nil => rfl
  | cons c s ih =>
    by_cases ht : c = '~'
    · subst ht
      simp [escapeChar, unescapeTilde, unescapeTilde_cons, ih]
    · by_cases hs : c = '/'
      · subst hs
        simp [escapeChar, unescapeTilde, ih]
      · simp [escapeChar, ht, hs, unescapeTilde_cons ht, ih]

theorem unescapeTilde_zero (s : List Char) :
    unescapeTilde '0' '~' (s.flatMap fun c => if c = '~' then ['~', '0'] else [c]) = s := by
  induction s with
  | nil => rfl
  | cons c s ih =>
    by_cases ht : c = '~'
    · subst ht
      simp [unescapeTilde, ih]
    · simp [ht, unescapeTilde_cons ht, ih]

theorem slash_not_mem_escape (s : List Char) : '/' ∉ s.flatMap escapeChar := by
  simp only [List.mem_flatMap, not_exists, not_and]
  intro c _
  unfold escapeChar
  split_ifs with h₁ h₂
  · simp
  · simp
  · simp only [List.mem_singleton]
    exact fun h => h₂ h.symm

theorem splitChar_of_not_mem {sep : Char} {f : List Char} (h : sep ∉ f) : splitChar sep f = [f] := by
  induction f with
  | nil => rfl
  | cons c cs ih =>
    have hc : (c == sep) = false := beq_eq_false_iff_ne.2 fun hcs => h (hcs ▸ List.mem_cons_self)
    rw [splitChar, ih fun hm => h (List.mem_cons_of_mem c hm)]
    simp [hc]

theorem splitChar_append_sep {sep : Char} {f : List Char} (h : sep ∉ f) (t : List Char) :
    splitChar sep (f ++ sep :: t) = f :: splitChar sep t := by
  induction f with
  | nil =>
    rw [List.nil_append, splitChar]
    obtain ⟨p, ps, hps⟩ := List.exists_cons_of_ne_nil (splitChar_ne_nil sep t)
    simp [hps]
  | cons c cs ih =>
    have hc : (c == sep) = false := beq_eq_false_iff_ne.2 fun hcs => h (hcs ▸ List.mem_cons_self)
    rw [List.cons_append, splitChar, ih fun hm => h (List.mem_cons_of_mem c hm)]
    simp [hc]

theorem toPointer_toList (path : String) :
    (toPointer path).toList = (segments path).flatMap fun seg => '/' :: (escapeSegment seg).toList := by
  unfold toPointer
  generalize segments path = segs
  suffices h : ∀ acc : String, (segs.foldl (fun acc seg => acc ++ "/" ++ escapeSegment seg) acc).toList =
      acc.toList ++ segs.flatMap fun seg => '/' :: (escapeSegment seg).toList by
    simpa using h ""
  induction segs with
  | nil => simp
  | cons seg segs ih =>
    intro acc
    rw [List.foldl_cons, ih]
    simp

theorem splitChar_escaped (seg : String) (rest : List String) :
    splitChar '/' ((escapeSegment seg).toList ++
        rest.flatMap fun seg => '/' :: (escapeSegment seg).toList) =
      (seg :: rest).map fun seg => (escapeSegment seg).toList := by
  induction rest generalizing seg with
  | nil =>
    rw [List.flatMap_nil, List.append_nil, escapeSegment_toList,
      splitChar_of_not_mem (slash_not_mem_escape _)]
    simp [escapeSegment_toList]
  | cons seg' rest ih =>
    rw [List.flatMap_cons, List.cons_append, escapeSegment_toList,
      splitChar_append_sep (slash_not_mem_escape _), ← escapeSegment_toList, ih]
    simp [escapeSegment_toList]

/-- The pointer of a path names exactly the path's segments: escaping `~` and `/` is undone
when the pointer is read, and every segment, an empty one too, is one reference token. -/
theorem pointerTokens_toPointer (path : String) : pointerTokens (toPointer path) = some (segments path) := by
  unfold pointerTokens
  rw [toPointer_toList]
  cases hsegs : segments path with
  | nil => rfl
  | cons seg rest =>
    simp only [List.flatMap_cons, List.cons_append]
    rw [splitChar_escaped]
    -- each token read back is its segment
    have hround : ∀ s : String,
        String.ofList (unescapeTilde '0' '~' (unescapeTilde '1' '/' (escapeSegment s).toList)) = s := by
      intro s
      simp [escapeSegment_toList, unescapeTilde_one, unescapeTilde_zero]
    simp only [List.map_map, Function.comp_def, hround, List.map_id']

theorem parseIndex_of_parseCanonicalIndex {seg : String} {i : Nat}
    (h : parseCanonicalIndex seg = some i) : parseIndex seg = some i := by
  unfold parseCanonicalIndex at h
  split at h
  · cases h
  · cases h
  · exact h

theorem child_of_stepOf {j : Json} {seg : String} {st : Step} (h : stepOf j seg = some st) :
    child j seg = j.getAt [st] := by
  cases j with
  | obj fs =>
    cases h
    simp [child, Json.getAt]
  | arr items =>
    obtain ⟨i, hi, rfl⟩ := Option.map_eq_some_iff.1 h
    simp [child, Json.getAt, parseIndex_of_parseCanonicalIndex hi]
  | null => cases h
  | bool => cases h
  | num => cases h
  | str => cases h

/-- Where a read takes a step through a segment that is no position written with a `+` or a
leading zero, a write takes it too. -/
theorem stepOf_of_child {j m : Json} {seg : String} (hcanon : parseIndex seg = parseCanonicalIndex seg)
    (h : child j seg = some m) : ∃ st, stepOf j seg = some st ∧ j.getAt [st] = some m := by
  cases j with
  | obj fs => exact ⟨.key seg, rfl, by simpa [child, Json.getAt] using h⟩
  | arr items =>
    simp only [child] at h
    obtain ⟨i, hi, hm⟩ := Option.bind_eq_some_iff.1 h
    exact ⟨.index i, by simp [stepOf, ← hcanon, hi], by simpa [Json.getAt] using hm⟩
  | null => cases h
  | bool => cases h
  | num => cases h
  | str => cases h

theorem foldlM_child_of_locate {segs : List String} {j : Json} {ρ : List Step}
    (h : locateSegments j segs = some ρ) : segs.foldlM child j = j.getAt ρ := by
  induction segs generalizing j ρ with
  | nil =>
    cases h
    rfl
  | cons seg rest ih =>
    obtain ⟨st, m, ρ', hst, hm, hρ', rfl⟩ := locateSegments_cons_eq_some h
    rw [List.foldlM_cons, child_of_stepOf hst, hm, Json.getAt_cons, hm]
    exact ih hρ'

/-- A read that finds a value through segments none of which is a position written with a `+`
or a leading zero locates a route. -/
theorem locate_of_foldlM_child {segs : List String} {j x : Json}
    (hcanon : ∀ seg ∈ segs, parseIndex seg = parseCanonicalIndex seg)
    (h : segs.foldlM child j = some x) : ∃ ρ, locateSegments j segs = some ρ := by
  induction segs generalizing j with
  | nil => exact ⟨[], rfl⟩
  | cons seg rest ih =>
    rw [List.foldlM_cons] at h
    obtain ⟨m, hm, hrest⟩ := Option.bind_eq_some_iff.1 h
    obtain ⟨st, hst, hjm⟩ := stepOf_of_child (hcanon seg List.mem_cons_self) hm
    obtain ⟨ρ', hρ'⟩ := ih (fun s hs => hcanon s (List.mem_cons_of_mem _ hs)) hrest
    exact ⟨st :: ρ', by simp [locateSegments, hst, hjm, hρ']⟩

/-- A value written at a route: the route leads into the written value, every route off the way
to it keeps its value, and every value on the way keeps its shape. -/
structure WrittenAt (j j' : Json) (ρ : List Step) (w : Json) : Prop where
  under : ∀ τ, j'.getAt (ρ ++ τ) = w.getAt τ
  off : ∀ σ, ¬ σ <+: ρ → ¬ ρ <+: σ → j'.getAt σ = j.getAt σ
  above : ∀ σ, σ <+: ρ → σ ≠ ρ → (j'.getAt σ).map Json.shape = (j.getAt σ).map Json.shape

namespace WrittenAt

theorem nil (j w : Json) : WrittenAt j w [] w where
  under _ := rfl
  off _ _ h := absurd List.nil_prefix h
  above _ hσ hne := absurd (List.prefix_nil.1 hσ) hne

theorem cons {j j' m m' w : Json} {st : Step} {ρ : List Step} (hu : Json.ChildUpdate j j' st m')
    (hm : j.getAt [st] = some m) (hw : WrittenAt m m' ρ w) : WrittenAt j j' (st :: ρ) w where
  under τ := by rw [List.cons_append, hu.getAt_self, hw.under]
  off
    | [], h, _ => absurd List.nil_prefix h
    | s :: σ, h, h' => by
      by_cases hs : s = st
      · subst hs
        rw [hu.getAt_self, Json.getAt_cons, hm, Option.bind_some]
        exact hw.off σ (fun hp => h ((List.prefix_cons_inj s).2 hp))
          (fun hp => h' ((List.prefix_cons_inj s).2 hp))
      · exact hu.getAt_other s σ hs
  above
    | [], _, _ => by simp [hu.shape_eq]
    | s :: σ, h, hne => by
      obtain ⟨rfl, hp⟩ := List.cons_prefix_cons.1 h
      rw [hu.getAt_self, Json.getAt_cons, hm, Option.bind_some]
      exact hw.above σ hp fun he => hne (he ▸ rfl)

end WrittenAt

/-- A write that succeeds locates a route, as writes read segments, and writes there; the route
is located alike in the value written. -/
theorem assignSegments_writtenAt {segs : List String} {j w j' : Json}
    (h : assignSegments segs j w = some j') :
    ∃ ρ, locateSegments j segs = some ρ ∧ locateSegments j' segs = some ρ ∧ WrittenAt j j' ρ w := by
  induction segs generalizing j j' with
  | nil =>
    cases h
    exact ⟨[], rfl, rfl, .nil j w⟩
  | cons seg rest ih =>
    -- the write into the child, and the child replaced in the parent
    have hstep : ∀ {st : Step} {m m' : Json}, stepOf j seg = some st → j.getAt [st] = some m →
        assignSegments rest m w = some m' → Json.ChildUpdate j j' st m' →
        ∃ ρ, locateSegments j (seg :: rest) = some ρ ∧ locateSegments j' (seg :: rest) = some ρ ∧
          WrittenAt j j' ρ w := by
      intro st m m' hst hm hm' hu
      obtain ⟨ρ', hρ', hρ'', hw⟩ := ih hm'
      have hst' : stepOf j' seg = some st := by rw [← stepOf_eq_of_shape_eq hu.shape_eq.symm]; exact hst
      have hm'' : j'.getAt [st] = some m' := by rw [hu.getAt_self]; rfl
      exact ⟨st :: ρ', by simp [locateSegments, hst, hm, hρ'], by simp [locateSegments, hst', hm'', hρ''],
        .cons hu hm hw⟩
    cases j with
    | obj fs =>
      simp only [assignSegments] at h
      split at h
      · rename_i m hm
        obtain ⟨m', hm', rfl⟩ := Option.map_eq_some_iff.1 h
        exact hstep rfl (by simp [Json.getAt, hm]) hm' (Json.childUpdate_obj hm m')
      · cases h
    | arr items =>
      simp only [assignSegments] at h
      split at h
      · rename_i i hi
        split at h
        · rename_i m hm
          obtain ⟨m', hm', rfl⟩ := Option.map_eq_some_iff.1 h
          exact hstep (by simp [stepOf, hi]) (by simp [Json.getAt, hm]) hm' (Json.childUpdate_arr hm m')
        · cases h
      · cases h
    | null => cases h
    | bool => cases h
    | num => cases h
    | str => cases h

theorem assignSegments_isSome_of_locate {segs : List String} {j : Json} {ρ : List Step}
    (h : locateSegments j segs = some ρ) (w : Json) : (assignSegments segs j w).isSome := by
  induction segs generalizing j ρ with
  | nil => rfl
  | cons seg rest ih =>
    obtain ⟨st, m, ρ', hst, hm, hρ', rfl⟩ := locateSegments_cons_eq_some h
    obtain ⟨m', hm'⟩ := Option.isSome_iff_exists.1 (ih hρ')
    obtain ⟨j', hj', -⟩ := assignSegments_cons_of_step hst hm hm'
    simp [hj']

theorem getAt_isSome_of_locate {segs : List String} {j : Json} {ρ : List Step}
    (h : locateSegments j segs = some ρ) : (j.getAt ρ).isSome := by
  induction segs generalizing j ρ with
  | nil =>
    cases h
    rfl
  | cons seg rest ih =>
    obtain ⟨st, m, ρ', hst, hm, hρ', rfl⟩ := locateSegments_cons_eq_some h
    rw [Json.getAt_cons, hm, Option.bind_some]
    exact ih hρ'

/-- A write through a path that succeeds: a read of the path found a value before, finds the
written value after, and the write is at the route the path denotes. -/
theorem assign_eq_some {data v d' : Json} {path : String} (h : assign data path v = some d') :
    (lookup data path).isSome ∧ lookup d' path = some v ∧
      ∃ ρ, locate data path = some ρ ∧ WrittenAt data d' ρ v := by
  obtain ⟨ρ, hloc, hloc', hw⟩ := assignSegments_writtenAt h
  refine ⟨?_, ?_, ρ, hloc, hw⟩
  · rw [lookup, foldlM_child_of_locate hloc]
    exact getAt_isSome_of_locate hloc
  · rw [lookup, foldlM_child_of_locate hloc', ← List.append_nil ρ, hw.under]
    rfl

/-- A write through a concrete path goes through the path's pointer, whose reference tokens are
the path's segments. It succeeds only where a read of the path finds a value, and then sets the
value at the route the path denotes: a read of the path finds the written value, every route off
the way to it keeps its value, and the values on the way keep their shapes. Where no segment is
a position written with a `+` or a leading zero, it succeeds exactly where a read finds a
value. -/
theorem assign_writes_where_lookup_reads (data : Json) (path : String) (v : Json) :
    pointerTokens (toPointer path) = some (segments path) ∧
    (∀ d', assign data path v = some d' →
      (lookup data path).isSome ∧ lookup d' path = some v ∧
        ∃ ρ, locate data path = some ρ ∧ WrittenAt data d' ρ v) ∧
    ((∀ seg ∈ segments path, parseIndex seg = parseCanonicalIndex seg) →
      (assign data path v).isSome = (lookup data path).isSome) := by
  refine ⟨pointerTokens_toPointer path, fun d' h => assign_eq_some h, fun hcanon => ?_⟩
  cases hl : lookup data path with
  | none =>
    cases ha : assign data path v with
    | none => rfl
    | some d' => simpa [hl] using (assign_eq_some ha).1
  | some x =>
    obtain ⟨ρ, hloc⟩ := locate_of_foldlM_child hcanon hl
    simpa [assign] using assignSegments_isSome_of_locate hloc v

/-- A position written with a leading zero is read but not written: `items.01` reads the second
element of the array, and a write through it fails. -/
theorem leading_zero_position_is_read_not_written :
    lookup (.obj [("items", .arr [.str "a", .str "b"])]) "items.01" = some (.str "b") ∧
      assign (.obj [("items", .arr [.str "a", .str "b"])]) "items.01" (.str "x") = none :=
  ⟨rfl, rfl⟩

/-- A position written plainly reads the same both ways, so the write through it succeeds, as
the lookup does, and lands where the lookup reads. -/
theorem item_position_written_where_read :
    (∀ seg ∈ segments "items.1", parseIndex seg = parseCanonicalIndex seg) ∧
      (assign (.obj [("items", .arr [.str "a", .str "b"])]) "items.1" (.str "x")).isSome =
        (lookup (.obj [("items", .arr [.str "a", .str "b"])]) "items.1").isSome ∧
      ∃ d', assign (.obj [("items", .arr [.str "a", .str "b"])]) "items.1" (.str "x") = some d' ∧
        lookup d' "items.1" = some (.str "x") := by
  have hcanon : ∀ seg ∈ segments "items.1", parseIndex seg = parseCanonicalIndex seg := by
    rw [show segments "items.1" = ["items", "1"] from rfl]
    decide +kernel
  have hw := assign_writes_where_lookup_reads (.obj [("items", .arr [.str "a", .str "b"])])
    "items.1" (.str "x")
  have hd : assign (.obj [("items", .arr [.str "a", .str "b"])]) "items.1" (.str "x") =
      some (.obj [("items", .arr [.str "a", .str "x"])]) := rfl
  exact ⟨hcanon, hw.2.2 hcanon, _, hd, (hw.2.1 _ hd).2.1⟩

end Path

end FieldRules

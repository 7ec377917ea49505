import FieldRules.Proofs.WriteBack

namespace FieldRules

namespace Path

theorem splitChar_ne_nil (sep : Char) : ∀ cs : List Char, splitChar sep cs ≠ []
  | [] => by simp [splitChar]
  | c :: cs => by
    unfold splitChar
    split
    · simp
    · split <;> simp

theorem intercalate_splitChar (sep : Char) : ∀ cs : List Char,
    [sep].intercalate (splitChar sep cs) = cs
  | [] => rfl
  | c :: cs => by
    have ih := intercalate_splitChar sep cs
    unfold splitChar
    split
    · rename_i hnil
      exact absurd hnil (splitChar_ne_nil sep cs)
    · rename_i p ps hsplit
      rw [hsplit] at ih
      by_cases hc : c = sep
      · subst hc
        simp only [beq_self_eq_true, if_true, List.intercalate_cons_cons, List.nil_append,
          List.singleton_append, ih]
      · have hc' : (c == sep) = false := beq_eq_false_iff_ne.2 hc
        simp only [hc', Bool.false_eq_true, if_false, List.intercalate_cons_cons_left, ih]

theorem segments_injective : Function.Injective segments := by
  intro p q h
  unfold segments at h
  by_cases hp : p.isEmpty <;> by_cases hq : q.isEmpty
  · rw [String.isEmpty_iff.1 hp, String.isEmpty_iff.1 hq]
  · simp only [hp, hq, if_true, Bool.false_eq_true, if_false] at h
    exact absurd h.symm (by simpa using splitChar_ne_nil '.' q.toList)
  · simp only [hp, hq, if_true, Bool.false_eq_true, if_false] at h
    exact absurd h (by simpa using splitChar_ne_nil '.' p.toList)
  · simp only [hp, hq, Bool.false_eq_true, if_false] at h
    have hsplit : splitChar '.' p.toList = splitChar '.' q.toList :=
      List.map_injective_iff.2 (fun _ _ => String.ofList_injective) h
    have hchars := congrArg (List.intercalate ['.']) hsplit
    rw [intercalate_splitChar, intercalate_splitChar] at hchars
    exact String.toList_inj.1 hchars

theorem isDigit_iff (c : Char) : c.isDigit = true ↔ 48 ≤ c.toNat ∧ c.toNat ≤ 57 := by
  unfold Char.isDigit
  simp only [Bool.and_eq_true, decide_eq_true_eq, UInt32.le_iff_toNat_le]
  rfl

theorem digitChar_of_isDigit {c : Char} (h : c.isDigit = true) :
    Nat.digitChar (c.toNat - 48) = c := by
  have hc := (isDigit_iff c).1 h
  apply Char.toNat_inj.1
  rw [Nat.toNat_digitChar_of_lt_ten (by omega)]
  omega

theorem toDigits_foldl {cs : List Char} (hcs : ∀ c ∈ cs, c.isDigit = true) {acc : Nat}
    (hacc : 0 < acc) :
    Nat.toDigits 10 (cs.foldl (fun acc c => acc * 10 + (c.toNat - '0'.toNat)) acc) =
      Nat.toDigits 10 acc ++ cs := by
  induction cs generalizing acc with
  | nil => simp
  | cons c cs ih =>
    have hc := (isDigit_iff c).1 (hcs c List.mem_cons_self)
    have hd : c.toNat - 48 < 10 := by omega
    have hstep : Nat.toDigits 10 (10 * acc + (c.toNat - 48)) = Nat.toDigits 10 acc ++ [c] := by
      rw [← Nat.toDigits_append_toDigits (by decide) hacc hd, Nat.toDigits_of_lt_base hd,
        digitChar_of_isDigit (hcs c List.mem_cons_self)]
    have hnext : acc * 10 + (c.toNat - '0'.toNat) = 10 * acc + (c.toNat - 48) := by
      rw [Nat.mul_comm]; rfl
    rw [List.foldl_cons, ih (fun c' hc' => hcs c' (List.mem_cons_of_mem c hc')) (by omega), hnext,
      hstep]
    simp

theorem toList_of_parseCanonicalIndex {s : String} {i : Nat} (h : parseCanonicalIndex s = some i) :
    s.toList = Nat.toDigits 10 i := by
  unfold parseCanonicalIndex parseIndex at h
  generalize s.toList = ds at h ⊢
  split at h
  · cases h
  · cases h
  · rename_i hplus hzero
    dsimp only at h
    split at h
    · exact absurd rfl (hplus _)
    · split at h
      · cases h
      · rename_i hcond
        simp only [Bool.or_eq_true, List.isEmpty_iff, Bool.not_eq_true', List.all_eq_false,
          not_or, not_exists, not_and, not_not] at hcond
        split at h
        · cases h
          obtain ⟨hne, hdig⟩ := hcond
          obtain ⟨c, cs, rfl⟩ := List.exists_cons_of_ne_nil hne
          have hc := (isDigit_iff c).1 (hdig c List.mem_cons_self)
          by_cases h0 : c = '0'
          · -- a leading zero stands alone
            subst h0
            cases cs with
            | nil => rfl
            | cons d ds => exact absurd rfl (hzero d ds)
          · have hpos : 0 < 0 * 10 + (c.toNat - '0'.toNat) := by
              have : c.toNat ≠ 48 := fun h48 => h0 (Char.toNat_inj.1 h48)
              show 0 < 0 * 10 + (c.toNat - 48)
              omega
            have hone : Nat.toDigits 10 (0 * 10 + (c.toNat - '0'.toNat)) = [c] := by
              show Nat.toDigits 10 (0 * 10 + (c.toNat - 48)) = [c]
              rw [Nat.zero_mul, Nat.zero_add, Nat.toDigits_of_lt_base (by omega),
                digitChar_of_isDigit (hdig c List.mem_cons_self)]
            rw [List.foldl_cons, toDigits_foldl (fun d hd => hdig d (List.mem_cons_of_mem c hd)) hpos,
              hone, List.singleton_append]
        · cases h

theorem parseCanonicalIndex_inj {s t : String} {i : Nat} (hs : parseCanonicalIndex s = some i)
    (ht : parseCanonicalIndex t = some i) : s = t :=
  String.toList_inj.1 ((toList_of_parseCanonicalIndex hs).trans (toList_of_parseCanonicalIndex ht).symm)

/-- The value after writing `w` at the end of `segs`, or the value itself where that location
cannot be written. -/
def writeAt (segs : List String) (w j : Json) : Json := (assignSegments segs j w).getD j

/-- Whether a write at the end of `segs` succeeds on `j`; what is written does not matter. -/
def reaches (segs : List String) (j : Json) : Bool := (assignSegments segs j .null).isSome

/-- The members of an object with every member under a key replaced. -/
def replaceKey (fs : List (String × Json)) (k : String) (x : Json) : List (String × Json) :=
  fs.map fun (k', y) => if k' == k then (k', x) else (k', y)

theorem isSome_assignSegments (segs : List String) (j w : Json) :
    (assignSegments segs j w).isSome = reaches segs j := by
  unfold reaches
  induction segs generalizing j with
  | nil => rfl
  | cons seg rest ih =>
    cases j with
    | obj fs =>
      simp only [assignSegments]
      split <;> simp [ih]
    | arr items =>
      simp only [assignSegments]
      split
      · split <;> simp [ih]
      · rfl
    | null => rfl
    | bool => rfl
    | num => rfl
    | str => rfl

theorem writeAt_nil (w j : Json) : writeAt [] w j = w := rfl

theorem writeAt_of_not_reaches {segs : List String} {j : Json} (h : reaches segs j = false)
    (w : Json) : writeAt segs w j = j := by
  have hnone : assignSegments segs j w = none := by
    rw [← Option.not_isSome_iff_eq_none, isSome_assignSegments, h]
    decide
  rw [writeAt, hnone]
  rfl

theorem writeAt_of_leaf {j : Json} (hj : j.shape = .leaf) (seg : String) (rest : List String)
    (w : Json) : writeAt (seg :: rest) w j = j := by
  -- a write below a leaf finds nothing to go into
  cases j with
  | obj fs => cases hj
  | arr items => cases hj
  | _ => rfl

/-- The members of an object after a write below the member under `k`: every member under the
key takes the written child when the write reaches it. -/
def writeMember (fs : List (String × Json)) (k : String) (rest : List String) (w : Json) :
    List (String × Json) :=
  match fs.lookup k with
  | some x => if reaches rest x then replaceKey fs k (writeAt rest w x) else fs
  | none => fs

/-- The elements of an array after a write below the element at position `i`. -/
def writeElem (items : List Json) (i : Nat) (rest : List String) (w : Json) : List Json :=
  match items[i]? with
  | some x => if reaches rest x then items.set i (writeAt rest w x) else items
  | none => items

theorem writeMember_of_lookup {fs : List (String × Json)} {k : String} {x : Json}
    (hx : fs.lookup k = some x) (rest : List String) (w : Json) :
    writeMember fs k rest w = if reaches rest x then replaceKey fs k (writeAt rest w x) else fs := by
  simp only [writeMember, hx]

theorem writeMember_of_lookup_none {fs : List (String × Json)} {k : String}
    (hx : fs.lookup k = none) (rest : List String) (w : Json) : writeMember fs k rest w = fs := by
  simp only [writeMember, hx]

theorem writeElem_of_getElem? {items : List Json} {i : Nat} {x : Json} (hx : items[i]? = some x)
    (rest : List String) (w : Json) :
    writeElem items i rest w = if reaches rest x then items.set i (writeAt rest w x) else items := by
  simp only [writeElem, hx]

theorem writeElem_of_getElem?_none {items : List Json} {i : Nat} (hx : items[i]? = none)
    (rest : List String) (w : Json) : writeElem items i rest w = items := by
  simp only [writeElem, hx]

theorem writeAt_obj (fs : List (String × Json)) (seg : String) (rest : List String) (w : Json) :
    writeAt (seg :: rest) w (.obj fs) = .obj (writeMember fs seg rest w) := by
  unfold writeMember
  cases hx : fs.lookup seg with
  | none => simp [writeAt, assignSegments, hx]
  | some x =>
    cases ha : assignSegments rest x w with
    | none =>
      have hr : reaches rest x = false := by rw [← isSome_assignSegments rest x w, ha]; rfl
      simp [writeAt, assignSegments, hx, ha, hr]
    | some y =>
      have hr : reaches rest x = true := by rw [← isSome_assignSegments rest x w, ha]; rfl
      simp [writeAt, assignSegments, hx, ha, hr, replaceKey]

theorem writeAt_arr_of_index {seg : String} {i : Nat} (hi : parseCanonicalIndex seg = some i)
    (items : List Json) (rest : List String) (w : Json) :
    writeAt (seg :: rest) w (.arr items) = .arr (writeElem items i rest w) := by
  unfold writeElem
  cases hx : items[i]? with
  | none => simp [writeAt, assignSegments, hi, hx]
  | some x =>
    cases ha : assignSegments rest x w with
    | none =>
      have hr : reaches rest x = false := by rw [← isSome_assignSegments rest x w, ha]; rfl
      simp [writeAt, assignSegments, hi, hx, ha, hr]
    | some y =>
      have hr : reaches rest x = true := by rw [← isSome_assignSegments rest x w, ha]; rfl
      simp [writeAt, assignSegments, hi, hx, ha, hr]

theorem writeAt_arr_of_not_index {seg : String} (hi : parseCanonicalIndex seg = none)
    (items : List Json) (rest : List String) (w : Json) :
    writeAt (seg :: rest) w (.arr items) = .arr items := by
  simp [writeAt, assignSegments, hi]

theorem lookup_replaceKey (fs : List (String × Json)) (k k' : String) (x : Json) :
    (replaceKey fs k x).lookup k' = if k' = k then (fs.lookup k).map fun _ => x else fs.lookup k' :=
  Json.lookup_replace fs k k' x

theorem replaceKey_replaceKey (fs : List (String × Json)) (k : String) (x y : Json) :
    replaceKey (replaceKey fs k x) k y = replaceKey fs k y := by
  unfold replaceKey
  rw [List.map_map]
  refine List.map_congr_left fun ⟨k', z⟩ _ => ?_
  by_cases h : k' = k <;> simp [h]

theorem replaceKey_comm {k₁ k₂ : String} (h : k₁ ≠ k₂) (fs : List (String × Json)) (x y : Json) :
    replaceKey (replaceKey fs k₁ x) k₂ y = replaceKey (replaceKey fs k₂ y) k₁ x := by
  unfold replaceKey
  rw [List.map_map, List.map_map]
  refine List.map_congr_left fun ⟨k', z⟩ _ => ?_
  by_cases h₁ : k' = k₁
  · subst h₁
    simp [h]
  · by_cases h₂ : k' = k₂
    · subst h₂
      simp [Ne.symm h]
    · simp [h₁, h₂]

theorem lookup_writeMember_of_ne {k k' : String} (h : k' ≠ k) (fs : List (String × Json))
    (rest : List String) (w : Json) : (writeMember fs k rest w).lookup k' = fs.lookup k' := by
  cases hx : fs.lookup k with
  | none => rw [writeMember_of_lookup_none hx]
  | some x =>
    rw [writeMember_of_lookup hx]
    split
    · rw [lookup_replaceKey, if_neg h]
    · rfl

theorem writeMember_comm {k₁ k₂ : String} (h : k₁ ≠ k₂) (fs : List (String × Json))
    (r₁ r₂ : List String) (w₁ w₂ : Json) :
    writeMember (writeMember fs k₁ r₁ w₁) k₂ r₂ w₂ = writeMember (writeMember fs k₂ r₂ w₂) k₁ r₁ w₁ := by
  -- each write finds its member where it was before the other
  have hk₂ := lookup_writeMember_of_ne h.symm fs r₁ w₁
  have hk₁ := lookup_writeMember_of_ne h fs r₂ w₂
  cases hx₁ : fs.lookup k₁ with
  | none =>
    rw [writeMember_of_lookup_none (hk₁.trans hx₁), writeMember_of_lookup_none hx₁]
  | some x₁ =>
    cases hx₂ : fs.lookup k₂ with
    | none =>
      rw [writeMember_of_lookup_none (hk₂.trans hx₂), writeMember_of_lookup_none hx₂]
    | some x₂ =>
      rw [writeMember_of_lookup (hk₂.trans hx₂), writeMember_of_lookup (hk₁.trans hx₁),
        writeMember_of_lookup hx₁, writeMember_of_lookup hx₂]
      cases reaches r₁ x₁ <;> cases reaches r₂ x₂ <;> simp [replaceKey_comm h]

theorem writeMember_writeMember {fs : List (String × Json)} {k : String} {x : Json}
    (hx : fs.lookup k = some x) (r₁ r₂ : List String) (w₁ w₂ : Json) :
    writeMember (writeMember fs k r₁ w₁) k r₂ w₂ =
      if (reaches r₁ x || reaches r₂ x) then replaceKey fs k (writeAt r₂ w₂ (writeAt r₁ w₁ x))
      else fs := by
  cases h₁ : reaches r₁ x
  · rw [writeMember_of_lookup hx r₁ w₁, writeAt_of_not_reaches h₁]
    simp only [h₁, Bool.false_eq_true, if_false, Bool.false_or]
    rw [writeMember_of_lookup hx]
  · have hy : (replaceKey fs k (writeAt r₁ w₁ x)).lookup k = some (writeAt r₁ w₁ x) := by
      rw [lookup_replaceKey, if_pos rfl, hx]
      rfl
    rw [writeMember_of_lookup hx r₁ w₁]
    simp only [h₁, if_true, Bool.true_or]
    rw [writeMember_of_lookup hy]
    cases h₂ : reaches r₂ (writeAt r₁ w₁ x)
    · rw [writeAt_of_not_reaches h₂]
      rfl
    · rw [if_pos rfl, replaceKey_replaceKey]

theorem getElem?_writeElem_of_ne {i i' : Nat} (h : i ≠ i') (items : List Json)
    (rest : List String) (w : Json) : (writeElem items i rest w)[i']? = items[i']? := by
  cases hx : items[i]? with
  | none => rw [writeElem_of_getElem?_none hx]
  | some x =>
    rw [writeElem_of_getElem? hx]
    split
    · rw [List.getElem?_set_ne h]
    · rfl

theorem writeElem_comm {i₁ i₂ : Nat} (h : i₁ ≠ i₂) (items : List Json) (r₁ r₂ : List String)
    (w₁ w₂ : Json) :
    writeElem (writeElem items i₁ r₁ w₁) i₂ r₂ w₂ = writeElem (writeElem items i₂ r₂ w₂) i₁ r₁ w₁ := by
  have hi₂ := getElem?_writeElem_of_ne h items r₁ w₁
  have hi₁ := getElem?_writeElem_of_ne h.symm items r₂ w₂
  cases hx₁ : items[i₁]? with
  | none =>
    rw [writeElem_of_getElem?_none (hi₁.trans hx₁), writeElem_of_getElem?_none hx₁]
  | some x₁ =>
    cases hx₂ : items[i₂]? with
    | none =>
      rw [writeElem_of_getElem?_none (hi₂.trans hx₂), writeElem_of_getElem?_none hx₂]
    | some x₂ =>
      rw [writeElem_of_getElem? (hi₂.trans hx₂), writeElem_of_getElem? (hi₁.trans hx₁),
        writeElem_of_getElem? hx₁, writeElem_of_getElem? hx₂]
      cases reaches r₁ x₁ <;> cases reaches r₂ x₂ <;> simp [List.set_comm _ _ h]

theorem writeElem_writeElem {items : List Json} {i : Nat} {x : Json} (hx : items[i]? = some x)
    (r₁ r₂ : List String) (w₁ w₂ : Json) :
    writeElem (writeElem items i r₁ w₁) i r₂ w₂ =
      if (reaches r₁ x || reaches r₂ x) then items.set i (writeAt r₂ w₂ (writeAt r₁ w₁ x))
      else items := by
  cases h₁ : reaches r₁ x
  · rw [writeElem_of_getElem? hx r₁ w₁, writeAt_of_not_reaches h₁]
    simp only [h₁, Bool.false_eq_true, if_false, Bool.false_or]
    rw [writeElem_of_getElem? hx]
  · have hy : (items.set i (writeAt r₁ w₁ x))[i]? = some (writeAt r₁ w₁ x) :=
      List.getElem?_set_self (List.getElem?_eq_some_iff.1 hx).1
    rw [writeElem_of_getElem? hx r₁ w₁]
    simp only [h₁, if_true, Bool.true_or]
    rw [writeElem_of_getElem? hy]
    cases h₂ : reaches r₂ (writeAt r₁ w₁ x)
    · rw [writeAt_of_not_reaches h₂]
      rfl
    · rw [if_pos rfl, List.set_set]

/-- Two writes of leaves through distinct lists of segments give the same value in either order.
The induction follows the first list, splitting on the kind of value at each level: where the
segments part the writes go to distinct members or elements, which commute; where they agree
the child takes both writes, in either order by induction; and where one list ends first its
leaf leaves nothing for the other to write into, in either order. -/
theorem writeAt_comm {s₁ s₂ : List String} (hne : s₁ ≠ s₂) {w₁ w₂ : Json}
    (hw₁ : w₁.shape = .leaf) (hw₂ : w₂.shape = .leaf) (j : Json) :
    writeAt s₂ w₂ (writeAt s₁ w₁ j) = writeAt s₁ w₁ (writeAt s₂ w₂ j) := by
  induction s₁ generalizing s₂ j with
  | nil =>
    cases s₂ with
    | nil => exact absurd rfl hne
    | cons seg rest => rw [writeAt_nil, writeAt_of_leaf hw₁, writeAt_nil]
  | cons seg₁ r₁ ih =>
    cases s₂ with
    | nil => rw [writeAt_nil, writeAt_nil, writeAt_of_leaf hw₂]
    | cons seg₂ r₂ =>
      cases j with
      | obj fs =>
        rw [writeAt_obj, writeAt_obj, writeAt_obj, writeAt_obj]
        by_cases hseg : seg₁ = seg₂
        · -- one member takes both writes
          subst hseg
          have hr : r₁ ≠ r₂ := fun h => hne (h ▸ rfl)
          cases hx : fs.lookup seg₁ with
          | none => simp only [writeMember_of_lookup_none hx]
          | some x =>
            rw [writeMember_writeMember hx, writeMember_writeMember hx, ih hr, Bool.or_comm]
        · rw [writeMember_comm hseg]
      | arr items =>
        cases hi₁ : parseCanonicalIndex seg₁ with
        | none =>
          rw [writeAt_arr_of_not_index hi₁]
          cases hi₂ : parseCanonicalIndex seg₂ with
          | none => rw [writeAt_arr_of_not_index hi₂, writeAt_arr_of_not_index hi₁]
          | some i₂ => rw [writeAt_arr_of_index hi₂, writeAt_arr_of_not_index hi₁]
        | some i₁ =>
          rw [writeAt_arr_of_index hi₁]
          cases hi₂ : parseCanonicalIndex seg₂ with
          | none => simp only [writeAt_arr_of_not_index hi₂, writeAt_arr_of_index hi₁]
          | some i₂ =>
            rw [writeAt_arr_of_index hi₂, writeAt_arr_of_index hi₂, writeAt_arr_of_index hi₁]
            by_cases hi : i₁ = i₂
            · -- one position is one segment, so one element takes both writes
              subst hi
              have hr : r₁ ≠ r₂ := fun h => hne (by rw [parseCanonicalIndex_inj hi₁ hi₂, h])
              cases hx : items[i₁]? with
              | none => simp only [writeElem_of_getElem?_none hx]
              | some x =>
                rw [writeElem_writeElem hx, writeElem_writeElem hx, ih hr, Bool.or_comm]
            · rw [writeElem_comm hi]
      | null => rfl
      | bool => rfl
      | num => rfl
      | str => rfl

end Path

theorem foldl_comm_of_forall {α β : Type} {f : β → α → β} {y : α} {xs : List α}
    (h : ∀ x ∈ xs, ∀ z, f (f z x) y = f (f z y) x) (z : β) :
    xs.foldl f (f z y) = f (xs.foldl f z) y := by
  induction xs generalizing z with
  | nil => rfl
  | cons x xs ih =>
    rw [List.foldl_cons, List.foldl_cons, ← h x List.mem_cons_self z,
      ih (fun x' hx' => h x' (List.mem_cons_of_mem x hx'))]

theorem foldl_foldl_comm {α β : Type} {f : β → α → β} {xs ys : List α}
    (h : ∀ x ∈ xs, ∀ y ∈ ys, ∀ z, f (f z x) y = f (f z y) x) (z : β) :
    ys.foldl f (xs.foldl f z) = xs.foldl f (ys.foldl f z) := by
  induction ys generalizing z with
  | nil => rfl
  | cons y ys ih =>
    rw [List.foldl_cons, List.foldl_cons, ← foldl_comm_of_forall (fun x hx => h x hx y List.mem_cons_self),
      ih (fun x hx y' hy' => h x hx y' (List.mem_cons_of_mem y hy'))]

namespace Engine

variable (e : Engine)

/-- Writing back a field writes a leaf at its path, or nothing: only a text can change under
coercion, and it becomes a text or `null`. -/
theorem writeBack_eq_writeAt (path : String) (v : Option Json) :
    ∃ ow : Option Json, (∀ w ∈ ow, w.shape = .leaf) ∧
      ∀ out, e.writeBack out (path, v) = ow.elim out fun w => Path.writeAt (Path.segments path) w out := by
  by_cases hv : ∃ s, v = some (.str s)
  · obtain ⟨s, rfl⟩ := hv
    obtain ⟨w, hw, hleaf⟩ := Context.coerce_text e.config s
    by_cases hch : coercionChanges (some (.str s)) (some w) = true
    · refine ⟨some w, fun w' hw' => by cases hw'; exact hleaf, fun out => ?_⟩
      simp only [writeBack, hw, hch, if_true]
      rfl
    · refine ⟨none, fun _ h => absurd h (by simp), fun out => ?_⟩
      simp only [writeBack, hw, hch, Bool.false_eq_true, if_false]
      rfl
  · refine ⟨none, fun _ h => absurd h (by simp), fun out => ?_⟩
    exact e.writeBack_of_not_text out path fun s h => hv ⟨s, h⟩

theorem writeBack_comm {f₁ f₂ : String × Option Json} (h : f₁.1 ≠ f₂.1) (out : Json) :
    e.writeBack (e.writeBack out f₁) f₂ = e.writeBack (e.writeBack out f₂) f₁ := by
  obtain ⟨path₁, v₁⟩ := f₁
  obtain ⟨path₂, v₂⟩ := f₂
  obtain ⟨ow₁, hleaf₁, hw₁⟩ := e.writeBack_eq_writeAt path₁ v₁
  obtain ⟨ow₂, hleaf₂, hw₂⟩ := e.writeBack_eq_writeAt path₂ v₂
  simp only [hw₁, hw₂]
  cases ow₁ with
  | none => rfl
  | some w₁ =>
    cases ow₂ with
    | none => rfl
    | some w₂ =>
      exact Path.writeAt_comm (Path.segments_injective.ne h) (hleaf₁ w₁ rfl) (hleaf₂ w₂ rfl) out

/-- Writing back the fields of patterns in another order gives the same data, when no two of
the patterns reach one path: the writes of one pattern keep their order, and writes of distinct
patterns commute. -/
theorem foldl_writeBack_perm {patterns' patterns : List String} (hperm : patterns'.Perm patterns)
    {data : Json} (hdisj : (patterns.map fun p => (Path.resolve data p).map (·.1)).Pairwise List.Disjoint)
    (out : Json) :
    (patterns'.flatMap (Path.resolve data)).foldl e.writeBack out =
      (patterns.flatMap (Path.resolve data)).foldl e.writeBack out := by
  have hsymm : Std.Symm fun p q : String =>
      List.Disjoint ((Path.resolve data p).map (·.1)) ((Path.resolve data q).map (·.1)) :=
    ⟨fun _ _ h => h.symm⟩
  have hpair := List.pairwise_map.1 hdisj
  rw [List.foldl_flatMap, List.foldl_flatMap]
  refine hperm.foldl_eq' (fun p hp q hq z => ?_) out
  by_cases hpq : p = q
  · rw [hpq]
  · -- the fields of two patterns lie at distinct paths, so their writes commute
    have hd := hpair.forall (hperm.subset hp) (hperm.subset hq) hpq
    refine foldl_foldl_comm (fun f₁ h₁ f₂ h₂ z => e.writeBack_comm (fun h => ?_) z) z
    exact hd (List.mem_map_of_mem h₁) (by rw [h]; exact List.mem_map_of_mem h₂)

end Engine

end FieldRules

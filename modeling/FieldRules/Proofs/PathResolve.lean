import FieldRules.Proofs.PathWrite

namespace FieldRules

namespace Path

theorem parseIndex_repr {i : Nat} (h : i < 2 ^ 64) : parseIndex (Nat.repr i) = some i := by
  have hdig : ∀ c ∈ Nat.toDigits 10 i, c.isDigit = true :=
    fun _ hc => Nat.isDigit_of_mem_toDigits (by decide) (by decide) hc
  have hval : (Nat.toDigits 10 i).foldl (fun acc c => acc * 10 + (c.toNat - '0'.toNat)) 0 = i := by
    have hdigits := Nat.ofDigitChars_ten_toDigits (n := i)
    rw [Nat.ofDigitChars_eq_foldl] at hdigits
    simpa only [Nat.mul_comm] using hdigits
  unfold parseIndex
  rw [Nat.toList_repr]
  obtain ⟨d, ds, hds⟩ := List.exists_cons_of_ne_nil (Nat.toDigits_ne_nil (b := 10) (n := i))
  have hd : d ≠ '+' := by
    rintro rfl
    exact absurd (hdig '+' (hds ▸ List.mem_cons_self)) (by decide)
  have hall : (Nat.toDigits 10 i).all Char.isDigit = true := List.all_eq_true.2 hdig
  rw [hds] at hall hval ⊢
  split
  · next r heq => exact absurd (List.cons.inj heq).1 hd
  · simp only [List.isEmpty_cons, hall, Bool.not_true, Bool.or_false, Bool.false_eq_true, if_false]
    rw [hval, if_pos (by simpa using h)]

end Path

namespace Json

/-- The children of a value with the segments that name them: an array's elements under their
positions in canonical decimal, an object's members under their keys, in order. -/
def children : Json → List (String × Json)
  | .arr items => ((List.range items.length).zip items).map fun (i, x) => (Nat.repr i, x)
  | .obj fs => fs
  | _ => []

/-- A value the program can hold: every object has each key once, and every array fewer than
`2 ^ 64` elements, so that its positions are 64-bit. -/
inductive WellFormed : Json → Prop
  | leaf {j : Json} : j.shape = .leaf → WellFormed j
  | arr {items : List Json} : items.length < 2 ^ 64 → (∀ x ∈ items, WellFormed x) →
      WellFormed (.arr items)
  | obj {fs : List (String × Json)} : (fs.map (·.1)).Nodup → (∀ p ∈ fs, WellFormed p.2) →
      WellFormed (.obj fs)

theorem mem_zip_range {items : List Json} {i : Nat} {x : Json} :
    (i, x) ∈ (List.range items.length).zip items ↔ items[i]? = some x := by
  rw [← List.mem_zipIdx_iff_getElem? (x := (x, i)), List.zipIdx_eq_zip_range',
    ← List.range_eq_range']
  constructor
  · intro h
    simpa [List.zip_swap] using List.mem_map_of_mem (f := Prod.swap) h
  · intro h
    simpa [List.zip_swap] using List.mem_map_of_mem (f := Prod.swap) h

theorem mem_children_arr {items : List Json} {c : String} {x : Json} :
    (c, x) ∈ (Json.arr items).children ↔ ∃ i, c = Nat.repr i ∧ items[i]? = some x := by
  simp only [children, List.mem_map, Prod.exists, Prod.mk.injEq]
  constructor
  · rintro ⟨i, _, hmem, rfl, rfl⟩
    exact ⟨i, rfl, mem_zip_range.1 hmem⟩
  · rintro ⟨i, rfl, hx⟩
    exact ⟨i, x, mem_zip_range.2 hx, rfl, rfl⟩

theorem lookup_of_mem {fs : List (String × Json)} (hkeys : (fs.map (·.1)).Nodup) {c : String}
    {x : Json} (h : (c, x) ∈ fs) : fs.lookup c = some x := by
  obtain ⟨l₁, l₂, rfl⟩ := List.append_of_mem h
  refine List.lookup_eq_some_iff.2 ⟨l₁, l₂, rfl, fun p hp => ?_⟩
  have hc : c ∉ l₁.map (·.1) := by
    simp only [List.map_append, List.map_cons, List.nodup_append, List.mem_cons] at hkeys
    exact fun hc => hkeys.2.2 c hc c (Or.inl rfl) rfl
  exact bne_iff_ne.2 fun heq => hc (heq ▸ List.mem_map_of_mem hp)

namespace WellFormed

variable {v : Json}

theorem children_nodup (h : v.WellFormed) : (v.children.map (·.1)).Nodup := by
  cases h with
  | leaf hleaf => cases v <;> simp_all [shape, children]
  | @arr items _ _ =>
    have hrepr : Function.Injective Nat.repr := fun a b hab => by
      rw [← Nat.ofDigitChars_ten_toDigits (n := a), ← Nat.ofDigitChars_ten_toDigits (n := b),
        ← Nat.toList_repr, ← Nat.toList_repr, hab]
    have hfst : ((List.range items.length).zip items).map (·.1) = List.range items.length :=
      List.map_fst_zip (by simp)
    simp only [children, List.map_map]
    rw [show ((·.1) ∘ fun p : Nat × Json => (Nat.repr p.1, p.2)) = Nat.repr ∘ (·.1) from rfl,
      ← List.map_map, hfst]
    exact List.nodup_range.map hrepr
  | obj hkeys _ => exact hkeys

theorem child_of_mem (h : v.WellFormed) {c : String} {x : Json} (hp : (c, x) ∈ v.children) :
    Path.child v c = some x ∧ x.WellFormed := by
  cases h with
  | leaf hleaf => cases v <;> simp_all [shape, children]
  | @arr items hlen hall =>
    obtain ⟨i, rfl, hi⟩ := mem_children_arr.1 hp
    have hlt : i < items.length := (List.getElem?_eq_some_iff.1 hi).1
    refine ⟨?_, hall x (List.mem_of_getElem? hi)⟩
    simp only [Path.child, Path.parseIndex_repr (Nat.lt_trans hlt hlen), Option.bind_some, hi]
  | obj hkeys hall => exact ⟨lookup_of_mem hkeys hp, hall (c, x) hp⟩

theorem child {c : String} {x : Json} (h : v.WellFormed) (hc : Path.child v c = some x) :
    x.WellFormed := by
  cases h with
  | leaf hleaf => cases v <;> simp_all [shape, Path.child]
  | arr _ hall =>
    simp only [Path.child, Option.bind_eq_some_iff] at hc
    obtain ⟨i, -, hi⟩ := hc
    exact hall x (List.mem_of_getElem? hi)
  | obj _ hall =>
    obtain ⟨l₁, l₂, hfs, -⟩ := List.lookup_eq_some_iff.1 hc
    exact hall (c, x) (hfs ▸ List.mem_append_right l₁ List.mem_cons_self)

theorem bind_child {cur : Option Json} (hwf : ∀ v ∈ cur, v.WellFormed) (c : String) :
    ∀ w ∈ cur.bind (Path.child · c), w.WellFormed := by
  intro w hw
  obtain ⟨v, hv, hc⟩ := Option.bind_eq_some_iff.1 hw
  exact (hwf v hv).child hc

end WellFormed

end Json

namespace Path

/-- A concrete route that a pattern's segments match from a value: a plain segment is taken as
written, whatever it reaches; a wildcard takes a segment naming a child of the value reached so
far, and goes on from that child. -/
inductive Matches : Option Json → List String → List String → Prop
  | nil (cur : Option Json) : Matches cur [] []
  | plain {cur : Option Json} {seg : String} {rest cs : List String} : seg ≠ wildcard →
      Matches (cur.bind (child · seg)) rest cs → Matches cur (seg :: rest) (seg :: cs)
  | wild {v x : Json} {c : String} {rest cs : List String} : (c, x) ∈ v.children →
      Matches (some x) rest cs → Matches (some v) (wildcard :: rest) (c :: cs)

/-- One route before another in data order: at the first segment where they differ, the first
names a child of the value reached so far that comes before the one the second names. -/
inductive Before : Option Json → List String → List String → Prop
  | here {v x y : Json} {c d : String} {cs ds : List String} :
      List.Sublist [(c, x), (d, y)] v.children → Before (some v) (c :: cs) (d :: ds)
  | there {cur : Option Json} {c : String} {cs ds : List String} :
      Before (cur.bind (child · c)) cs ds → Before cur (c :: cs) (c :: ds)

/-- The routes `expand` walks, as lists of segments, each with the value it reaches. -/
def expandRoutes : List String → Option Json → List (List String × Option Json)
  | [], cur => [([], cur)]
  | seg :: rest, cur =>
    if seg == wildcard then
      match cur with
      | some v => v.children.flatMap fun p => (expandRoutes rest (some p.2)).map fun r => (p.1 :: r.1, r.2)
      | none => []
    else (expandRoutes rest (cur.bind (child · seg))).map fun r => (seg :: r.1, r.2)

theorem expand_wildcard (rest : List String) (pre : String) (v : Json) :
    expand (wildcard :: rest) pre (some v) =
      v.children.flatMap fun p => expand rest (join pre p.1) (some p.2) := by
  cases v with
  | arr items => simp [expand, Json.children, List.flatMap_map]
  | obj fs => simp [expand, Json.children]
  | _ => simp [expand, Json.children]

theorem expand_plain {seg : String} (hseg : seg ≠ wildcard) (rest : List String) (pre : String)
    (cur : Option Json) :
    expand (seg :: rest) pre cur = expand rest (join pre seg) (cur.bind (child · seg)) := by
  simp [expand, hseg]

theorem expand_eq_map_expandRoutes (segs : List String) (pre : String) (cur : Option Json) :
    expand segs pre cur = (expandRoutes segs cur).map fun r => (r.1.foldl join pre, r.2) := by
  induction segs generalizing pre cur with
  | nil => rfl
  | cons seg rest ih =>
    by_cases hseg : seg = wildcard
    · subst hseg
      cases cur with
      | none => simp [expand, expandRoutes]
      | some v =>
        rw [expand_wildcard]
        simp [expandRoutes, List.map_flatMap, ih, Function.comp_def]
    · rw [expand_plain hseg, ih]
      simp [expandRoutes, hseg, Function.comp_def]

theorem matches_plain_iff {cur : Option Json} {seg : String} {rest cs : List String}
    (hseg : seg ≠ wildcard) :
    Matches cur (seg :: rest) cs ↔ ∃ cs', cs = seg :: cs' ∧ Matches (cur.bind (child · seg)) rest cs' := by
  constructor
  · rintro (_ | ⟨-, h⟩ | ⟨-, -⟩)
    · exact ⟨_, rfl, h⟩
    · exact absurd rfl hseg
  · rintro ⟨cs', rfl, h⟩
    exact .plain hseg h

theorem matches_wild_iff {cur : Option Json} {rest cs : List String} :
    Matches cur (wildcard :: rest) cs ↔
      ∃ v, cur = some v ∧ ∃ p ∈ v.children, ∃ cs', cs = p.1 :: cs' ∧ Matches (some p.2) rest cs' := by
  constructor
  · rintro (_ | ⟨hseg, -⟩ | ⟨hp, h⟩)
    · exact absurd rfl hseg
    · exact ⟨_, rfl, _, hp, _, rfl, h⟩
  · rintro ⟨v, rfl, ⟨c, x⟩, hp, cs', rfl, h⟩
    exact .wild hp h

theorem Matches.length_eq {cur : Option Json} {segs cs : List String} (h : Matches cur segs cs) :
    cs.length = segs.length := by
  induction h with
  | nil => rfl
  | plain _ _ ih => simp [ih]
  | wild _ _ ih => simp [ih]

theorem exists_cons_route {α : Type} {c : String} {l : List (List String × α)} {cs : List String} :
    (∃ r ∈ l, c :: r.1 = cs) ↔ ∃ cs', cs = c :: cs' ∧ ∃ r ∈ l, r.1 = cs' := by
  constructor
  · rintro ⟨r, hr, rfl⟩
    exact ⟨r.1, rfl, r, hr, rfl⟩
  · rintro ⟨cs', rfl, r, hr, rfl⟩
    exact ⟨r, hr, rfl⟩

theorem mem_expandRoutes_iff (segs : List String) (cur : Option Json) (cs : List String) :
    cs ∈ (expandRoutes segs cur).map (·.1) ↔ Matches cur segs cs := by
  induction segs generalizing cur cs with
  | nil =>
    simp only [expandRoutes, List.map_cons, List.map_nil, List.mem_singleton]
    constructor
    · rintro rfl
      exact .nil cur
    · rintro ⟨⟩
      rfl
  | cons seg rest ih =>
    by_cases hseg : seg = wildcard
    · subst hseg
      rw [matches_wild_iff]
      cases cur with
      | none => simp [expandRoutes]
      | some v =>
        simp only [expandRoutes, beq_self_eq_true, if_true, List.map_flatMap, List.mem_flatMap,
          List.map_map, Function.comp_def, Option.some.injEq, exists_eq_left']
        refine exists_congr fun p => and_congr_right fun _ => ?_
        simp only [← ih, List.mem_map]
        exact exists_cons_route
    · simp only [matches_plain_iff hseg, ← ih, expandRoutes, beq_iff_eq, hseg, if_false,
        List.map_map, Function.comp_def, List.mem_map]
      exact exists_cons_route

theorem value_of_mem_expandRoutes {segs : List String} {cur : Option Json}
    (hwf : ∀ v ∈ cur, v.WellFormed) {r : List String × Option Json}
    (h : r ∈ expandRoutes segs cur) : r.2 = cur.bind (r.1.foldlM child) := by
  induction segs generalizing cur r with
  | nil =>
    simp only [expandRoutes, List.mem_singleton] at h
    subst h
    cases cur <;> rfl
  | cons seg rest ih =>
    by_cases hseg : seg = wildcard
    · subst hseg
      cases cur with
      | none => simp [expandRoutes] at h
      | some v =>
        simp only [expandRoutes, beq_self_eq_true, if_true, List.mem_flatMap, List.mem_map] at h
        obtain ⟨⟨c, x⟩, hp, r', hr', rfl⟩ := h
        obtain ⟨hchild, hx⟩ := (hwf v rfl).child_of_mem hp
        rw [ih (fun w hw => Option.some.inj hw ▸ hx) hr']
        simp [List.foldlM_cons, hchild]
    · simp only [expandRoutes, beq_iff_eq, hseg, if_false, List.mem_map] at h
      obtain ⟨r', hr', rfl⟩ := h
      rw [ih (Json.WellFormed.bind_child hwf seg) hr']
      cases cur <;> simp [List.foldlM_cons]

theorem expandRoutes_pairwise (segs : List String) {cur : Option Json}
    (hwf : ∀ v ∈ cur, v.WellFormed) :
    (expandRoutes segs cur).Pairwise fun r r' => Before cur r.1 r'.1 := by
  induction segs generalizing cur with
  | nil => simp [expandRoutes]
  | cons seg rest ih =>
    by_cases hseg : seg = wildcard
    · subst hseg
      cases cur with
      | none => simp [expandRoutes]
      | some v =>
        simp only [expandRoutes, beq_self_eq_true, if_true, List.pairwise_flatMap,
          List.pairwise_map]
        refine ⟨fun p hp => ?_, ?_⟩
        · -- routes through one child keep the order they have below it
          obtain ⟨hchild, hx⟩ := (hwf v rfl).child_of_mem hp
          refine (ih fun w hw => Option.some.inj hw ▸ hx).imp fun hb => .there ?_
          simpa [hchild] using hb
        · -- routes through different children go in the children's order
          refine List.pairwise_iff_forall_sublist.2 fun {p q} hpq => ?_
          simp only [List.mem_map]
          rintro _ ⟨r, -, rfl⟩ _ ⟨r', -, rfl⟩
          exact .here hpq
    · simp only [expandRoutes, beq_iff_eq, hseg, if_false, List.pairwise_map]
      exact (ih (Json.WellFormed.bind_child hwf seg)).imp .there

theorem Before.ne {cur : Option Json} {cs ds : List String} (h : Before cur cs ds)
    (hwf : ∀ v ∈ cur, v.WellFormed) : cs ≠ ds := by
  induction h with
  | @here v x y c d cs ds hsub =>
    rintro heq
    obtain ⟨rfl, -⟩ := List.cons.inj heq
    have hkeys := (hwf v rfl).children_nodup.sublist (hsub.map (·.1))
    simp at hkeys
  | @there cur c cs ds _ ih =>
    exact fun heq => ih (Json.WellFormed.bind_child hwf c) (List.cons.inj heq).2

theorem expandRoutes_of_plain {segs : List String} (h : wildcard ∉ segs) (cur : Option Json) :
    (expandRoutes segs cur).map (·.1) = [segs] := by
  induction segs generalizing cur with
  | nil => rfl
  | cons seg rest ih =>
    have hseg : seg ≠ wildcard := fun heq => h (heq ▸ List.mem_cons_self)
    have hrest := ih (fun hw => h (List.mem_cons_of_mem seg hw)) (cur.bind (child · seg))
    simp only [expandRoutes, beq_iff_eq, hseg, if_false, List.map_map]
    rw [show (Prod.fst ∘ fun r : List String × Option Json => (seg :: r.1, r.2)) =
      (seg :: ·) ∘ Prod.fst from rfl, ← List.map_map, hrest]
    rfl

theorem foldl_join_of_ne_empty {pre : String} (h : pre ≠ "") (cs : List String) :
    cs.foldl join pre = ".".intercalate (pre :: cs) := by
  induction cs generalizing pre with
  | nil => simp
  | cons c rest ih =>
    have hjoin : join pre c = pre ++ "." ++ c := by simp [join, String.isEmpty_iff, h]
    have hne : pre ++ "." ++ c ≠ "" := by
      intro heq
      simpa using congrArg String.length heq
    rw [List.foldl_cons, hjoin, ih hne, String.intercalate_cons_append,
      String.intercalate_cons_cons]

/-- A route's text is its segments joined by `.`, its leading empty segments left out: joining
onto the empty path adds no dot. -/
theorem foldl_join_empty (cs : List String) :
    cs.foldl join "" = ".".intercalate (cs.dropWhile String.isEmpty) := by
  induction cs with
  | nil => rfl
  | cons c rest ih =>
    have hjoin : join "" c = c := rfl
    rw [List.foldl_cons, hjoin, List.dropWhile_cons]
    by_cases hc : c = ""
    · subst hc
      simpa using ih
    · have hc' : c.isEmpty = false := by simpa [String.isEmpty_iff] using hc
      rw [if_neg (by simp [hc']), foldl_join_of_ne_empty hc]

theorem splitChar_intercalate {sep : Char} :
    ∀ {fs : List (List Char)}, fs ≠ [] → (∀ f ∈ fs, sep ∉ f) → splitChar sep ([sep].intercalate fs) = fs
  | [f], _, h => by simpa using splitChar_of_not_mem (h f List.mem_cons_self)
  | f :: g :: rest, _, h => by
    rw [List.intercalate_cons_cons, List.append_assoc, List.singleton_append,
      splitChar_append_sep (h f List.mem_cons_self),
      splitChar_intercalate (List.cons_ne_nil _ _) fun f' hf' => h f' (List.mem_cons_of_mem _ hf')]

theorem segments_intercalate {cs : List String} (hdot : ∀ c ∈ cs, '.' ∉ c.toList)
    (hne : cs ≠ [""]) : segments (".".intercalate cs) = cs := by
  cases cs with
  | nil => rfl
  | cons c rest =>
    have hchars : (".".intercalate (c :: rest)).toList ≠ [] := by
      cases rest with
      | nil => simpa using hne
      | cons d rest => simp
    unfold segments
    rw [if_neg (by simpa [String.isEmpty_iff, ← String.toList_inj] using hchars),
      String.toList_intercalate, show ".".toList = ['.'] from rfl,
      splitChar_intercalate (by simp) (by simpa using hdot)]
    simp

theorem dropWhile_isEmpty_ne (l : List String) : l.dropWhile String.isEmpty ≠ [""] := by
  induction l with
  | nil => simp
  | cons c rest ih =>
    rw [List.dropWhile_cons]
    split
    · exact ih
    · rintro ⟨⟩
      simp_all

theorem eq_of_intercalate_dropWhile {cs ds : List String} (hlen : cs.length = ds.length)
    (hcs : ∀ c ∈ cs, '.' ∉ c.toList) (hds : ∀ d ∈ ds, '.' ∉ d.toList)
    (h : ".".intercalate (cs.dropWhile String.isEmpty) = ".".intercalate (ds.dropWhile String.isEmpty)) :
    cs = ds := by
  have hdrop : cs.dropWhile String.isEmpty = ds.dropWhile String.isEmpty := by
    rw [← segments_intercalate (fun c hc => hcs c (List.dropWhile_subset _ hc)) (dropWhile_isEmpty_ne cs),
      h, segments_intercalate (fun d hd => hds d (List.dropWhile_subset _ hd)) (dropWhile_isEmpty_ne ds)]
  -- what is left out is a run of empty segments, as long in both
  have hsplit := (List.takeWhile_append_dropWhile (p := String.isEmpty) (l := cs)).symm
  have hsplit' := (List.takeWhile_append_dropWhile (p := String.isEmpty) (l := ds)).symm
  have hempty : ∀ l : List String, l.takeWhile String.isEmpty = List.replicate (l.takeWhile String.isEmpty).length "" := by
    intro l
    refine List.eq_replicate_iff.2 ⟨rfl, fun b hb => ?_⟩
    exact String.isEmpty_iff.1 (List.all_eq_true.1 List.all_takeWhile b hb)
  have htake : (cs.takeWhile String.isEmpty).length = (ds.takeWhile String.isEmpty).length := by
    have h1 := congrArg List.length hsplit
    have h2 := congrArg List.length hsplit'
    rw [List.length_append, hdrop] at h1
    rw [List.length_append] at h2
    omega
  rw [hsplit, hsplit', hdrop, hempty cs, hempty ds, htake]

theorem dropWhile_isEmpty_of_head {cs : List String} (h : cs.head? ≠ some "") :
    cs.dropWhile String.isEmpty = cs := by
  cases cs with
  | nil => rfl
  | cons c rest =>
    have hc : c.isEmpty = false := by simpa [String.isEmpty_iff] using h
    simp [hc]

/-- Resolving a pattern in well-formed data lists the routes the pattern matches, in data order,
each with the value a read along its segments finds. A route is written as its segments joined
by `.` with its leading empty segments left out. Where no segment a wildcard takes holds a `.`,
the texts listed are distinct, and the text of a route that does not begin with an empty segment
reads back the value listed with it. A pattern without a wildcard matches one route, its own
segments. -/
theorem resolve_lists_matching_routes (data : Json) (pattern : String) (hwf : data.WellFormed)
    (hdot : ∀ cs, Matches (some data) (segments pattern) cs → ∀ c ∈ cs, '.' ∉ c.toList) :
    ∃ routes : List (List String),
      resolve data pattern =
        routes.map (fun cs => (".".intercalate (cs.dropWhile String.isEmpty), cs.foldlM child data)) ∧
      (∀ cs, cs ∈ routes ↔ Matches (some data) (segments pattern) cs) ∧
      routes.Pairwise (Before (some data)) ∧
      ((resolve data pattern).map (·.1)).Nodup ∧
      (∀ cs ∈ routes, cs.head? ≠ some "" →
        lookup data (".".intercalate (cs.dropWhile String.isEmpty)) = cs.foldlM child data) ∧
      (wildcard ∉ segments pattern → routes = [segments pattern]) := by
  have hwf' : ∀ v ∈ some data, v.WellFormed := fun v hv => Option.some.inj hv ▸ hwf
  have hmem := mem_expandRoutes_iff (segments pattern) (some data)
  have hpairwise := expandRoutes_pairwise (segments pattern) hwf'
  have hresolve : resolve data pattern =
      ((expandRoutes (segments pattern) (some data)).map (·.1)).map
        (fun cs => (".".intercalate (cs.dropWhile String.isEmpty), cs.foldlM child data)) := by
    rw [resolve, expand_eq_map_expandRoutes, List.map_map]
    refine List.map_congr_left fun r hr => ?_
    simp [foldl_join_empty, value_of_mem_expandRoutes hwf' hr]
  refine ⟨_, hresolve, hmem, List.pairwise_map.2 hpairwise, ?_, fun cs hcs hhead => ?_,
    fun h => expandRoutes_of_plain h _⟩
  · -- the routes are distinct, all of the pattern's length, so their texts are distinct
    have hnodup : ((expandRoutes (segments pattern) (some data)).map (·.1)).Nodup :=
      List.pairwise_map.2 (hpairwise.imp fun hb => hb.ne hwf')
    rw [hresolve, List.map_map]
    refine hnodup.map_on fun cs hcs ds hds heq => ?_
    have hm := (hmem cs).1 hcs
    have hm' := (hmem ds).1 hds
    exact eq_of_intercalate_dropWhile (hm.length_eq.trans hm'.length_eq.symm) (hdot cs hm)
      (hdot ds hm') heq
  · rw [dropWhile_isEmpty_of_head hhead, lookup,
      segments_intercalate (hdot cs ((hmem cs).1 hcs)) fun h => hhead (by simp [h])]

/-- The prices of an order's items: the data is well formed and no key holds a dot, so the two
prices are listed once each, in the items' order, under texts that read them back. -/
theorem item_prices_resolve_in_order :
    let data := Json.obj [("items", .arr [.obj [("price", .num (.nat 1))], .obj [("price", .num (.nat 2))]])]
    data.WellFormed ∧
      (∀ cs, Matches (some data) (segments "items.*.price") cs → ∀ c ∈ cs, '.' ∉ c.toList) ∧
      ∃ routes : List (List String),
        resolve data "items.*.price" =
          routes.map (fun cs => (".".intercalate (cs.dropWhile String.isEmpty), cs.foldlM child data)) ∧
        (∀ cs, cs ∈ routes ↔ Matches (some data) (segments "items.*.price") cs) ∧
        routes.Pairwise (Before (some data)) ∧
        ((resolve data "items.*.price").map (·.1)).Nodup ∧
        (∀ cs ∈ routes, cs.head? ≠ some "" →
          lookup data (".".intercalate (cs.dropWhile String.isEmpty)) = cs.foldlM child data) ∧
        (wildcard ∉ segments "items.*.price" → routes = [segments "items.*.price"]) := by
  intro data
  have hprice : ∀ n, (Json.obj [("price", .num (.nat n))]).WellFormed := fun n =>
    .obj (by simp) fun p hp => .leaf (by simp at hp; simp [hp, Json.shape])
  have hwf : data.WellFormed := by
    refine .obj (by simp) fun p hp => ?_
    simp only [List.mem_singleton] at hp
    subst hp
    refine .arr (by simp) fun x hx => ?_
    simp only [List.mem_cons, List.not_mem_nil, or_false] at hx
    rcases hx with rfl | rfl <;> exact hprice _
  have hdot : ∀ cs, Matches (some data) (segments "items.*.price") cs → ∀ c ∈ cs, '.' ∉ c.toList := by
    intro cs hm
    -- the routes walked are the pattern's routes, and they can be computed
    suffices h : ∀ cs ∈ (expandRoutes (segments "items.*.price") (some data)).map (·.1),
        ∀ c ∈ cs, '.' ∉ c.toList from h cs ((mem_expandRoutes_iff _ _ cs).2 hm)
    decide +kernel
  exact ⟨hwf, hdot, resolve_lists_matching_routes data "items.*.price" hwf hdot⟩

/-- An empty key under a root wildcard: the route through it and its member `x` is written `x`,
the text of the root's own member `x`, which a read of that text finds instead. -/
theorem empty_key_route_reads_elsewhere :
    resolve (.obj [("", .obj [("x", .num (.nat 1))]), ("x", .num (.nat 2))]) "*.x" =
        [("x", some (.num (.nat 1))), ("x.x", none)] ∧
      lookup (.obj [("", .obj [("x", .num (.nat 1))]), ("x", .num (.nat 2))]) "x" =
        some (.num (.nat 2)) :=
  ⟨rfl, rfl⟩

end Path

end FieldRules

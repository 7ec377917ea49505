import FieldRules.Proofs.PathResolve

namespace FieldRules

namespace Path

/-- How many leading segments reach the last wildcard: one past its position, none without one. -/
def wildcardSpan : List String → Nat
  | [] => 0
  | seg :: rest => if seg == wildcard || wildcardSpan rest != 0 then wildcardSpan rest + 1 else 0

/-- The pattern's segments with each wildcard replaced by the concrete segment at its position,
as far as the concrete segments go. -/
def fillWildcards : List String → List String → List String
  | seg :: rest, c :: cs => (if seg == wildcard then c else seg) :: fillWildcards rest cs
  | segs, _ => segs

/-- Agreement up to the last wildcard: a wildcard, or the same segment. -/
def Agrees (q s : String) : Prop := q = wildcard ∨ q = s

theorem wildcardSpan_eq_zero {segs : List String} : wildcardSpan segs = 0 ↔ wildcard ∉ segs := by
  induction segs with
  | nil => simp [wildcardSpan]
  | cons seg rest ih =>
    by_cases hs : seg = wildcard
    · simp [wildcardSpan, hs]
    · by_cases hr : wildcardSpan rest = 0
      · simp [wildcardSpan, hs, hr, ih.1 hr, Ne.symm hs]
      · have hmem : wildcard ∈ rest := by_contra fun h => hr (ih.2 h)
        simp [wildcardSpan, hr, hmem]

theorem wildcardSpan_cons_of_ne_zero {seg : String} {rest : List String}
    (h : wildcardSpan (seg :: rest) ≠ 0) : wildcardSpan (seg :: rest) = wildcardSpan rest + 1 := by
  simp only [wildcardSpan] at h ⊢
  split <;> simp_all

theorem wildcardSpan_le_length (segs : List String) : wildcardSpan segs ≤ segs.length := by
  induction segs with
  | nil => simp [wildcardSpan]
  | cons seg rest ih =>
    simp only [wildcardSpan, List.length_cons]
    split <;> omega

theorem wildcard_not_mem_drop_span (segs : List String) :
    wildcard ∉ segs.drop (wildcardSpan segs) := by
  induction segs with
  | nil => simp
  | cons seg rest ih =>
    simp only [wildcardSpan]
    split
    · simpa using ih
    · rename_i h
      simp only [Bool.or_eq_true, beq_iff_eq, bne_iff_ne, ne_eq, not_or, not_not] at h
      simpa [Ne.symm h.1] using wildcardSpan_eq_zero.1 h.2

theorem fillWildcards_of_not_mem {segs : List String} (h : wildcard ∉ segs) (cs : List String) :
    fillWildcards segs cs = segs := by
  induction segs generalizing cs with
  | nil => cases cs <;> rfl
  | cons seg rest ih =>
    have hs : seg ≠ wildcard := fun hs => h (hs ▸ List.mem_cons_self)
    cases cs with
    | nil => rfl
    | cons c cs =>
      simp [fillWildcards, hs, ih (fun hr => h (List.mem_cons_of_mem _ hr))]

theorem mem_alignSegments {segs cs : List String} {s : String} (h : s ∈ alignSegments segs cs) :
    s ∈ segs ∨ s ∈ cs := by
  fun_induction alignSegments segs cs with
  | case1 => simp at h
  | case2 segs => exact .inl h
  | case3 seg rest c cs hw ih =>
    rcases List.mem_cons.1 h with rfl | h
    · exact .inr List.mem_cons_self
    · exact (ih h).imp (List.mem_cons_of_mem _) (List.mem_cons_of_mem _)
  | case4 seg rest c cs hw heq ih =>
    rcases List.mem_cons.1 h with rfl | h
    · exact .inl List.mem_cons_self
    · exact (ih h).imp (List.mem_cons_of_mem _) (List.mem_cons_of_mem _)
  | case5 seg rest c cs => exact .inl h

theorem alignSegments_forall₂ (segs cs : List String) :
    List.Forall₂ (fun q s => q = wildcard ∨ s = q) segs (alignSegments segs cs) := by
  fun_induction alignSegments segs cs with
  | case1 => exact .nil
  | case2 segs => exact List.forall₂_same.2 fun _ _ => .inr rfl
  | case3 seg rest c cs hw ih => exact .cons (.inl (by simpa using hw)) ih
  | case4 seg rest c cs hw heq ih => exact .cons (.inr rfl) ih
  | case5 seg rest c cs => exact List.forall₂_same.2 fun _ _ => .inr rfl

theorem alignSegments_of_not_mem {segs : List String} (h : wildcard ∉ segs) (cs : List String) :
    alignSegments segs cs = segs := by
  have h₂ := alignSegments_forall₂ segs cs
  have hlen := h₂.length_eq
  refine (List.ext_getElem hlen.symm fun i hi hi' => ?_)
  rcases List.forall₂_iff_get.1 h₂ |>.2 i hi' hi with hw | heq
  · exact absurd (hw ▸ List.getElem_mem hi') h
  · exact heq

/-- Agreeing with the concrete path up to the last wildcard, alignment fills every wildcard. By
induction on the pattern, along the concrete path. -/
theorem alignSegments_of_agrees {segs cs : List String}
    (h : List.Forall₂ Agrees (segs.take (wildcardSpan segs)) (cs.take (wildcardSpan segs))) :
    alignSegments segs cs = fillWildcards segs cs := by
  induction segs generalizing cs with
  | nil => cases cs <;> rfl
  | cons seg rest ih =>
    cases cs with
    | nil => rfl
    | cons c cs =>
      by_cases hspan : wildcardSpan (seg :: rest) = 0
      · -- no wildcard at all: the pattern is kept whatever happens
        have hnone := wildcardSpan_eq_zero.1 hspan
        rw [alignSegments_of_not_mem hnone, fillWildcards_of_not_mem hnone]
      · rw [wildcardSpan_cons_of_ne_zero hspan, List.take_succ_cons, List.take_succ_cons] at h
        obtain ⟨hseg, hrest⟩ := List.forall₂_cons.1 h
        rcases hseg with rfl | rfl
        · simp [alignSegments, fillWildcards, ih hrest, wildcard]
        · simp [alignSegments, fillWildcards, ih hrest]

theorem fillWildcards_of_agrees {segs cs : List String}
    (h : List.Forall₂ Agrees (segs.take (wildcardSpan segs)) (cs.take (wildcardSpan segs))) :
    fillWildcards segs cs = cs.take (wildcardSpan segs) ++ segs.drop (wildcardSpan segs) := by
  induction segs generalizing cs with
  | nil => cases cs <;> rfl
  | cons seg rest ih =>
    by_cases hspan : wildcardSpan (seg :: rest) = 0
    · rw [hspan, fillWildcards_of_not_mem (wildcardSpan_eq_zero.1 hspan)]
      simp
    · rw [wildcardSpan_cons_of_ne_zero hspan] at h ⊢
      cases cs with
      | nil => simp at h
      | cons c cs =>
        rw [List.take_succ_cons, List.take_succ_cons] at h
        obtain ⟨hseg, hrest⟩ := List.forall₂_cons.1 h
        have hfill : (if seg == wildcard then c else seg) = c := by
          rcases hseg with rfl | rfl <;> simp
        rw [fillWildcards, hfill, ih hrest]
        simp

theorem not_mem_of_mem_splitChar {sep : Char} {cs f : List Char} (h : f ∈ splitChar sep cs) :
    sep ∉ f := by
  induction cs generalizing f with
  | nil => simp_all [splitChar]
  | cons c cs ih =>
    unfold splitChar at h
    split at h
    · rename_i hnil
      exact absurd hnil (splitChar_ne_nil sep cs)
    · rename_i p ps hsplit
      split at h
      · rename_i hc
        rcases List.mem_cons.1 h with rfl | h
        · simp
        · exact ih (hsplit ▸ h)
      · rename_i hc
        rcases List.mem_cons.1 h with rfl | h
        · have hp := ih (f := p) (by rw [hsplit]; exact List.mem_cons_self)
          simp only [List.mem_cons, not_or]
          exact ⟨fun he => hc (by simp [he]), hp⟩
        · exact ih (by rw [hsplit]; exact List.mem_cons_of_mem _ h)

theorem sublist_of_mem_splitChar {sep : Char} {cs f : List Char} (h : f ∈ splitChar sep cs) :
    f.Sublist cs := by
  induction cs generalizing f with
  | nil => simp_all [splitChar]
  | cons c cs ih =>
    unfold splitChar at h
    split at h
    · simp_all
    · rename_i p ps hsplit
      have hp : p.Sublist cs := ih (by rw [hsplit]; exact List.mem_cons_self)
      have hps : ∀ q ∈ ps, q.Sublist cs := fun q hq => ih (by rw [hsplit]; exact List.mem_cons_of_mem _ hq)
      split at h
      · rcases List.mem_cons.1 h with rfl | h
        · exact List.nil_sublist _
        · rcases List.mem_cons.1 h with rfl | h
          · exact hp.cons c
          · exact (hps f h).cons c
      · rcases List.mem_cons.1 h with rfl | h
        · exact hp.cons_cons c
        · exact (hps f h).cons c

theorem toList_sublist_of_mem_segments {path s : String} (h : s ∈ segments path) :
    s.toList.Sublist path.toList := by
  unfold segments at h
  split at h
  · simp at h
  · obtain ⟨f, hf, rfl⟩ := List.mem_map.1 h
    simpa using sublist_of_mem_splitChar hf

theorem dot_not_mem_of_mem_segments {path s : String} (h : s ∈ segments path) : '.' ∉ s.toList := by
  unfold segments at h
  split at h
  · simp at h
  · obtain ⟨f, hf, rfl⟩ := List.mem_map.1 h
    simpa using not_mem_of_mem_splitChar hf

theorem intercalate_segments (path : String) : ".".intercalate (segments path) = path := by
  unfold segments
  split
  · rename_i h
    simp [String.isEmpty_iff.1 h]
  · rw [← String.toList_inj, String.toList_intercalate, List.map_map]
    simpa [Function.comp_def] using intercalate_splitChar '.' path.toList

theorem segments_ne_singleton_empty (path : String) : segments path ≠ [""] := by
  intro h
  have hp := intercalate_segments path
  rw [h] at hp
  simp only [String.intercalate_singleton] at hp
  subst hp
  simp [segments] at h

theorem align_eq_intercalate (pattern concrete : String) :
    align pattern concrete = ".".intercalate (alignSegments (segments pattern) (segments concrete)) := by
  unfold align
  split
  · rename_i h
    -- a pattern without `*` has no wildcard segment
    have hnone : wildcard ∉ segments pattern := by
      intro hw
      have hstar : '*' ∈ pattern.toList :=
        (toList_sublist_of_mem_segments hw).subset (by simp [wildcard])
      simp [hstar] at h
    rw [alignSegments_of_not_mem hnone, intercalate_segments]
  · rfl

/-- An aligned reference reads back as its aligned segments, unless these are one empty segment:
the root path, which has none. -/
theorem segments_align (pattern concrete : String) :
    segments (align pattern concrete) = alignSegments (segments pattern) (segments concrete) ∨
      (alignSegments (segments pattern) (segments concrete) = [""] ∧ align pattern concrete = "") := by
  rw [align_eq_intercalate]
  by_cases hroot : alignSegments (segments pattern) (segments concrete) = [""]
  · exact .inr ⟨hroot, by simp [hroot]⟩
  · refine .inl (segments_intercalate (fun s hs => ?_) hroot)
    rcases mem_alignSegments hs with hs | hs <;> exact dot_not_mem_of_mem_segments hs

theorem Matches.forall₂_agrees {cur : Option Json} {segs cs : List String}
    (h : Matches cur segs cs) : List.Forall₂ Agrees segs cs := by
  induction h with
  | nil => exact .nil
  | plain _ _ ih => exact .cons (.inr rfl) ih
  | wild _ _ ih => exact .cons (.inl rfl) ih

theorem exists_route_of_mem_resolve {data : Json} {pattern path : String}
    (h : path ∈ (resolve data pattern).map (·.1)) :
    ∃ cs, Matches (some data) (segments pattern) cs ∧
      path = ".".intercalate (cs.dropWhile String.isEmpty) := by
  rw [resolve, expand_eq_map_expandRoutes, List.map_map] at h
  obtain ⟨r, hr, rfl⟩ := List.mem_map.1 h
  refine ⟨r.1, (mem_expandRoutes_iff _ _ r.1).1 (List.mem_map_of_mem hr), ?_⟩
  simp [foldl_join_empty]

/-- A rule running on an instance of a pattern reads, through a reference that agrees with the
pattern up to its last wildcard, the rest of the reference from the element the instance reaches
there, when the pattern's routes have no key holding a dot and none starts with an empty key. -/
theorem lookup_align_of_instance {data : Json} {pattern ref path : String}
    (hroutes : ∀ cs, Matches (some data) (segments pattern) cs →
      (∀ s ∈ cs, '.' ∉ s.toList) ∧ cs.head? ≠ some "")
    (hagree : (segments ref).take (wildcardSpan (segments ref)) =
      (segments pattern).take (wildcardSpan (segments ref)))
    (hpath : path ∈ (resolve data pattern).map (·.1)) :
    lookup data (align ref path) =
      (((segments path).take (wildcardSpan (segments ref))).foldlM child data).bind fun v =>
        ((segments ref).drop (wildcardSpan (segments ref))).foldlM child v := by
  set k := wildcardSpan (segments ref)
  obtain ⟨cs, hm, rfl⟩ := exists_route_of_mem_resolve hpath
  obtain ⟨hdot, hhead⟩ := hroutes cs hm
  -- the path reads back as its route
  have hsegs : segments (".".intercalate (cs.dropWhile String.isEmpty)) = cs := by
    rw [dropWhile_isEmpty_of_head hhead]
    exact segments_intercalate hdot fun h => hhead (by simp [h])
  have hag : List.Forall₂ Agrees ((segments ref).take k) (cs.take k) := by
    rw [hagree]
    exact List.forall₂_take k hm.forall₂_agrees
  have hL : alignSegments (segments ref) cs = cs.take k ++ (segments ref).drop k := by
    rw [alignSegments_of_agrees hag, fillWildcards_of_agrees hag]
  -- the aligned segments are not the root's single empty segment
  have hne : cs.take k ++ (segments ref).drop k ≠ [""] := by
    intro h
    rcases List.append_eq_singleton_iff.1 h with ⟨htake, hdrop⟩ | ⟨htake, -⟩
    · have hk : k = 0 := by
        have hlen := hag.length_eq
        rw [htake, List.length_take, List.length_nil] at hlen
        have := wildcardSpan_le_length (segments ref)
        omega
      rw [hk, List.drop_zero] at hdrop
      exact segments_ne_singleton_empty ref hdrop
    · apply hhead
      have := congrArg List.head? htake
      rwa [List.head?_take, if_neg (by intro hk; simp [hk] at htake)] at this
  rw [lookup]
  rcases segments_align ref (".".intercalate (cs.dropWhile String.isEmpty)) with h | ⟨h, -⟩
  · rw [h, hsegs, hL, List.foldlM_append]
    rfl
  · rw [hsegs, hL] at h
    exact absurd h hne

/-- Aligning a reference pattern to a concrete path. A pattern without `*` is kept. The aligned
reference is its aligned segments joined by dots: one for each segment of the pattern, equal to
it but at wildcards, and read back from the text unless they are one empty segment, the root
path, which has none. When the concrete path agrees with the pattern up to its last wildcard (and
so has at least as many segments), every wildcard is filled from it: the aligned segments are the
concrete path's up to there and the pattern's after, with no wildcard unless the concrete path
has one there. And a rule running on an instance of a pattern that the reference agrees with up
to its last wildcard reads the rest of the reference from the element the instance reaches there,
when no route of the pattern has a key holding a dot or starts with an empty key. -/
theorem align_fills_wildcards_up_to_last (ref concrete : String) :
    ('*' ∉ ref.toList → align ref concrete = ref) ∧
    align ref concrete = ".".intercalate (alignSegments (segments ref) (segments concrete)) ∧
    List.Forall₂ (fun q s => q = wildcard ∨ s = q) (segments ref)
      (alignSegments (segments ref) (segments concrete)) ∧
    (segments (align ref concrete) = alignSegments (segments ref) (segments concrete) ∨
      (alignSegments (segments ref) (segments concrete) = [""] ∧ align ref concrete = "")) ∧
    (List.Forall₂ Agrees ((segments ref).take (wildcardSpan (segments ref)))
        ((segments concrete).take (wildcardSpan (segments ref))) →
      alignSegments (segments ref) (segments concrete) =
        fillWildcards (segments ref) (segments concrete) ∧
      alignSegments (segments ref) (segments concrete) =
        (segments concrete).take (wildcardSpan (segments ref)) ++
          (segments ref).drop (wildcardSpan (segments ref)) ∧
      (wildcard ∉ (segments concrete).take (wildcardSpan (segments ref)) →
        wildcard ∉ segments (align ref concrete))) ∧
    (∀ ctx : Context,
      (∀ cs, Matches (some ctx.data) (segments ctx.pattern) cs →
        (∀ s ∈ cs, '.' ∉ s.toList) ∧ cs.head? ≠ some "") →
      (segments ref).take (wildcardSpan (segments ref)) =
        (segments ctx.pattern).take (wildcardSpan (segments ref)) →
      ctx.field ∈ (resolve ctx.data ctx.pattern).map (·.1) →
      ctx.lookup ref =
        (((segments ctx.field).take (wildcardSpan (segments ref))).foldlM child ctx.data).bind
          fun v => ((segments ref).drop (wildcardSpan (segments ref))).foldlM child v) := by
  refine ⟨fun h => ?_, align_eq_intercalate ref concrete, alignSegments_forall₂ _ _,
    segments_align ref concrete, fun hag => ?_, fun ctx hroutes hagree hfield =>
      lookup_align_of_instance hroutes hagree hfield⟩
  · simp [align, h]
  · have hfill := fillWildcards_of_agrees hag
    have hL := alignSegments_of_agrees hag
    refine ⟨hL, hL.trans hfill, fun hc hw => ?_⟩
    -- a wildcard left would be the concrete path's or come after the last one
    rcases segments_align ref concrete with h | ⟨-, h⟩
    · rw [h, hL, hfill] at hw
      rcases List.mem_append.1 hw with hw | hw
      · exact hc hw
      · exact wildcard_not_mem_drop_span _ hw
    · simp [h, segments] at hw

end Path

/-- An item's kind read from a rule on its quantity: the reference `items.*.kind` aligned to the
field `items.1.qty` reads the kind of the second item. -/
theorem item_kind_reference_aligns :
    let data := Json.obj [("items", .arr [.obj [("qty", .num (.nat 1)), ("kind", .str "a")],
      .obj [("qty", .num (.nat 2)), ("kind", .str "b")]])]
    let ctx : Context := ⟨data, Schema.empty, "items.*.qty", "items.1.qty",
      some (.num (.nat 2)), Config.default, ⟨Catalog.empty, none⟩, none, [], Rule.named "same",
      .base, []⟩
    Path.align "items.*.kind" "items.1.qty" = "items.1.kind" ∧
      ctx.lookup "items.*.kind" = some (.str "b") := by
  intro data ctx
  have h := Path.align_fills_wildcards_up_to_last "items.*.kind" "items.1.qty"
  have href : Path.segments "items.*.kind" = ["items", "*", "kind"] := rfl
  have hfield : Path.segments "items.1.qty" = ["items", "1", "qty"] := rfl
  have hpattern : Path.segments "items.*.qty" = ["items", "*", "qty"] := rfl
  have hroutes : ∀ cs, Path.Matches (some ctx.data) (Path.segments ctx.pattern) cs →
      (∀ s ∈ cs, '.' ∉ s.toList) ∧ cs.head? ≠ some "" := by
    intro cs hm
    suffices h : ∀ cs ∈ (Path.expandRoutes (Path.segments "items.*.qty") (some data)).map (·.1),
        (∀ s ∈ cs, '.' ∉ s.toList) ∧ cs.head? ≠ some "" from
      h cs ((Path.mem_expandRoutes_iff _ _ cs).2 hm)
    decide +kernel
  have hagree : List.Forall₂ Path.Agrees
      ((Path.segments "items.*.kind").take (Path.wildcardSpan (Path.segments "items.*.kind")))
      ((Path.segments "items.1.qty").take (Path.wildcardSpan (Path.segments "items.*.kind"))) := by
    rw [href, hfield]
    simp [Path.wildcardSpan, Path.Agrees, Path.wildcard]
  have hsame : (Path.segments "items.*.kind").take (Path.wildcardSpan (Path.segments "items.*.kind")) =
      (Path.segments ctx.pattern).take (Path.wildcardSpan (Path.segments "items.*.kind")) := by
    show _ = (Path.segments "items.*.qty").take _
    rw [href, hpattern]
    rfl
  have hmem : ctx.field ∈ (Path.resolve ctx.data ctx.pattern).map (·.1) := by decide +kernel
  refine ⟨?_, ?_⟩
  · rw [h.2.1, (h.2.2.2.2.1 hagree).2.1, href, hfield]
    rfl
  · rw [h.2.2.2.2.2 ctx hroutes hsame hmem]
    show ((List.take (Path.wildcardSpan (Path.segments "items.*.kind"))
      (Path.segments "items.1.qty")).foldlM Path.child data).bind _ = _
    rw [href, hfield]
    rfl

/-- A key holding a dot on an instance's route: `items.k.z.a` is the instance of `items.*.a`
through the key `k.z`, and `items.*.b`, which agrees with the pattern up to its wildcard, is
aligned to `items.k.b`, where nothing is found, while the item the instance belongs to has a
member `b`. -/
theorem dotted_key_reference_reads_elsewhere :
    let data := Json.obj [("items", .obj [("k.z", .obj [("a", .num (.nat 1)), ("b", .num (.nat 1))])])]
    (Path.resolve data "items.*.a").map (·.1) = ["items.k.z.a"] ∧
      Path.segments "items.*.b" = ["items", "*", "b"] ∧
      Path.segments "items.*.a" = ["items", "*", "a"] ∧
      Path.align "items.*.b" "items.k.z.a" = "items.k.b" ∧
      Path.lookup data "items.k.b" = none ∧
      ["items", "k.z", "b"].foldlM Path.child data = some (.num (.nat 1)) :=
  ⟨rfl, rfl, rfl, rfl, rfl, rfl⟩

end FieldRules

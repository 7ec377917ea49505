import Mathlib.Data.List.Nodup
import Mathlib.Data.List.Perm.Basic
import FieldRules.Report
import FieldRules.Proofs.AssocInsert
import FieldRules.Proofs.WriteOrder

namespace FieldRules

open scoped List

mutual
/-- The strings of a value, in order. -/
def Json.texts : Json → List String
  | .str s => [s]
  | .arr items => Json.itemTexts items
  | .obj fields => Json.memberTexts fields
  | _ => []

/-- The strings of array items, in order. -/
def Json.itemTexts : List Json → List String
  | [] => []
  | j :: js => j.texts ++ Json.itemTexts js

/-- The strings of member values, in order. -/
def Json.memberTexts : List (String × Json) → List String
  | [] => []
  | (_, j) :: fs => j.texts ++ Json.memberTexts fs
end

namespace Json

@[simp] theorem itemTexts_append (xs ys : List Json) :
    itemTexts (xs ++ ys) = itemTexts xs ++ itemTexts ys := by
  induction xs with
  | nil => rfl
  | cons x xs ih => simp [itemTexts, ih]

@[simp] theorem memberTexts_append (xs ys : List (String × Json)) :
    memberTexts (xs ++ ys) = memberTexts xs ++ memberTexts ys := by
  induction xs with
  | nil => rfl
  | cons x xs ih =>
    obtain ⟨k, j⟩ := x
    simp [memberTexts, ih]

theorem itemTexts_replicate_null (n : Nat) : itemTexts (List.replicate n .null) = [] := by
  induction n with
  | zero => rfl
  | succ n ih => simp [List.replicate_succ, itemTexts, texts, ih]

theorem itemTexts_set_null {out : List Json} {i : Nat} (h : out[i]? = some .null) (v : Json) :
    (itemTexts (out.set i v)).Perm (v.texts ++ itemTexts out) := by
  induction out generalizing i with
  | nil => cases h
  | cons x xs ih =>
    cases i with
    | zero =>
      cases h
      simp [itemTexts, texts]
    | succ i =>
      simp only [List.set_cons_succ, itemTexts]
      calc x.texts ++ itemTexts (xs.set i v)
          _ ~ x.texts ++ (v.texts ++ itemTexts xs) := (ih h).append_left _
          _ ~ v.texts ++ (x.texts ++ itemTexts xs) := List.perm_append_comm_assoc _ _ _

end Json

namespace Node

mutual
/-- Every message of a tree: a node's own, then its children's in order. -/
def allMessages : Node → List String
  | .mk ms cs => ms ++ childMessages cs

/-- The messages of children, in order. -/
def childMessages : List (String × Node) → List String
  | [] => []
  | (_, c) :: cs => c.allMessages ++ childMessages cs
end

mutual
/-- Whether rendering keeps every child of every node: a node with messages of its own has no
child keyed `_errors`, and children whose keys all read as array positions read as distinct
ones. -/
def keysSound : Node → Bool
  | .mk ms cs => (ms.isEmpty || !cs.any (·.1 == "_errors")) &&
      (positions cs).all (fun idx => decide idx.Nodup) && childrenSound cs

/-- Whether every child keeps every child of its own. -/
def childrenSound : List (String × Node) → Bool
  | [] => true
  | (_, c) :: cs => c.keysSound && childrenSound cs
end

mutual
/-- Whether the children of every node have distinct keys, as adding messages keeps them. -/
def KeysDistinct : Node → Prop
  | .mk _ cs => (cs.map (·.1)).Nodup ∧ ChildrenDistinct cs

/-- Whether every child has children with distinct keys. -/
def ChildrenDistinct : List (String × Node) → Prop
  | [] => True
  | (_, c) :: cs => c.KeysDistinct ∧ ChildrenDistinct cs
end

@[simp] theorem childMessages_append (xs ys : List (String × Node)) :
    childMessages (xs ++ ys) = childMessages xs ++ childMessages ys := by
  induction xs with
  | nil => rfl
  | cons x xs ih =>
    obtain ⟨k, c⟩ := x
    simp [childMessages, ih]

theorem childrenDistinct_iff {cs : List (String × Node)} :
    ChildrenDistinct cs ↔ ∀ e ∈ cs, e.2.KeysDistinct := by
  induction cs with
  | nil => simp [ChildrenDistinct]
  | cons e cs ih =>
    obtain ⟨k, c⟩ := e
    simp [ChildrenDistinct, ih]

theorem childrenSound_iff {cs : List (String × Node)} :
    childrenSound cs = true ↔ ∀ e ∈ cs, e.2.keysSound = true := by
  induction cs with
  | nil => simp [childrenSound]
  | cons e cs ih =>
    obtain ⟨k, c⟩ := e
    simp [childrenSound, ih]

theorem positions_cons (k : String) (c : Node) (cs : List (String × Node)) :
    positions ((k, c) :: cs) = (Path.parseIndex k).bind fun i => (positions cs).map (i :: ·) := by
  simp only [positions, List.mapM_cons]
  cases Path.parseIndex k <;> cases List.mapM (fun (x : String × Node) => Path.parseIndex x.1) cs <;>
    rfl

theorem positions_cons_eq_some {k : String} {c : Node} {cs : List (String × Node)}
    {idx : List Nat} (h : positions ((k, c) :: cs) = some idx) :
    ∃ i idx', Path.parseIndex k = some i ∧ positions cs = some idx' ∧ idx = i :: idx' := by
  rw [positions_cons] at h
  cases hk : Path.parseIndex k with
  | none => simp [hk] at h
  | some i =>
    cases hrest : positions cs with
    | none => simp [hk, hrest] at h
    | some idx' =>
      simp only [hk, hrest, Option.bind_some, Option.map_some, Option.some.injEq] at h
      exact ⟨i, idx', rfl, rfl, h.symm⟩

theorem renderMembers_keys (cs : List (String × Node)) (data : Option Json) :
    (renderMembers cs data).map (·.1) = cs.map (·.1) := by
  induction cs with
  | nil => simp [renderMembers]
  | cons e cs ih =>
    obtain ⟨k, c⟩ := e
    simp [renderMembers, ih]

theorem messageArray_texts (ms : List String) : (messageArray ms).texts = ms := by
  induction ms with
  | nil => rfl
  | cons m ms ih => simpa [messageArray, Json.texts, Json.itemTexts] using ih

/-- Rendering keeps every message of a tree none of whose nodes loses a child. By induction
along rendering: a leaf is its messages; the array form writes each child over its own `null`
slot, the positions being distinct; the object form keeps every child as a member and adds the
node's messages under a key no child has. -/
theorem render_texts :
    (∀ (n : Node) data, n.keysSound → (n.render data).texts.Perm n.allMessages) ∧
    (∀ cs data, childrenSound cs → (Json.memberTexts (renderMembers cs data)).Perm (childMessages cs)) ∧
    (∀ cs items out, childrenSound cs → ∀ idx, positions cs = some idx → idx.Nodup →
      (∀ i ∈ idx, out[i]? = some .null) →
      (Json.itemTexts (renderPositions cs items out)).Perm (childMessages cs ++ Json.itemTexts out)) := by
  refine Node.render.mutual_induct _ _ _ ?leaf ?array ?object ?members0 ?members ?positions0
    ?positions ?notPosition
  case leaf =>
    intro ms data _
    rw [render.eq_1, messageArray_texts]
    simp [allMessages, childMessages]
  case array =>
    intro ms c cs data form v hv ih hsound
    obtain ⟨k, child⟩ := c
    simp only [form] at hv
    simp only [keysSound, Bool.and_eq_true] at hsound
    obtain ⟨⟨-, hnodup⟩, hchildren⟩ := hsound
    -- the array form is taken: no own messages, an array, every key a position in range
    split at hv
    · next items idx hidx =>
      split at hv
      · next hlt =>
        rw [render.eq_2 _ _ items idx hidx]
        simp only [hlt, if_true, Json.texts]
        have hnd : idx.Nodup := by simpa [hidx] using hnodup
        have hnull : ∀ i ∈ idx, (List.replicate items.length Json.null)[i]? = some .null := by
          intro i hi
          have : i < items.length := by simpa using List.all_eq_true.1 hlt i hi
          simp [this]
        simpa [Json.itemTexts_replicate_null, allMessages] using ih items hchildren idx hidx hnd hnull
      · cases hv
    · cases hv
  case object =>
    intro ms c cs data form hform _ ih hsound
    obtain ⟨k, child⟩ := c
    simp only [form] at hform
    simp only [keysSound, Bool.and_eq_true] at hsound
    obtain ⟨⟨hown, -⟩, hchildren⟩ := hsound
    have hmembers := ih hchildren
    by_cases harr : ∃ items idx, ms = [] ∧ data = some (.arr items) ∧
        positions ((k, child) :: cs) = some idx
    · -- an array the keys do not all fit in: the children become members
      obtain ⟨items, idx, rfl, rfl, hidx⟩ := harr
      have hlt : (idx.all fun x => decide (x < items.length)) = false := by
        simpa [hidx] using hform
      rw [render.eq_2 _ _ items idx hidx]
      simpa [hlt, Json.texts, allMessages] using hmembers
    · rw [render.eq_3 _ _ _ _ fun items idx h₁ h₂ h₃ => harr ⟨items, idx, h₁, h₂, h₃⟩]
      cases ms with
      | nil => simpa [Json.texts, allMessages] using hmembers
      | cons m ms =>
        -- no child is keyed `_errors`, so the own messages go after the children
        have hnone : (renderMembers ((k, child) :: cs) data).any (·.1 == "_errors") = false := by
          have hkeys := congrArg (List.any · (· == "_errors"))
            (renderMembers_keys ((k, child) :: cs) data)
          simp only [List.any_map, Function.comp_def] at hkeys
          simp only [List.isEmpty_cons, Bool.false_or, Bool.not_eq_true'] at hown
          rw [hkeys]
          exact hown
        rw [if_neg (by simp), Assoc.insert_of_not_any hnone]
        simp only [Json.texts, Json.memberTexts_append, Json.memberTexts, messageArray_texts,
          List.append_nil, allMessages]
        exact (hmembers.append_right _).trans List.perm_append_comm
  case members0 => intro data _; simp [renderMembers, Json.memberTexts, childMessages]
  case members =>
    intro k child rest data ih ihrest hsound
    simp only [childrenSound, Bool.and_eq_true] at hsound
    simp only [renderMembers, Json.memberTexts, childMessages]
    exact (ih hsound.1).append (ihrest hsound.2)
  case positions0 => intro items out _ idx _ _ _; simp [renderPositions, childMessages]
  case positions =>
    intro k child rest items out i hi ih ihrest hsound idx hidx hnd hnull
    simp only [childrenSound, Bool.and_eq_true] at hsound
    obtain ⟨i', idx', hi', hrest, rfl⟩ := positions_cons_eq_some hidx
    obtain rfl : i' = i := Option.some.inj (hi'.symm.trans hi)
    obtain ⟨hi_notin, hnd'⟩ := List.nodup_cons.1 hnd
    -- the rest write over slots this child leaves `null`
    have hnull' : ∀ j ∈ idx', (out.set i' (child.render items[i']?))[j]? = some .null := by
      intro j hj
      have hji : i' ≠ j := fun h => hi_notin (h ▸ hj)
      rw [List.getElem?_set_ne hji]
      exact hnull j (List.mem_cons_of_mem _ hj)
    have hset := Json.itemTexts_set_null (hnull i' List.mem_cons_self) (child.render items[i']?)
    rw [renderPositions, hi]
    simp only [childMessages]
    calc Json.itemTexts (renderPositions rest items (out.set i' (child.render items[i']?)))
        _ ~ childMessages rest ++ Json.itemTexts (out.set i' (child.render items[i']?)) :=
          ihrest hsound.2 idx' hrest hnd' hnull'
        _ ~ childMessages rest ++ ((child.render items[i']?).texts ++ Json.itemTexts out) :=
          hset.append_left _
        _ ~ childMessages rest ++ (child.allMessages ++ Json.itemTexts out) :=
          ((ih hsound.1).append_right _).append_left _
        _ ~ child.allMessages ++ childMessages rest ++ Json.itemTexts out := by
          rw [← List.append_assoc]
          exact List.perm_append_comm.append_right _
  case notPosition =>
    intro k child rest items out hi _ _ idx hidx
    rw [positions_cons, hi] at hidx
    cases hidx

section Update

variable {seg : String} {child' : Node}

theorem update_keys (cs : List (String × Node)) :
    (cs.map fun (k, c) => if k == seg then (k, child') else (k, c)).map (·.1) = cs.map (·.1) := by
  rw [List.map_map]
  apply List.map_congr_left
  intro e _
  obtain ⟨k, c⟩ := e
  simp only [Function.comp_apply]
  split <;> rfl

theorem update_of_not_mem {cs : List (String × Node)} (h : seg ∉ cs.map (·.1)) :
    (cs.map fun (k, c) => if k == seg then (k, child') else (k, c)) = cs := by
  induction cs with
  | nil => rfl
  | cons e cs ih =>
    obtain ⟨k, c⟩ := e
    simp only [List.map_cons, List.mem_cons, not_or] at h
    have hk : (k == seg) = false := beq_false_of_ne (Ne.symm h.1)
    rw [List.map_cons, ih h.2]
    simp only [hk, Bool.false_eq_true, if_false]

theorem childMessages_update {cs : List (String × Node)} {child : Node} {new : List String}
    (hnd : (cs.map (·.1)).Nodup) (hl : cs.lookup seg = some child)
    (h : child'.allMessages ~ child.allMessages ++ new) :
    childMessages (cs.map fun (k, c) => if k == seg then (k, child') else (k, c)) ~
      childMessages cs ++ new := by
  induction cs with
  | nil => cases hl
  | cons e cs ih =>
    obtain ⟨k, c⟩ := e
    simp only [List.map_cons, List.nodup_cons] at hnd
    by_cases hk : k = seg
    · -- the child replaced is this one; no later child has its key
      subst hk
      have hc : c = child := by simpa using hl
      subst hc
      simp only [List.map_cons, beq_self_eq_true, if_true, childMessages, update_of_not_mem hnd.1]
      calc child'.allMessages ++ childMessages cs
          _ ~ c.allMessages ++ new ++ childMessages cs := h.append_right _
          _ ~ c.allMessages ++ childMessages cs ++ new := by
            rw [List.append_assoc, List.append_assoc]
            exact (List.perm_append_comm).append_left _
    · have hseg : (seg == k) = false := beq_false_of_ne (Ne.symm hk)
      have hl' : cs.lookup seg = some child := by
        rw [List.lookup_cons, hseg] at hl
        exact hl
      have hk' : (k == seg) = false := by simpa using hk
      simp only [List.map_cons, hk', Bool.false_eq_true, if_false, childMessages]
      rw [List.append_assoc]
      exact (ih hnd.2 hl').append_left _

end Update

theorem keysDistinct_empty : Node.empty.KeysDistinct := ⟨List.nodup_nil, trivial⟩

/-- Adding messages at a path keeps the children of every node keyed apart, and adds exactly
those messages. By induction on the path: the messages land on the node at its end, and on the
way only the child under the next segment changes, or a new child is added under a key not yet
taken. -/
theorem add_messages (segs new : List String) :
    ∀ n : Node, n.KeysDistinct →
      (n.add segs new).KeysDistinct ∧ (n.add segs new).allMessages ~ n.allMessages ++ new := by
  induction segs with
  | nil =>
    intro n hn
    obtain ⟨ms, cs⟩ := n
    refine ⟨hn, ?_⟩
    simp only [add, allMessages, List.append_assoc]
    exact List.perm_append_comm.append_left ms
  | cons seg rest ih =>
    intro n hn
    obtain ⟨ms, cs⟩ := n
    obtain ⟨hnd, hcd⟩ := hn
    rw [childrenDistinct_iff] at hcd
    cases hl : cs.lookup seg with
    | some child =>
      obtain ⟨hd', hm'⟩ := ih child (hcd _ (Assoc.mem_of_lookup_eq_some hl))
      simp only [add, hl]
      refine ⟨⟨by rw [update_keys]; exact hnd, ?_⟩, ?_⟩
      · rw [childrenDistinct_iff]
        intro e he
        obtain ⟨⟨k, c⟩, hc, rfl⟩ := List.mem_map.1 he
        by_cases hk : k = seg
        · simpa [hk] using hd'
        · simpa [hk] using hcd _ hc
      · simp only [allMessages, List.append_assoc]
        exact (childMessages_update hnd hl hm').append_left ms
    | none =>
      obtain ⟨hd', hm'⟩ := ih Node.empty keysDistinct_empty
      have hfresh : seg ∉ cs.map (·.1) := by
        intro h
        obtain ⟨⟨k, c⟩, hc, rfl⟩ := List.mem_map.1 h
        simpa using List.lookup_eq_none_iff.1 hl _ hc
      simp only [add, hl]
      refine ⟨⟨?_, ?_⟩, ?_⟩
      · simp only [List.map_append, List.map_cons, List.map_nil]
        rw [List.nodup_append]
        refine ⟨hnd, List.nodup_singleton _, ?_⟩
        intro a ha b hb hab
        rw [List.mem_singleton] at hb
        rw [hab, hb] at ha
        exact hfresh ha
      · rw [childrenDistinct_iff]
        intro e he
        rcases List.mem_append.1 he with he | he
        · exact hcd e he
        · simp only [List.mem_singleton] at he
          subst he
          exact hd'
      · simp only [allMessages, childMessages_append, childMessages, List.append_nil,
          List.append_assoc]
        exact ((hm'.trans (by simp [Node.empty, allMessages, childMessages])).append_left _).append_left ms

/-- The node at the end of a path of segments, when the tree has one. -/
def at? : Node → List String → Option Node
  | n, [] => some n
  | .mk _ cs, seg :: rest => (cs.lookup seg).bind fun c => c.at? rest

/-- The messages of the node at the end of a path, none where the tree has no node. -/
def messagesAt (n : Node) (segs : List String) : List String :=
  match n.at? segs with
  | some (.mk ms _) => ms
  | none => []

@[simp] theorem messagesAt_nil (ms : List String) (cs : List (String × Node)) :
    (Node.mk ms cs).messagesAt [] = ms := rfl

theorem messagesAt_cons (ms : List String) (cs : List (String × Node)) (seg : String)
    (rest : List String) :
    (Node.mk ms cs).messagesAt (seg :: rest) = ((cs.lookup seg).map (·.messagesAt rest)).getD [] := by
  simp only [messagesAt, at?]
  cases cs.lookup seg <;> rfl

@[simp] theorem messagesAt_empty (segs : List String) : Node.empty.messagesAt segs = [] := by
  cases segs <;> rfl

theorem lookup_update (cs : List (String × Node)) (seg s : String) (child' : Node) :
    (cs.map fun (k, c) => if k == seg then (k, child') else (k, c)).lookup s =
      if s == seg then (cs.lookup seg).map fun _ => child' else cs.lookup s := by
  have hfun : (fun (x : String × Node) => match x with
      | (k, c) => if k == seg then (k, child') else (k, c)) =
      fun p => if p.1 == seg then (p.1, child') else p := by
    funext ⟨k, c⟩
    rfl
  rw [hfun]
  exact Assoc.lookup_map_set cs seg s child'

/-- Adding messages at a path appends them to the messages of the node at its end, and of no
other node. By induction on the path: off the path the children are those there were, and on it
the child under the next segment is the one messages were added to. -/
theorem messagesAt_add (segs new : List String) : ∀ (n : Node) (segs' : List String),
    (n.add segs new).messagesAt segs' = n.messagesAt segs' ++ if segs' = segs then new else [] := by
  induction segs with
  | nil =>
    intro n segs'
    obtain ⟨ms, cs⟩ := n
    cases segs' with
    | nil => simp [add]
    | cons s r => simp [add, messagesAt_cons]
  | cons seg rest ih =>
    intro n segs'
    obtain ⟨ms, cs⟩ := n
    cases segs' with
    | nil => cases hl : cs.lookup seg <;> simp [add, hl]
    | cons s r =>
      cases hl : cs.lookup seg with
      | some child =>
        simp only [add, hl]
        rw [messagesAt_cons, messagesAt_cons, lookup_update]
        by_cases hs : s = seg
        · subst hs
          simp [hl, ih]
        · simp [beq_false_of_ne hs, hs]
      | none =>
        simp only [add, hl]
        rw [messagesAt_cons, messagesAt_cons, List.lookup_append]
        by_cases hs : s = seg
        · subst hs
          simp [hl, ih]
        · simp [List.lookup_cons, beq_false_of_ne hs, hs]

theorem exists_at?_of_messagesAt {n : Node} {segs : List String} (h : n.messagesAt segs ≠ []) :
    ∃ cs, n.at? segs = some (.mk (n.messagesAt segs) cs) := by
  unfold messagesAt at h ⊢
  split at h
  · next ms cs hat => exact ⟨cs, by rw [hat]⟩
  · exact absurd rfl h

theorem positions_mem {cs : List (String × Node)} {idx : List Nat} (h : positions cs = some idx)
    {k : String} {c : Node} (hc : (k, c) ∈ cs) : ∃ i ∈ idx, Path.parseIndex k = some i := by
  induction cs generalizing idx with
  | nil => cases hc
  | cons e rest ih =>
    obtain ⟨k', c'⟩ := e
    obtain ⟨i, idx', hk', hrest, rfl⟩ := positions_cons_eq_some h
    rcases List.mem_cons.1 hc with h | hc
    · cases h
      exact ⟨i, List.mem_cons_self, hk'⟩
    · obtain ⟨j, hj, hkj⟩ := ih hrest hc
      exact ⟨j, List.mem_cons_of_mem i hj, hkj⟩

theorem renderPositions_getElem?_of_not_mem {cs : List (String × Node)} {idx : List Nat}
    (h : positions cs = some idx) {i : Nat} (hi : i ∉ idx) (items out : List Json) :
    (renderPositions cs items out)[i]? = out[i]? := by
  induction cs generalizing idx out with
  | nil => rfl
  | cons e rest ih =>
    obtain ⟨k, c⟩ := e
    obtain ⟨j, idx', hk, hrest, rfl⟩ := positions_cons_eq_some h
    have hij : j ≠ i := fun hji => hi (hji ▸ List.mem_cons_self)
    rw [renderPositions, hk, ih hrest (fun h' => hi (List.mem_cons_of_mem j h')),
      List.getElem?_set_ne hij]

theorem renderPositions_getElem? {cs : List (String × Node)} {idx : List Nat}
    (h : positions cs = some idx) (hnd : idx.Nodup) {seg : String} {c : Node}
    (hl : cs.lookup seg = some c) {i : Nat} (hi : Path.parseIndex seg = some i) (items : List Json)
    {out : List Json} (hlt : i < out.length) :
    (renderPositions cs items out)[i]? = some (c.render items[i]?) := by
  induction cs generalizing idx out with
  | nil => cases hl
  | cons e rest ih =>
    obtain ⟨k, c'⟩ := e
    obtain ⟨j, idx', hk, hrest, rfl⟩ := positions_cons_eq_some h
    obtain ⟨hj, hnd'⟩ := List.nodup_cons.1 hnd
    rw [renderPositions, hk]
    by_cases hks : seg = k
    · -- this child is the one under the key; no later child writes its slot
      subst hks
      have hc : c' = c := by simpa using hl
      have hji : j = i := Option.some.inj (hk.symm.trans hi)
      subst hc hji
      rw [renderPositions_getElem?_of_not_mem hrest hj, List.getElem?_set_self hlt]
    · have hl' : rest.lookup seg = some c := by
        rw [List.lookup_cons, beq_false_of_ne hks] at hl
        exact hl
      exact ih hrest hnd' hl' (by simpa using hlt)

theorem renderMembers_lookup {cs : List (String × Node)} {seg : String} {c : Node}
    (hl : cs.lookup seg = some c) (data : Option Json) :
    (renderMembers cs data).lookup seg = some (c.render (data.bind fun d => Path.lookup d seg)) := by
  induction cs with
  | nil => cases hl
  | cons e rest ih =>
    obtain ⟨k, c'⟩ := e
    rw [renderMembers]
    by_cases hks : seg = k
    · subst hks
      have hc : c' = c := by simpa using hl
      subst hc
      simp
    · have hl' : rest.lookup seg = some c := by
        rw [List.lookup_cons, beq_false_of_ne hks] at hl
        exact hl
      rw [List.lookup_cons, beq_false_of_ne hks]
      exact ih hl'

/-- Following a child's key through a rendered node reaches the child, rendered against some
value: by its position in the array form, or as a member, which the node's own messages under
`_errors` do not replace. -/
theorem child_render {ms : List String} {cs : List (String × Node)}
    (hs : (Node.mk ms cs).keysSound) {seg : String} {c : Node} (hl : cs.lookup seg = some c)
    (data : Option Json) : ∃ d, Path.child ((Node.mk ms cs).render data) seg = some (c.render d) := by
  cases cs with
  | nil => cases hl
  | cons c₀ cs =>
    simp only [keysSound, Bool.and_eq_true] at hs
    obtain ⟨⟨hown, hnodup⟩, -⟩ := hs
    have hmem := Assoc.mem_of_lookup_eq_some hl
    have hmembers : Path.child (.obj (renderMembers (c₀ :: cs) data)) seg =
        some (c.render (data.bind fun d => Path.lookup d seg)) := renderMembers_lookup hl data
    by_cases harr : ∃ items idx, ms = [] ∧ data = some (.arr items) ∧ positions (c₀ :: cs) = some idx
    · obtain ⟨items, idx, rfl, rfl, hidx⟩ := harr
      rw [render.eq_2 _ _ items idx hidx]
      by_cases hlt : (idx.all fun x => decide (x < items.length)) = true
      · -- the array form: the child sits at its key's position
        obtain ⟨i, hi_mem, hi⟩ := positions_mem hidx hmem
        have hnd : idx.Nodup := by simpa [hidx] using hnodup
        have hi_lt : i < (List.replicate items.length Json.null).length := by
          simpa using List.all_eq_true.1 hlt i hi_mem
        refine ⟨items[i]?, ?_⟩
        simp only [hlt, if_true, Path.child, hi, Option.bind_some]
        exact renderPositions_getElem? hidx hnd hl hi items hi_lt
      · simp only [hlt, Bool.false_eq_true, if_false, List.isEmpty_nil, if_true]
        exact ⟨_, hmembers⟩
    · rw [render.eq_3 _ _ _ _ fun items idx h₁ h₂ h₃ => harr ⟨items, idx, h₁, h₂, h₃⟩]
      cases hms : ms.isEmpty
      · -- no child is keyed `_errors`, so the own messages leave the child's member alone
        have herr : seg ≠ "_errors" := by
          rintro rfl
          simp only [hms, Bool.false_or, Bool.not_eq_true', List.any_eq_false] at hown
          exact hown _ hmem (by simp)
        simp only [Bool.false_eq_true, if_false, Path.child, Assoc.lookup_insert,
          beq_false_of_ne herr]
        exact ⟨_, hmembers⟩
      · simp only [if_true]
        exact ⟨_, hmembers⟩

end Node

namespace Json

/-- A rendered node shows `ms` as its own messages: as its array of texts, or under `_errors`
when it also has children. -/
def ShowsMessages (j : Json) (ms : List String) : Prop :=
  j = Node.messageArray ms ∨
    ∃ members, j = .obj members ∧ members.lookup "_errors" = some (Node.messageArray ms)

end Json

namespace Node

theorem render_showsMessages {ms : List String} (hms : ms ≠ []) (cs : List (String × Node))
    (data : Option Json) : ((Node.mk ms cs).render data).ShowsMessages ms := by
  cases cs with
  | nil => exact .inl (render.eq_1 _ _)
  | cons c cs =>
    rw [render.eq_3 _ _ _ _ fun _ _ h _ _ => hms h]
    have hne : ms.isEmpty = false := List.isEmpty_eq_false_iff.2 hms
    exact .inr ⟨_, rfl, by simp [hne, Assoc.lookup_insert]⟩

/-- Following the path of a node with messages through a tree rendered without losing a child
reaches those messages, as an array or under `_errors`. By induction on the path, each step
through a child that `child_render` finds. -/
theorem render_reaches_messages (segs : List String) : ∀ (n : Node) (data : Option Json),
    n.keysSound → ∀ {ms cs}, n.at? segs = some (.mk ms cs) → ms ≠ [] →
      ∃ j, segs.foldlM Path.child (n.render data) = some j ∧ j.ShowsMessages ms := by
  induction segs with
  | nil =>
    intro n data _ ms cs hat hms
    cases hat
    exact ⟨_, rfl, render_showsMessages hms cs data⟩
  | cons seg rest ih =>
    intro n data hs ms cs hat hms
    obtain ⟨ms₀, cs₀⟩ := n
    simp only [at?, Option.bind_eq_some_iff] at hat
    obtain ⟨c, hl, hat⟩ := hat
    have hcs : c.keysSound := by
      simp only [keysSound, Bool.and_eq_true] at hs
      exact childrenSound_iff.1 hs.2 _ (Assoc.mem_of_lookup_eq_some hl)
    obtain ⟨d, hchild⟩ := child_render hs hl data
    obtain ⟨j, hj, hshow⟩ := ih c d hcs hat hms
    exact ⟨j, by simp [List.foldlM_cons, hchild, hj], hshow⟩

end Node

namespace Bag

/-- The tree of a report: each field's messages at the end of its path's segments, fields in
order. -/
def tree (b : Bag) : Node :=
  b.entries.foldl (fun n (f, fs) => n.add (Path.segments f) (fs.map (·.message))) Node.empty

/-- Every message of a report, field by field. -/
def messages (b : Bag) : List String := b.entries.flatMap fun (_, fs) => fs.map (·.message)

theorem toNested_eq (b : Bag) (data : Json) :
    b.toNested data = if b.isEmpty then .obj [] else b.tree.render (some data) := rfl

theorem tree_messages (b : Bag) : b.tree.allMessages ~ b.messages := by
  suffices h : ∀ (entries : List (String × List Failure)) (n : Node), n.KeysDistinct →
      (entries.foldl (fun n (f, fs) => n.add (Path.segments f) (fs.map (·.message))) n).KeysDistinct ∧
      (entries.foldl (fun n (f, fs) => n.add (Path.segments f) (fs.map (·.message))) n).allMessages ~
        n.allMessages ++ entries.flatMap fun (_, fs) => fs.map (·.message) by
    simpa [tree, messages, Node.empty, Node.allMessages, Node.childMessages] using
      (h b.entries Node.empty Node.keysDistinct_empty).2
  intro entries
  induction entries with
  | nil => intro n hn; simpa using hn
  | cons e entries ih =>
    intro n hn
    obtain ⟨f, fs⟩ := e
    obtain ⟨hd, hm⟩ := Node.add_messages (Path.segments f) (fs.map (·.message)) n hn
    obtain ⟨hd', hm'⟩ := ih _ hd
    refine ⟨hd', ?_⟩
    simp only [List.foldl_cons, List.flatMap_cons, ← List.append_assoc]
    exact hm'.trans (hm.append_right _)

theorem toNested_texts (b : Bag) (data : Json) (h : b.tree.keysSound) :
    (b.toNested data).texts ~ b.messages := by
  rw [toNested_eq]
  split
  · next hempty =>
    have : b.entries = [] := by simpa [isEmpty] using hempty
    simp [Json.texts, Json.memberTexts, messages, this]
  · exact (Node.render_texts.1 _ _ h).trans b.tree_messages

theorem tree_messagesAt (b : Bag) (segs : List String) :
    b.tree.messagesAt segs =
      b.entries.flatMap fun e => if Path.segments e.1 = segs then e.2.map (·.message) else [] := by
  suffices h : ∀ (entries : List (String × List Failure)) (n : Node),
      (entries.foldl (fun n (f, fs) => n.add (Path.segments f) (fs.map (·.message))) n).messagesAt
        segs = n.messagesAt segs ++
          entries.flatMap fun e => if Path.segments e.1 = segs then e.2.map (·.message) else [] by
    simpa [tree] using h b.entries Node.empty
  intro entries
  induction entries with
  | nil => simp
  | cons e entries ih =>
    intro n
    obtain ⟨f, fs⟩ := e
    rw [List.foldl_cons, ih, Node.messagesAt_add, List.flatMap_cons, List.append_assoc]
    by_cases hf : segs = Path.segments f
    · simp [hf]
    · simp [hf, Ne.symm hf]

/-- Following a field's path through the nested report reaches the field's messages, in order,
as an array or under `_errors`, when the fields are distinct and rendering loses no child. -/
theorem toNested_reaches_messages (b : Bag) (data : Json) (h : b.tree.keysSound)
    (hnd : b.fields.Nodup) {e : String × List Failure} (he : e ∈ b.entries) (hne : e.2 ≠ []) :
    ∃ j, Path.lookup (b.toNested data) e.1 = some j ∧ j.ShowsMessages (e.2.map (·.message)) := by
  -- the node of the field's path holds its messages alone: paths are determined by their segments
  have hmsgs : b.tree.messagesAt (Path.segments e.1) = e.2.map (·.message) := by
    rw [tree_messagesAt]
    simp only [Path.segments_injective.eq_iff]
    exact Assoc.flatMap_of_key hnd (fun fs => fs.map (·.message)) he
  have hne' : b.tree.messagesAt (Path.segments e.1) ≠ [] := by simpa [hmsgs] using hne
  obtain ⟨cs, hat⟩ := Node.exists_at?_of_messagesAt hne'
  have hfilled : b.isEmpty = false := by
    simpa [isEmpty] using List.ne_nil_of_mem he
  rw [toNested_eq, hfilled, if_neg Bool.false_ne_true, Path.lookup]
  rw [hmsgs] at hat hne'
  exact Node.render_reaches_messages _ b.tree (some data) h hat hne'

/-- The nested report keeps every message of the report, each as often as the report has it,
and each field's messages, in order, at the node its path reaches, whenever rendering loses no
child: no node of the report's tree that has messages of its own has a child keyed `_errors`,
and no two children of a node whose keys all read as array positions read as the same one. -/
theorem toNested_keeps_messages (b : Bag) (data : Json) (h : b.tree.keysSound) :
    (b.toNested data).texts ~ b.messages ∧
      (b.fields.Nodup → ∀ e ∈ b.entries, e.2 ≠ [] →
        ∃ j, Path.lookup (b.toNested data) e.1 = some j ∧ j.ShowsMessages (e.2.map (·.message))) :=
  ⟨b.toNested_texts data h, fun hnd _ he hne => b.toNested_reaches_messages data h hnd he hne⟩

end Bag

/-- A report of a field and of a field under an array position loses no child, so its nested
form keeps both fields' messages, those of the indexed field at its position in the array. -/
theorem nested_report_keeps_indexed_messages :
    let b : Bag := ⟨[("email", [⟨"required", "Email is required."⟩]),
      ("items.1.qty", [⟨"min", "Too few."⟩, ⟨"min", "Still too few."⟩])]⟩
    let data : Json := .obj [("email", .str ""), ("items", .arr [.obj [("qty", .num (.nat 5))],
      .obj [("qty", .num (.nat 0))]])]
    b.tree.keysSound = true ∧ b.fields.Nodup ∧ (b.toNested data).texts ~ b.messages ∧
      ∃ j, Path.lookup (b.toNested data) "items.1.qty" = some j ∧
        j.ShowsMessages ["Too few.", "Still too few."] := by
  intro b data
  have hsound : b.tree.keysSound = true := by decide +kernel
  have hnd : b.fields.Nodup := by simp [b, Bag.fields]
  have hmem : ("items.1.qty", [⟨"min", "Too few."⟩, ⟨"min", "Still too few."⟩]) ∈ b.entries :=
    List.mem_cons_of_mem _ List.mem_cons_self
  obtain ⟨hperm, hpos⟩ := Bag.toNested_keeps_messages b data hsound
  -- the entry is given first: read from the goal, its field would be found by unfolding the render
  have hfield := hpos hnd _ hmem (List.cons_ne_nil _ _)
  exact ⟨hsound, hnd, hperm, hfield⟩

/-- The nested form can lose messages of a two-message report: the messages of `a` replace its
child `_errors`, and of the children `1` and `01` of an array only the later one is kept. -/
theorem nested_report_loses_messages :
    (Bag.toNested ⟨[("a", [⟨"required", "A is required."⟩]),
        ("a._errors", [⟨"string", "Inner must be a string."⟩])]⟩ (.obj [])).texts =
      ["A is required."] ∧
    (Bag.toNested ⟨[("items.1", [⟨"min", "Too few."⟩]), ("items.01", [⟨"max", "Too many."⟩])]⟩
        (.obj [("items", .arr [.null, .null])])).texts = ["Too many."] := by
  constructor <;> decide +kernel

end FieldRules

import Mathlib.Data.List.Basic
import FieldRules.Rule.Basic
import FieldRules.Text.Blank

namespace FieldRules

namespace SplitState

variable {sep c : Char} {st st' : SplitState}

/-- A character the splitter can cut at: not a bracket, a quote, a backslash or a blank. -/
def isSeparator (sep : Char) : Bool :=
  !(['[', '{', '(', ']', '}', ')', '"', '\\'].contains sep) && !Text.isBlank sep

/-- A character the splitter can cut at from the start: any but a bracket or a parenthesis, which
it reads as nesting before it compares a character with the separator. -/
def cutsAtTop (sep : Char) : Bool := !(['[', '{', '(', ']', '}', ')'].contains sep)

/-- Reads characters without cutting: the state reached, or `none` at a top-level separator. -/
def walk (sep : Char) : SplitState → List Char → Option SplitState
  | st, [] => some st
  | st, c :: cs => (st.step sep c).bind fun st' => walk sep st' cs

@[simp] theorem walk_nil : walk sep st [] = some st := rfl

theorem walk_cons (cs : List Char) :
    walk sep st (c :: cs) = (st.step sep c).bind fun st' => walk sep st' cs := rfl

theorem walk_append (st : SplitState) (xs ys : List Char) :
    walk sep st (xs ++ ys) = (walk sep st xs).bind fun st' => walk sep st' ys := by
  induction xs generalizing st with
  | nil => rfl
  | cons x xs ih =>
    rw [List.cons_append, walk_cons, walk_cons]
    cases st.step sep x with
    | none => rfl
    | some st' => exact ih st'

/-- A state the splitter reaches from the start: it is escaped only inside a string, and inside a
string only within brackets. -/
def Good (st : SplitState) : Prop :=
  (st.escaped = true → st.inString = true) ∧ (st.inString = true → 0 < st.depth)

theorem good_initial : initial.Good := by
  simp [Good, initial]

theorem Good.step (h : st.Good) (hs : st.step sep c = some st') : st'.Good := by
  obtain ⟨d, i, e⟩ := st
  obtain ⟨hesc, hstr⟩ := h
  unfold SplitState.step at hs
  split_ifs at hs <;> cases hs <;> simp_all [Good]

theorem Good.walk (h : st.Good) {cs : List Char} (hw : walk sep st cs = some st') : st'.Good := by
  induction cs generalizing st with
  | nil =>
    cases hw
    exact h
  | cons c cs ih =>
    rw [walk_cons] at hw
    cases hs : st.step sep c with
    | none => rw [hs] at hw; cases hw
    | some s =>
      rw [hs] at hw
      exact ih (h.step hs) hw

theorem eq_initial_of_step_eq_none (h : st.Good) (hs : st.step sep c = none) :
    st = initial ∧ c = sep := by
  obtain ⟨d, i, e⟩ := st
  obtain ⟨hesc, -⟩ := h
  unfold SplitState.step at hs
  split_ifs at hs
  cases i <;> cases e <;> simp_all [initial]

theorem step_initial_self : initial.step sep sep = none ↔ cutsAtTop sep = true := by
  simp only [SplitState.step, initial, cutsAtTop]
  grind

theorem cutsAtTop_of_isSeparator (hsep : isSeparator sep) : cutsAtTop sep := by
  simp only [isSeparator, cutsAtTop, Bool.and_eq_true, Bool.not_eq_true'] at hsep ⊢
  simp_all

/-- The separator stands in the text at depth zero outside a string, as the splitter reads the
text from the start. -/
def TopLevelSep (sep : Char) (cs : List Char) : Prop :=
  ∃ xs ys st, cs = xs ++ sep :: ys ∧ walk sep initial xs = some st ∧ st.depth = 0 ∧
    st.inString = false

theorem TopLevelSep.mem {cs : List Char} (h : TopLevelSep sep cs) : sep ∈ cs := by
  obtain ⟨xs, ys, -, rfl, -⟩ := h
  simp

theorem exists_cut_of_walk_eq_none {cs : List Char} (h : walk sep st cs = none) :
    ∃ xs c ys st', cs = xs ++ c :: ys ∧ walk sep st xs = some st' ∧ st'.step sep c = none := by
  induction cs generalizing st with
  | nil => cases h
  | cons c cs ih =>
    rw [walk_cons] at h
    cases hs : st.step sep c with
    | none => exact ⟨[], c, cs, st, rfl, rfl, hs⟩
    | some s =>
      rw [hs, Option.bind_some] at h
      obtain ⟨xs, c', ys, st', rfl, hxs, hc'⟩ := ih h
      exact ⟨c :: xs, c', ys, st', rfl, by rw [walk_cons, hs, Option.bind_some, hxs], hc'⟩

theorem walk_eq_none_of_cut {xs ys : List Char} (hxs : walk sep st xs = some st')
    (hc : st'.step sep c = none) : walk sep st (xs ++ c :: ys) = none := by
  rw [walk_append, hxs, Option.bind_some, walk_cons, hc]
  rfl

/-- From the start the walk stops exactly at a separator at depth zero outside a string, when the
separator is no bracket. -/
theorem walk_eq_none_iff (hcut : cutsAtTop sep) {cs : List Char} :
    walk sep initial cs = none ↔ TopLevelSep sep cs := by
  constructor
  · intro h
    obtain ⟨xs, c, ys, st', rfl, hxs, hc⟩ := exists_cut_of_walk_eq_none h
    obtain ⟨rfl, rfl⟩ := eq_initial_of_step_eq_none (good_initial.walk hxs) hc
    exact ⟨xs, ys, initial, rfl, hxs, rfl, rfl⟩
  · rintro ⟨xs, ys, st', rfl, hxs, hd, hs⟩
    -- a reachable state outside a string is not escaped, so it is the start
    have hinit : st' = initial := by
      obtain ⟨d, i, e⟩ := st'
      have hgood := good_initial.walk hxs
      cases e <;> simp_all [Good, initial]
    subst hinit
    exact walk_eq_none_of_cut hxs (step_initial_self.2 hcut)

end SplitState

open SplitState

variable {sep : Char}

theorem splitChars_append {st st' : SplitState} {xs : List Char} (hw : walk sep st xs = some st')
    (cur ys : List Char) :
    splitChars sep st cur (xs ++ ys) = splitChars sep st' (xs.reverse ++ cur) ys := by
  induction xs generalizing st cur with
  | nil =>
    cases hw
    rfl
  | cons x xs ih =>
    rw [walk_cons] at hw
    cases hs : st.step sep x with
    | none => rw [hs] at hw; cases hw
    | some s =>
      rw [hs] at hw
      rw [List.cons_append, splitChars, hs]
      simpa using ih hw (x :: cur)

theorem splitChars_sep (hcut : cutsAtTop sep) (cur ys : List Char) :
    splitChars sep initial cur (sep :: ys) = cur.reverse :: splitChars sep initial [] ys := by
  rw [splitChars, step_initial_self.2 hcut]

/-- Pieces the splitter cuts a text into: each but the last walked from the start back to the
start, the last walked without a cut. -/
inductive Pieces (sep : Char) : List (List Char) → Prop
  | last {p : List Char} : (walk sep initial p).isSome → Pieces sep [p]
  | cons {p : List Char} {ps : List (List Char)} :
      walk sep initial p = some initial → Pieces sep ps → Pieces sep (p :: ps)

theorem Pieces.ne_nil {ps : List (List Char)} (h : Pieces sep ps) : ps ≠ [] := by
  cases h <;> simp

@[simp] theorem pieces_singleton {p : List Char} : Pieces sep [p] ↔ (walk sep initial p).isSome := by
  constructor
  · rintro (hp | ⟨-, hps⟩)
    · exact hp
    · exact absurd rfl hps.ne_nil
  · exact Pieces.last

@[simp] theorem pieces_cons_cons {p q : List Char} {qs : List (List Char)} :
    Pieces sep (p :: q :: qs) ↔ walk sep initial p = some initial ∧ Pieces sep (q :: qs) := by
  constructor
  · rintro (_ | ⟨hp, hps⟩)
    exact ⟨hp, hps⟩
  · rintro ⟨hp, hps⟩
    exact Pieces.cons hp hps

theorem pieces_iff {ps : List (List Char)} :
    Pieces sep ps ↔ ps ≠ [] ∧ (∀ p ∈ ps, (walk sep initial p).isSome) ∧
      ∀ p ∈ ps.dropLast, walk sep initial p = some initial := by
  induction ps with
  | nil => exact ⟨fun h => absurd rfl h.ne_nil, fun h => absurd rfl h.1⟩
  | cons p ps ih =>
    cases ps with
    | nil => simp
    | cons q qs =>
      rw [pieces_cons_cons, ih, List.dropLast_cons_cons]
      constructor
      · rintro ⟨hp, -, hsome, hinit⟩
        exact ⟨List.cons_ne_nil _ _, List.forall_mem_cons.2 ⟨by simp [hp], hsome⟩,
          List.forall_mem_cons.2 ⟨hp, hinit⟩⟩
      · rintro ⟨-, hsome, hinit⟩
        exact ⟨(List.forall_mem_cons.1 hinit).1, List.cons_ne_nil _ _,
          (List.forall_mem_cons.1 hsome).2, (List.forall_mem_cons.1 hinit).2⟩

/-- What the splitter cuts are pieces. By induction on the text, the piece being read having
been walked from the start. -/
theorem pieces_splitChars (cs : List Char) : Pieces sep (splitChars sep initial [] cs) := by
  suffices h : ∀ (st : SplitState) (cur : List Char), walk sep initial cur.reverse = some st →
      Pieces sep (splitChars sep st cur cs) from h initial [] rfl
  induction cs with
  | nil =>
    intro st cur hcur
    exact Pieces.last (by simp [hcur])
  | cons c cs ih =>
    intro st cur hcur
    have hgood : st.Good := good_initial.walk hcur
    rw [splitChars]
    cases hs : st.step sep c with
    | none =>
      obtain ⟨rfl, -⟩ := eq_initial_of_step_eq_none hgood hs
      exact Pieces.cons hcur (ih initial [] rfl)
    | some st' =>
      refine ih st' (c :: cur) ?_
      rw [List.reverse_cons, walk_append, hcur]
      simp [walk_cons, hs]

theorem splitChars_intercalate (hcut : cutsAtTop sep) {ps : List (List Char)}
    (h : Pieces sep ps) : splitChars sep initial [] (List.intercalate [sep] ps) = ps := by
  induction h with
  | @last p hp =>
    obtain ⟨st', hw⟩ := Option.isSome_iff_exists.1 hp
    simpa [splitChars] using splitChars_append hw [] []
  | @cons p ps hp hps ih =>
    obtain ⟨q, qs, rfl⟩ := List.exists_cons_of_ne_nil hps.ne_nil
    rw [List.intercalate_cons_cons, List.append_assoc, splitChars_append hp, List.append_nil,
      List.singleton_append, splitChars_sep hcut, List.reverse_reverse, ih]

theorem splitChars_ne_nil (st : SplitState) (cur cs : List Char) :
    splitChars sep st cur cs ≠ [] := by
  induction cs generalizing st cur with
  | nil => simp [splitChars]
  | cons c cs ih =>
    rw [splitChars]
    cases st.step sep c with
    | none => simp
    | some st' => exact ih st' (c :: cur)

theorem intercalate_splitChars (st : SplitState) (cur cs : List Char) :
    List.intercalate [sep] (splitChars sep st cur cs) = cur.reverse ++ cs := by
  induction cs generalizing st cur with
  | nil => simp [splitChars]
  | cons c cs ih =>
    rw [splitChars]
    cases hs : st.step sep c with
    | none =>
      have hc : c = sep := by
        unfold SplitState.step at hs
        split_ifs at hs
        simp_all
      obtain ⟨q, qs, hq⟩ := List.exists_cons_of_ne_nil
        (splitChars_ne_nil st [] cs : splitChars sep st [] cs ≠ [])
      rw [hq, List.intercalate_cons_cons, ← hq, ih, hc]
      simp
    | some st' =>
      rw [ih]
      simp

theorem intercalate_splitTopLevel (sep : Char) (s : String) :
    (String.singleton sep).intercalate (splitTopLevel sep s) = s := by
  have hjoin : List.intercalate [sep] (splitChars sep initial [] s.toList) = s.toList := by
    simpa using intercalate_splitChars initial [] s.toList
  apply String.ext
  rw [String.toList_intercalate, String.toList_singleton, splitTopLevel, List.map_map]
  simpa using hjoin

theorem pieces_splitTopLevel (sep : Char) (s : String) :
    Pieces sep ((splitTopLevel sep s).map String.toList) := by
  simpa [splitTopLevel, List.map_map] using (pieces_splitChars s.toList : Pieces sep _)

theorem splitTopLevel_intercalate (hcut : cutsAtTop sep) {parts : List String}
    (h : Pieces sep (parts.map String.toList)) :
    splitTopLevel sep ((String.singleton sep).intercalate parts) = parts := by
  rw [splitTopLevel, String.toList_intercalate, String.toList_singleton,
    splitChars_intercalate hcut h, List.map_map]
  simp

/-- Cutting at the top level and joining by the separator undo each other. A cut text joins back
to itself, and each of its pieces but the last walks from the start back to the start. Conversely,
pieces without the separator at the top level, each but the last walking back to the start, cut
back into themselves once joined, provided there is at least one piece and the separator is no
bracket or parenthesis: the splitter reads those as nesting before it looks for the separator,
and always yields a last piece. -/
theorem splitTopLevel_join_round_trip (sep : Char) :
    (∀ s : String, (String.singleton sep).intercalate (splitTopLevel sep s) = s) ∧
    (∀ s : String, ∀ p ∈ (splitTopLevel sep s).dropLast,
      walk sep initial p.toList = some initial) ∧
    (cutsAtTop sep = true → ∀ parts : List String, parts ≠ [] →
      (∀ p ∈ parts, ¬ TopLevelSep sep p.toList) →
      (∀ p ∈ parts.dropLast, walk sep initial p.toList = some initial) →
      splitTopLevel sep ((String.singleton sep).intercalate parts) = parts) := by
  refine ⟨intercalate_splitTopLevel sep, fun s p hp => ?_, fun hcut parts hne hsep hinit => ?_⟩
  · have hback := (pieces_iff.1 (pieces_splitTopLevel sep s)).2.2
    rw [← List.map_dropLast] at hback
    exact hback _ (List.mem_map_of_mem hp)
  · apply splitTopLevel_intercalate hcut
    refine pieces_iff.2 ⟨by simpa using hne, ?_, ?_⟩
    · -- a piece without the separator at the top level never stops the walk
      simp only [List.forall_mem_map]
      intro p hp
      exact Option.isSome_iff_ne_none.2 fun hnone => hsep p hp ((walk_eq_none_iff hcut).1 hnone)
    · rw [← List.map_dropLast, List.forall_mem_map]
      exact hinit

/-- A regular expression's alternation, inside parentheses, survives joining tokens at pipes. -/
theorem regex_tokens_cut_back_after_joining :
    cutsAtTop '|' = true ∧ ["regex:^(ab|cd){1,3}$", "max:9"] ≠ [] ∧
      (∀ p ∈ ["regex:^(ab|cd){1,3}$", "max:9"], ¬ TopLevelSep '|' p.toList) ∧
      (∀ p ∈ ["regex:^(ab|cd){1,3}$", "max:9"].dropLast,
        walk '|' initial p.toList = some initial) ∧
      splitTopLevel '|' ((String.singleton '|').intercalate ["regex:^(ab|cd){1,3}$", "max:9"]) =
        ["regex:^(ab|cd){1,3}$", "max:9"] := by
  have hcut : cutsAtTop '|' = true := by decide
  have hsep : ∀ p ∈ ["regex:^(ab|cd){1,3}$", "max:9"], ¬ TopLevelSep '|' p.toList := by
    intro p hp
    rw [← walk_eq_none_iff hcut]
    simp only [List.mem_cons, List.not_mem_nil, or_false] at hp
    rcases hp with rfl | rfl <;> decide
  have hinit : ∀ p ∈ ["regex:^(ab|cd){1,3}$", "max:9"].dropLast,
      walk '|' initial p.toList = some initial := by
    decide
  exact ⟨hcut, List.cons_ne_nil _ _, hsep, hinit,
    (splitTopLevel_join_round_trip '|').2.2 hcut _ (List.cons_ne_nil _ _) hsep hinit⟩

/-- Joining does not always cut back. Joined at a parenthesis, two pieces read as one, since the
splitter takes the parenthesis for nesting; and no pieces at all join into the empty text, which
cuts into one empty piece. -/
theorem joined_pieces_can_cut_otherwise :
    ((∀ p ∈ ["a", "b"], ¬ TopLevelSep '(' p.toList) ∧
      (∀ p ∈ ["a", "b"].dropLast, walk '(' initial p.toList = some initial) ∧
      splitTopLevel '(' ((String.singleton '(').intercalate ["a", "b"]) = ["a(b"]) ∧
    splitTopLevel ',' ((String.singleton ',').intercalate []) = [""] := by
  refine ⟨⟨?_, by decide, by decide⟩, by decide⟩
  intro p hp hsep
  have hmem := hsep.mem
  simp only [List.mem_cons, List.not_mem_nil, or_false] at hp
  rcases hp with rfl | rfl <;> revert hmem <;> decide

theorem Pieces.filter (f : List Char → Bool) {ps : List (List Char)} (h : Pieces sep ps) :
    ps.filter f ≠ [] → Pieces sep (ps.filter f) := by
  induction h with
  | @last p hp =>
    intro hne
    by_cases hf : f p
    · rw [List.filter_cons_of_pos hf, List.filter_nil]
      exact Pieces.last hp
    · simp [hf] at hne
  | @cons p ps hp hps ih =>
    intro hne
    by_cases hrest : ps.filter f = []
    · by_cases hf : f p
      · rw [List.filter_cons_of_pos hf, hrest]
        exact Pieces.last (by simp [hp])
      · rw [List.filter_cons_of_neg hf, hrest] at hne
        exact absurd rfl hne
    · by_cases hf : f p
      · rw [List.filter_cons_of_pos hf]
        exact Pieces.cons hp (ih hrest)
      · rw [List.filter_cons_of_neg hf]
        exact ih hrest

/-- A piece `q` may stand for a piece `p`: where the walk of `p` ends the walk of `q` ends too,
at the start when that of `p` does. -/
def Tracks (sep : Char) (p q : List Char) : Prop :=
  ∀ st, walk sep initial p = some st →
    ∃ st', walk sep initial q = some st' ∧ (st = initial → st' = initial)

theorem Pieces.of_tracks {ps qs : List (List Char)} (h : Pieces sep ps)
    (ht : List.Forall₂ (Tracks sep) ps qs) : Pieces sep qs := by
  induction h generalizing qs with
  | @last p hp =>
    cases ht with
    | cons hpq hrest =>
      cases hrest
      obtain ⟨st, hst⟩ := Option.isSome_iff_exists.1 hp
      obtain ⟨st', hq, -⟩ := hpq st hst
      exact Pieces.last (by simp [hq])
  | @cons p ps hp hps ih =>
    cases ht with
    | cons hpq hrest =>
      obtain ⟨st', hq, hi⟩ := hpq initial hp
      exact Pieces.cons (by rw [hq, hi rfl]) (ih hrest)

namespace Text

/-- Trimming, on the characters of a text. -/
def trimChars (l : List Char) : List Char :=
  ((l.dropWhile isBlank).reverse.dropWhile isBlank).reverse

theorem toList_trim (s : String) : (trim s).toList = trimChars s.toList := by
  simp [trim, trimEnd, trimStart, trimChars, String.toList_ofList]

/-- Characters that are all blank. -/
def Blanks (l : List Char) : Prop := ∀ b ∈ l, isBlank b = true

/-- Characters with no blank at either end. -/
def Trimmed (l : List Char) : Prop :=
  (∀ c ∈ l.head?, isBlank c = false) ∧ ∀ c ∈ l.getLast?, isBlank c = false

theorem Blanks.append {l l' : List Char} (h : Blanks l) (h' : Blanks l') : Blanks (l ++ l') := by
  intro b hb
  rcases List.mem_append.1 hb with hb | hb
  · exact h b hb
  · exact h' b hb

theorem Trimmed.append {l l' : List Char} (h : Trimmed l) (h' : Trimmed l') :
    Trimmed (l ++ l') := by
  constructor
  · cases l with
    | nil => exact h'.1
    | cons c l => exact h.1
  · cases l' with
    | nil => simpa using h.2
    | cons c l' =>
      rw [List.getLast?_append_of_ne_nil _ (List.cons_ne_nil c l')]
      exact h'.2

theorem dropWhile_blanks_append {B : List Char} (h : Blanks B) (l : List Char) :
    (B ++ l).dropWhile isBlank = l.dropWhile isBlank := by
  induction B with
  | nil => rfl
  | cons b B ih =>
    rw [List.cons_append, List.dropWhile_cons, if_pos (h b List.mem_cons_self)]
    exact ih fun b' hb' => h b' (List.mem_cons_of_mem _ hb')

theorem dropWhile_of_head {l : List Char} (h : ∀ c ∈ l.head?, isBlank c = false) :
    l.dropWhile isBlank = l := by
  cases l with
  | nil => rfl
  | cons c l =>
    rw [List.dropWhile_cons, if_neg (by simp [h c rfl])]

theorem trimChars_eq {B₁ m B₂ : List Char} (h₁ : Blanks B₁) (h₂ : Blanks B₂) (hm : Trimmed m) :
    trimChars (B₁ ++ m ++ B₂) = m := by
  have hfront : (B₁ ++ m ++ B₂).dropWhile isBlank = (m ++ B₂).dropWhile isBlank := by
    rw [List.append_assoc, dropWhile_blanks_append h₁]
  cases m with
  | nil =>
    have hB : B₂.dropWhile isBlank = [] := by simpa using dropWhile_blanks_append h₂ []
    rw [trimChars, hfront, List.nil_append, hB]
    rfl
  | cons c m =>
    have hhead : (c :: m ++ B₂).dropWhile isBlank = c :: m ++ B₂ :=
      dropWhile_of_head (by simpa using hm.1)
    have hback : (c :: m).reverse.dropWhile isBlank = (c :: m).reverse :=
      dropWhile_of_head (by rw [List.head?_reverse]; exact hm.2)
    rw [trimChars, hfront, hhead, List.reverse_append,
      dropWhile_blanks_append (fun b hb => h₂ b (List.mem_reverse.1 hb)), hback,
      List.reverse_reverse]

theorem exists_blanks_trimmed (l : List Char) :
    ∃ B₁ m B₂, Blanks B₁ ∧ Trimmed m ∧ Blanks B₂ ∧ l = B₁ ++ m ++ B₂ := by
  induction l with
  | nil => exact ⟨[], [], [], by simp [Blanks], by simp [Trimmed], by simp [Blanks], rfl⟩
  | cons c l ih =>
    obtain ⟨B₁, m, B₂, h₁, hm, h₂, rfl⟩ := ih
    cases hc : isBlank c
    · cases m with
      | nil =>
        refine ⟨[], [c], B₁ ++ B₂, by simp [Blanks], by simp [Trimmed, hc], h₁.append h₂, ?_⟩
        simp
      | cons d m =>
        refine ⟨[], c :: (B₁ ++ d :: m), B₂, by simp [Blanks], ⟨by simp [hc], ?_⟩, h₂, by simp⟩
        have hl : (c :: (B₁ ++ d :: m)).getLast? = (d :: m).getLast? := by
          rw [← List.cons_append, List.getLast?_append_of_ne_nil _ (List.cons_ne_nil d m)]
        rw [hl]
        exact hm.2
    · cases m with
      | nil =>
        refine ⟨c :: (B₁ ++ B₂), [], [], ?_, by simp [Trimmed], by simp [Blanks], by simp⟩
        intro b hb
        rcases List.mem_cons.1 hb with rfl | hb
        · exact hc
        · exact h₁.append h₂ b hb
      | cons d m =>
        refine ⟨c :: B₁, d :: m, B₂, ?_, hm, h₂, by simp⟩
        intro b hb
        rcases List.mem_cons.1 hb with rfl | hb
        · exact hc
        · exact h₁ b hb

theorem trimChars_of_trimmed {m : List Char} (hm : Trimmed m) : trimChars m = m := by
  simpa using trimChars_eq (by simp [Blanks] : Blanks []) (by simp [Blanks] : Blanks []) hm

theorem trimChars_spec (l : List Char) :
    Trimmed (trimChars l) ∧ ∃ B₁ B₂, Blanks B₁ ∧ Blanks B₂ ∧ l = B₁ ++ trimChars l ++ B₂ := by
  obtain ⟨B₁, m, B₂, h₁, hm, h₂, rfl⟩ := exists_blanks_trimmed l
  rw [trimChars_eq h₁ h₂ hm]
  exact ⟨hm, B₁, B₂, h₁, h₂, rfl⟩

@[simp] theorem trimChars_trimChars (l : List Char) : trimChars (trimChars l) = trimChars l :=
  trimChars_of_trimmed (trimChars_spec l).1

end Text

namespace SplitState

variable {sep c : Char} {st st' : SplitState}

theorem step_blank (hsep : isSeparator sep) (h : st.Good) {b : Char} (hb : Text.isBlank b)
    (he : st.escaped = false) : st.step sep b = some st := by
  simp only [isSeparator, Bool.and_eq_true, Bool.not_eq_true'] at hsep
  have hnot : b ∉ ['[', '{', '(', ']', '}', ')', '"', '\\'] := by
    intro hm
    simp only [List.mem_cons, List.not_mem_nil, or_false] at hm
    rcases hm with rfl | rfl | rfl | rfl | rfl | rfl | rfl | rfl <;> simp [Text.isBlank] at hb
  have hbs : b ≠ sep := fun heq => by rw [heq, hsep.2] at hb; cases hb
  simp only [List.mem_cons, List.not_mem_nil, or_false, not_or] at hnot
  obtain ⟨d, i, e⟩ := st
  simp only at he
  subst he
  cases i <;> simp [SplitState.step, hnot, hbs]

theorem walk_blanks (hsep : isSeparator sep) (h : st.Good) {bs : List Char}
    (hbs : ∀ b ∈ bs, Text.isBlank b) (he : st.escaped = false) : walk sep st bs = some st := by
  induction bs with
  | nil => rfl
  | cons b bs ih =>
    rw [walk_cons, step_blank hsep h (hbs b List.mem_cons_self) he]
    exact ih fun b hb => hbs b (List.mem_cons_of_mem _ hb)

theorem escaped_step (h : st.Good) (hs : st.step sep c = some st') (hc : c ≠ '\\') :
    st'.escaped = false := by
  obtain ⟨d, i, e⟩ := st
  obtain ⟨hesc, -⟩ := h
  unfold SplitState.step at hs
  split_ifs at hs <;> cases hs <;> cases i <;> cases e <;> simp_all

/-- Blanks deleted right before a character other than a quote or a backslash leave the walk as
it was: an escape they would have taken falls on that character instead. -/
theorem walk_blanks_cons (hsep : isSeparator sep) (h : st.Good) {bs : List Char}
    (hbs : ∀ b ∈ bs, Text.isBlank b) (hc : c ≠ '"' ∧ c ≠ '\\') (ys : List Char) :
    walk sep st (bs ++ c :: ys) = walk sep st (c :: ys) := by
  cases he : st.escaped
  · rw [walk_append, walk_blanks hsep h hbs he]
    rfl
  · -- inside a string, escaped: the first blank takes the escape
    have hin : st.inString = true := h.1 he
    cases bs with
    | nil => rfl
    | cons b bs =>
      have hstep : ∀ x, st.step sep x = some { st with escaped := false } := by
        intro x
        simp [SplitState.step, hin, he]
      have hgood : ({ st with escaped := false } : SplitState).Good := h.step (hstep b)
      rw [List.cons_append, walk_cons, hstep b, Option.bind_some, walk_append,
        walk_blanks hsep hgood (fun b hb => hbs b (List.mem_cons_of_mem _ hb)) rfl,
        Option.bind_some, walk_cons, walk_cons, hstep c, Option.bind_some]
      have hplain : ({ st with escaped := false } : SplitState).step sep c =
          some { st with escaped := false } := by
        simp [SplitState.step, hin, hc.1, hc.2]
      rw [hplain, Option.bind_some]

theorem walk_blanks_append (hsep : isSeparator sep) (h : st.Good) {bs : List Char}
    (hbs : ∀ b ∈ bs, Text.isBlank b) (he : st.escaped = false) (ys : List Char) :
    walk sep st (bs ++ ys) = walk sep st ys := by
  rw [walk_append, walk_blanks hsep h hbs he]
  rfl

theorem walk_blanks_of_some (hsep : isSeparator sep) (h : st.Good) {bs : List Char}
    (hbs : ∀ b ∈ bs, Text.isBlank b) (hw : walk sep st bs = some st') :
    st'.inString = st.inString ∧ (st.inString = false → st' = st) := by
  induction bs generalizing st with
  | nil =>
    cases hw
    exact ⟨rfl, fun _ => rfl⟩
  | cons b bs ih =>
    rw [walk_cons] at hw
    cases hs : st.step sep b with
    | none => rw [hs] at hw; cases hw
    | some s =>
      rw [hs] at hw
      obtain ⟨h₁, h₂⟩ := ih (h.step hs) (fun b hb => hbs b (List.mem_cons_of_mem _ hb)) hw
      have hb := hbs b List.mem_cons_self
      have hnq : b ≠ '"' := fun heq => by rw [heq] at hb; cases hb
      have hsin : s.inString = st.inString := by
        obtain ⟨d, i, e⟩ := st
        unfold SplitState.step at hs
        split_ifs at hs <;> cases hs <;> simp_all
      refine ⟨h₁.trans hsin, fun hout => ?_⟩
      have hes : st.escaped = false := by
        cases he : st.escaped
        · rfl
        · exact absurd (h.1 he) (by simp [hout])
      rw [step_blank hsep h hb hes] at hs
      cases hs
      exact h₂ (hsin ▸ hout)

end SplitState

namespace SplitState

variable {sep c : Char} {st st' : SplitState}

theorem walk_trimChars_cons (hsep : isSeparator sep) (h : st.Good) (he : st.escaped = false)
    (hc : c ≠ '"' ∧ c ≠ '\\') (q ys : List Char) :
    walk sep st (q ++ c :: ys) = walk sep st (Text.trimChars q ++ c :: ys) := by
  obtain ⟨-, B₁, B₂, h₁, h₂, hq⟩ := Text.trimChars_spec q
  conv_lhs => rw [hq]
  rw [List.append_assoc, List.append_assoc, walk_blanks_append hsep h h₁ he, walk_append,
    walk_append]
  cases hw : walk sep st (Text.trimChars q) with
  | none => rfl
  | some s => exact walk_blanks_cons hsep (h.walk hw) h₂ hc ys

theorem escaped_walk_concat (h : st.Good) (hc : c ≠ '\\') {X : List Char}
    (hw : walk sep st (X ++ [c]) = some st') : st'.escaped = false := by
  rw [walk_append] at hw
  cases hX : walk sep st X with
  | none => rw [hX] at hw; cases hw
  | some s =>
    rw [hX, Option.bind_some, walk_cons] at hw
    cases hs : s.step sep c with
    | none => rw [hs] at hw; cases hw
    | some s' =>
      rw [hs] at hw
      cases hw
      exact escaped_step (h.walk hX) hs hc

theorem walk_append_blanks (hsep : isSeparator sep) (h : st.Good) {X E : List Char}
    (hE : Text.Blanks E) (hw : walk sep st (X ++ E) = some st') :
    ∃ st₂, walk sep st X = some st₂ ∧ (st' = initial → st₂ = initial) := by
  rw [walk_append] at hw
  cases hX : walk sep st X with
  | none => rw [hX] at hw; cases hw
  | some st₂ =>
    rw [hX] at hw
    obtain ⟨hin, hout⟩ := walk_blanks_of_some hsep (h.walk hX) hE hw
    refine ⟨st₂, rfl, fun h₁ => ?_⟩
    subst h₁
    have hstr : st₂.inString = false := by rw [← hin]; rfl
    exact (hout hstr).symm

theorem walk_trimChars (hsep : isSeparator sep) (q : List Char) :
    ∃ E, Text.Blanks E ∧ ∀ st : SplitState, st.Good → st.escaped = false →
      walk sep st q = walk sep st (Text.trimChars q ++ E) := by
  obtain ⟨-, B₁, B₂, h₁, h₂, hq⟩ := Text.trimChars_spec q
  refine ⟨B₂, h₂, fun st h he => ?_⟩
  conv_lhs => rw [hq]
  rw [List.append_assoc, walk_blanks_append hsep h h₁ he]

/-- Trimming every piece of a text joined by a character other than a quote or a backslash keeps
its walk, up to blanks left at the end. By induction on the pieces: the blanks after each piece
but the last fall before the joining character. -/
theorem walk_intercalate_trimChars (hsep : isSeparator sep) (hc : c ≠ '"' ∧ c ≠ '\\')
    {qs : List (List Char)} (hqs : qs ≠ []) :
    ∃ E, Text.Blanks E ∧ ∀ st : SplitState, st.Good → st.escaped = false →
      walk sep st (List.intercalate [c] qs) =
        walk sep st (List.intercalate [c] (qs.map Text.trimChars) ++ E) := by
  induction qs with
  | nil => exact absurd rfl hqs
  | cons q qs ih =>
    cases qs with
    | nil => simpa using walk_trimChars hsep q
    | cons q' qs =>
      obtain ⟨E, hE, hwalk⟩ := ih (List.cons_ne_nil _ _)
      rw [List.map_cons] at hwalk
      refine ⟨E, hE, fun st h he => ?_⟩
      have hjoin : ∀ I, walk sep st (Text.trimChars q ++ c :: I) =
          (walk sep st (Text.trimChars q ++ [c])).bind fun s => walk sep s I := by
        intro I
        rw [← walk_append, List.append_assoc, List.singleton_append]
      rw [List.map_cons, List.map_cons, List.intercalate_cons_cons, List.intercalate_cons_cons,
        List.append_assoc, List.append_assoc, List.append_assoc, List.singleton_append,
        List.singleton_append, walk_trimChars_cons hsep h he hc,
        hjoin (List.intercalate [c] (q' :: qs)),
        hjoin (List.intercalate [c] (Text.trimChars q' :: qs.map Text.trimChars) ++ E)]
      cases hw : walk sep st (Text.trimChars q ++ [c]) with
      | none => rfl
      | some s => exact hwalk s (h.walk hw) (escaped_walk_concat h hc.2 hw)

end SplitState

theorem tracks_of_walk_eq (hsep : isSeparator sep) {p q E : List Char} (hE : Text.Blanks E)
    (hw : walk sep initial p = walk sep initial (q ++ E)) : Tracks sep p q := by
  intro st hst
  rw [hw] at hst
  exact walk_append_blanks hsep good_initial hE hst

theorem tracks_trimChars (hsep : isSeparator sep) (q : List Char) :
    Tracks sep q (Text.trimChars q) := by
  obtain ⟨E, hE, hw⟩ := walk_trimChars hsep q
  exact tracks_of_walk_eq hsep hE (hw initial good_initial rfl)

end FieldRules

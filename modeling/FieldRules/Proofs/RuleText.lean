import FieldRules.Proofs.JsonText
import FieldRules.Proofs.Run

namespace FieldRules

open SplitState

theorem splitOnce_eq_some {s a b : String} {c : Char} (h : splitOnce s c = some (a, b)) :
    s.toList = a.toList ++ c :: b.toList ∧ c ∉ a.toList := by
  unfold splitOnce at h
  dsimp only at h
  split at h
  · rename_i i hi
    cases h
    obtain ⟨hlt, hget, hbefore⟩ := List.idxOf?_eq_some_iff.1 hi
    simp only [String.toList_ofList]
    refine ⟨?_, fun hm => ?_⟩
    · conv_lhs => rw [← List.take_append_drop i s.toList]
      rw [List.drop_eq_getElem_cons hlt, hget]
    · obtain ⟨j, hj, hjc⟩ := List.getElem_of_mem hm
      have hji : j < i := by
        have := List.length_take_le' i s.toList
        simp only [List.length_take] at hj
        omega
      rw [List.getElem_take] at hjc
      exact hbefore j hji hjc
  · cases h

theorem splitOnce_eq_none {s : String} {c : Char} (h : splitOnce s c = none) : c ∉ s.toList := by
  unfold splitOnce at h
  dsimp only at h
  split at h
  · cases h
  · rename_i hi
    exact List.idxOf?_eq_none_iff.1 hi

theorem splitOnce_append {a b : List Char} {c : Char} (hc : c ∉ a) :
    splitOnce (String.ofList (a ++ c :: b)) c = some (String.ofList a, String.ofList b) := by
  have hidx : List.idxOf? c (a ++ c :: b) = some a.length := by
    rw [List.idxOf?_eq_some_iff]
    refine ⟨by simp, by simp, fun j hj hjc => hc ?_⟩
    rw [List.getElem_append_left hj] at hjc
    exact hjc ▸ List.getElem_mem hj
  simp [splitOnce, hidx]

theorem splitOnce_of_not_mem {s : String} {c : Char} (hc : c ∉ s.toList) : splitOnce s c = none := by
  have hidx : List.idxOf? c s.toList = none := List.idxOf?_eq_none_iff.2 hc
  simp [splitOnce, hidx]

theorem dropBytes_append (a b : List Char) :
    dropBytes (String.ofList (a ++ b)) (utf8 a).length = String.ofList b := by
  have hgo : ∀ a : List Char, dropBytes.go (utf8 a).length (a ++ b) = b := by
    intro a
    induction a with
    | nil => cases b <;> rfl
    | cons x a ih =>
      have hx : 0 < x.utf8Size := Char.utf8Size_pos x
      obtain ⟨k, hk⟩ : ∃ k, (utf8 (x :: a)).length = k + 1 := by
        refine ⟨(utf8 (x :: a)).length - 1, ?_⟩
        simp [utf8]
        omega
      rw [List.cons_append, hk, dropBytes.go]
      have : k + 1 - x.utf8Size = (utf8 a).length := by
        have h₂ : (utf8 (x :: a)).length = x.utf8Size + (utf8 a).length := by simp [utf8]
        omega
      rw [this, ih]
  simp [dropBytes, hgo]

theorem display_toList_of_ne_nil {r : Rule} (hp : r.params ≠ []) :
    r.display.toList = r.name.toList ++ ':' :: List.intercalate [','] (r.params.map String.toList) := by
  simp [Rule.display, hp, String.toList_intercalate]

theorem trim_of_trimmed {s : String} (h : Text.Trimmed s.toList) : Text.trim s = s :=
  String.toList_inj.1 (by rw [Text.toList_trim, Text.trimChars_of_trimmed h])

theorem trim_ofList (l : List Char) : Text.trim (String.ofList l) = String.ofList (Text.trimChars l) :=
  String.toList_inj.1 (by rw [Text.toList_trim, String.toList_ofList, String.toList_ofList])

theorem trimmed_trim (s : String) : Text.Trimmed (Text.trim s).toList := by
  rw [Text.toList_trim]
  exact (Text.trimChars_spec _).1

theorem ends_plain_cons {a X : List Char} {c : Char} (hc : Text.isBlank c = false)
    (hX : ∀ x ∈ X.getLast?, Text.isBlank x = false) :
    ∀ x ∈ (a ++ c :: X).getLast?, Text.isBlank x = false := by
  rw [List.getLast?_append_of_ne_nil _ (List.cons_ne_nil c X), List.getLast?_cons]
  intro x hx
  cases hl : X.getLast? with
  | none =>
    rw [hl] at hx
    cases hx
    exact hc
  | some y =>
    rw [hl] at hx
    cases hx
    exact hX y hl

theorem ends_plain_intercalate {Ms : List (List Char)} (h : ∀ M ∈ Ms, Text.Trimmed M) :
    ∀ x ∈ (List.intercalate [','] Ms).getLast?, Text.isBlank x = false := by
  induction Ms with
  | nil => simp
  | cons M Ms ih =>
    cases Ms with
    | nil => simpa using (h M List.mem_cons_self).2
    | cons M' Ms =>
      rw [List.intercalate_cons_cons, List.append_assoc, List.singleton_append]
      exact ends_plain_cons (by decide) (ih fun N hN => h N (List.mem_cons_of_mem _ hN))

/-- A rule name as a token writes it: trimmed, not empty, and without a colon. -/
structure Rule.GoodName (name : String) : Prop where
  trimmed : Text.Trimmed name.toList
  ne_nil : name.toList ≠ []
  no_colon : ':' ∉ name.toList

theorem Rule.GoodName.ne_empty {name : String} (h : Rule.GoodName name) : name ≠ "" :=
  fun he => h.ne_nil (by rw [he]; rfl)

theorem goodName_of_colon {N : List Char} (hc : ':' ∉ N) (hne : Text.trim (String.ofList N) ≠ "") :
    Rule.GoodName (Text.trim (String.ofList N)) where
  trimmed := trimmed_trim _
  ne_nil := fun h => hne (String.toList_inj.1 (h.trans rfl))
  no_colon := by
    obtain ⟨-, B₁, B₂, -, -, hN⟩ := Text.trimChars_spec N
    rw [Text.toList_trim, String.toList_ofList]
    intro hm
    exact hc (hN ▸ List.mem_append_left _ (List.mem_append_right _ hm))

theorem trimmed_display {r : Rule} (hn : Rule.GoodName r.name)
    (hp : ∀ p ∈ r.params, Text.Trimmed p.toList) : Text.Trimmed r.display.toList := by
  by_cases hpe : r.params = []
  · simpa [Rule.display, hpe] using hn.trimmed
  · rw [display_toList_of_ne_nil hpe]
    refine ⟨by rw [List.head?_append_of_ne_nil _ hn.ne_nil]; exact hn.trimmed.1, ?_⟩
    exact ends_plain_cons (by decide) (ends_plain_intercalate (by simpa using hp))

theorem parse_display_named {r : Rule} (hp : r.params = []) (hn : Rule.GoodName r.name) :
    Rule.parse r.display = .ok r := by
  obtain ⟨name, params⟩ := r
  simp only at hp hn
  subst hp
  simp [Rule.display, Rule.parse, trim_of_trimmed hn.trimmed, splitOnce_of_not_mem hn.no_colon,
    Rule.named, hn.ne_empty]

/-- How the canonical token of a rule with parameters, a good name and trimmed parameters is
read: the parameters joined by commas, read as the rule's name says. -/
theorem parse_display_eq {r : Rule} (hpe : r.params ≠ []) (hn : Rule.GoodName r.name)
    (hp : ∀ p ∈ r.params, Text.Trimmed p.toList) :
    Rule.parse r.display =
      if r.name = "union" then
        (Rule.unionParams r.display (",".intercalate r.params)).map (⟨r.name, ·⟩)
      else if r.name = "shape" then .ok ⟨r.name, [Text.trim (",".intercalate r.params)]⟩
      else .ok ⟨r.name, (splitTopLevel ',' (",".intercalate r.params)).map Text.trim⟩ := by
  have htrim : Text.trim r.display = r.display := trim_of_trimmed (trimmed_display hn hp)
  have hempty : r.display.isEmpty = false := by
    have : r.display.toList ≠ [] := by rw [display_toList_of_ne_nil hpe]; simp
    simpa using this
  have hsplitOnce : splitOnce r.display ':' = some (r.name, ",".intercalate r.params) := by
    have h := splitOnce_append (b := List.intercalate [','] (r.params.map String.toList))
      hn.no_colon
    have hj : String.ofList (List.intercalate [','] (r.params.map String.toList)) =
        ",".intercalate r.params := by
      rw [← String.toList_inj, String.toList_ofList, String.toList_intercalate]
      rfl
    rwa [← display_toList_of_ne_nil hpe, String.ofList_toList, String.ofList_toList, hj] at h
  unfold Rule.parse
  simp only [htrim, hempty, hsplitOnce, trim_of_trimmed hn.trimmed]
  by_cases hu : r.name = "union"
  · simp [hu]
  · by_cases hs : r.name = "shape"
    · simp [hs]
    · simp [hu, hs, hn.ne_empty]

/-- A canonical token with parameters reads back as its rule when the name is good, the
parameters are trimmed, and the parameters joined by commas read back as the rule's kind reads
them. -/
theorem parse_display_params {r : Rule} (hpe : r.params ≠ []) (hn : Rule.GoodName r.name)
    (hp : ∀ p ∈ r.params, Text.Trimmed p.toList)
    (hunion : r.name = "union" → Rule.unionParams r.display (",".intercalate r.params) = .ok r.params)
    (hshape : r.name = "shape" → r.params = [Text.trim (",".intercalate r.params)])
    (hsplit : r.name ≠ "union" → r.name ≠ "shape" →
      (splitTopLevel ',' (",".intercalate r.params)).map Text.trim = r.params) :
    Rule.parse r.display = .ok r := by
  rw [parse_display_eq hpe hn hp]
  by_cases hu : r.name = "union"
  · rw [if_pos hu, hunion hu]
    rfl
  · rw [if_neg hu]
    by_cases hs : r.name = "shape"
    · rw [if_pos hs, ← hshape hs]
    · rw [if_neg hs, hsplit hu hs]

/-- How a token is read. The token is trimmed and not empty; with no colon it names a rule, and
otherwise the name stands trimmed before the first colon and the parameters are read from the rest
as the name says: rule sets and a flag for a union, one parameter for a shape, parameters cut at
top-level commas and trimmed for every other rule. -/
theorem parse_eq_ok {s : String} {r : Rule} (h : Rule.parse s = .ok r) :
    (Text.trim s).toList ≠ [] ∧
      ((':' ∉ (Text.trim s).toList ∧ r = Rule.named (Text.trim s)) ∨
        ∃ N R, (Text.trim s).toList = N ++ ':' :: R ∧ ':' ∉ N ∧
          r.name = Text.trim (String.ofList N) ∧ r.name ≠ "" ∧
          ((r.name = "union" ∧ Rule.unionParams (Text.trim s) (String.ofList R) = .ok r.params) ∨
            (r.name = "shape" ∧ r.params = [Text.trim (String.ofList R)]) ∨
            (r.name ≠ "union" ∧ r.name ≠ "shape" ∧
              r.params = (splitTopLevel ',' (String.ofList R)).map Text.trim))) := by
  unfold Rule.parse at h
  dsimp only at h
  split_ifs at h with hempty
  have hne : (Text.trim s).toList ≠ [] := fun h' => hempty (by simpa using h')
  refine ⟨hne, ?_⟩
  cases hsp : splitOnce (Text.trim s) ':' with
  | none =>
    simp only [hsp, Except.ok.injEq] at h
    exact Or.inl ⟨splitOnce_eq_none hsp, h.symm⟩
  | some p =>
    obtain ⟨name, raw⟩ := p
    rw [hsp] at h
    obtain ⟨hT, hcolon⟩ := splitOnce_eq_some hsp
    dsimp only at h
    refine Or.inr ⟨name.toList, raw.toList, hT, hcolon, ?_⟩
    simp only [String.ofList_toList]
    split_ifs at h with hn hu hsh
    · cases hup : Rule.unionParams (Text.trim s) raw with
      | error e => simp [hup, Except.map] at h
      | ok ps =>
        simp only [hup, Except.map, Except.ok.injEq] at h
        subst h
        exact ⟨rfl, by simpa using hn, Or.inl ⟨by simpa using hu, rfl⟩⟩
    · simp only [Except.ok.injEq] at h
      subst h
      exact ⟨rfl, by simpa using hn, Or.inr (Or.inl ⟨by simpa using hsh, rfl⟩)⟩
    · simp only [Except.ok.injEq] at h
      subst h
      exact ⟨rfl, by simpa using hn, Or.inr (Or.inr ⟨by simpa using hu, by simpa using hsh, rfl⟩)⟩

theorem unionParams_eq_ok {token raw : String} {ps : List String}
    (h : Rule.unionParams token raw = .ok ps) :
    ∃ sets n flags, Json.readLeading (Text.trim raw) = .ok (some (sets, n)) ∧
      ps = sets.render :: flags ∧ (flags = [] ∨ ∃ F, flags = [F] ∧ Text.Trimmed F.toList) := by
  unfold Rule.unionParams at h
  dsimp only at h
  split at h
  · cases h
  · cases h
  · rename_i sets n hread
    split at h
    · simp only [Except.ok.injEq] at h
      exact ⟨sets, n, _, hread, h.symm, Or.inr ⟨_, rfl, trimmed_trim _⟩⟩
    · simp only [Except.ok.injEq] at h
      exact ⟨sets, n, [], hread, h.symm, Or.inl rfl⟩
    · cases h

/-- Characters the splitter does something with when it cuts at pipes. -/
def splitStops : List Char := ['[', '{', '(', ']', '}', ')', '"', '\\', '|']

/-- A text the splitter reads as plain characters: no bracket, parenthesis, quote, backslash or
pipe. -/
def plainText (s : String) : Bool := s.toList.all fun c => !(splitStops.contains c)

/-- A union whose canonical token reads back: its rule sets are an array of texts and token
arrays, and its flag, if it has one, is plain text. Every other rule is canonical. -/
def Rule.CanonicalUnion (r : Rule) : Prop :=
  r.name = "union" → ∃ sets : List Json, (∀ x ∈ sets, x.isRuleSet) ∧
    ∃ flags : List String, r.params = (Json.arr sets).render :: flags ∧ ∀ f ∈ flags, plainText f

theorem walk_plain {l : List Char} (h : ∀ c ∈ l, c ∉ splitStops) :
    walk '|' initial l = some initial := by
  induction l with
  | nil => rfl
  | cons c l ih =>
    have hc := h c List.mem_cons_self
    simp only [splitStops, List.mem_cons, List.not_mem_nil, or_false, not_or] at hc
    obtain ⟨h₁, h₂, h₃, h₄, h₅, h₆, h₇, h₈, h₉⟩ := hc
    have hstep : initial.step '|' c = some initial := by
      simp [SplitState.step, initial, h₁, h₂, h₃, h₄, h₅, h₆, h₉]
    rw [walk_cons, hstep, Option.bind_some]
    exact ih fun x hx => h x (List.mem_cons_of_mem _ hx)

theorem trimmed_render_arr (xs : List Json) : Text.Trimmed (Json.arr xs).render.toList := by
  rw [Json.render, String.toList_append, String.toList_append]
  constructor
  · intro c hc
    simp only [show "[".toList = ['['] from rfl, List.cons_append, List.nil_append,
      List.head?_cons, Option.mem_def, Option.some.injEq] at hc
    subst hc
    decide
  · intro c hc
    simp only [show "]".toList = [']'] from rfl, List.getLast?_append_of_ne_nil _
      (List.cons_ne_nil _ _), List.getLast?_singleton, Option.mem_def, Option.some.injEq] at hc
    subst hc
    decide

/-- The canonical token of a canonical union walks the splitter from the start back to the
start: its rule sets do, and so do its name and its flag, which are plain. -/
theorem walk_display_union {r : Rule} (hn : r.name = "union") (hu : r.CanonicalUnion) :
    walk '|' initial r.display.toList = some initial := by
  obtain ⟨sets, hsets, flags, hps, hflags⟩ := hu hn
  have hpe : r.params ≠ [] := by rw [hps]; simp
  have hrest : walk '|' initial ((flags.map String.toList).flatMap (',' :: ·)) = some initial := by
    apply walk_plain
    intro c hc
    simp only [List.mem_flatMap, List.mem_map, List.mem_cons] at hc
    obtain ⟨_, ⟨f, hf, rfl⟩, rfl | hcf⟩ := hc
    · decide
    · have hplain := hflags f hf
      simp only [plainText, List.all_eq_true] at hplain
      simpa using hplain c hcf
  have hsplit : ∀ R : List Char, "union".toList ++ ':' :: ((Json.arr sets).render.toList ++ R) =
      ("union".toList ++ [':']) ++ (Json.arr sets).render.toList ++ R := by
    intro R
    simp
  have hname : walk '|' initial ("union".toList ++ [':']) = some initial := by
    rw [show "union".toList ++ [':'] = ['u', 'n', 'i', 'o', 'n', ':'] from rfl]
    exact walk_plain (by simp [splitStops])
  rw [display_toList_of_ne_nil hpe, hn, hps, List.map_cons, Json.intercalate_cons_flatMap, hsplit,
    walk_append, walk_append, hname, Option.bind_some,
    SplitState.walk_render_ruleSets hsets, Option.bind_some, hrest]

/-- A leading trimmed parameter and at most one trimmed flag, joined by commas: the leading
parameter, then nothing or a comma and the flag; trimmed as a whole. -/
theorem intercalate_flags {W : String} (hW : Text.Trimmed W.toList) {flags : List String}
    (hflags : flags = [] ∨ ∃ F, flags = [F] ∧ Text.Trimmed F.toList) :
    ∃ rest : List Char,
      (",".intercalate (W :: flags)).toList = W.toList ++ rest ∧
      Text.Trimmed (",".intercalate (W :: flags)).toList ∧ Text.Trimmed rest ∧
      ((rest = [] ∧ flags = []) ∨
        ∃ F, rest = ',' :: F.toList ∧ flags = [F] ∧ Text.Trimmed F.toList) := by
  obtain ⟨rest, hjoin, hrest, hcases⟩ : ∃ rest : List Char,
      (",".intercalate (W :: flags)).toList = W.toList ++ rest ∧ Text.Trimmed rest ∧
      ((rest = [] ∧ flags = []) ∨
        ∃ F, rest = ',' :: F.toList ∧ flags = [F] ∧ Text.Trimmed F.toList) := by
    rcases hflags with rfl | ⟨F, rfl, hF⟩
    · exact ⟨[], by simp, ⟨by simp, by simp⟩, Or.inl ⟨rfl, rfl⟩⟩
    · refine ⟨',' :: F.toList, by simp, ⟨?_, ?_⟩, Or.inr ⟨F, rfl, rfl, hF⟩⟩
      · intro c hc
        simp only [List.head?_cons, Option.mem_def, Option.some.injEq] at hc
        subst hc
        decide
      · exact ends_plain_cons (a := []) (by decide) hF.2
  exact ⟨rest, hjoin, by rw [hjoin]; exact hW.append hrest, hrest, hcases⟩

theorem unionParams_canonical (token : String) {sets : List Json}
    (hsets : ∀ x ∈ sets, x.isRuleSet) {flags : List String}
    (hflags : flags = [] ∨ ∃ F, flags = [F] ∧ Text.Trimmed F.toList) :
    Rule.unionParams token (",".intercalate ((Json.arr sets).render :: flags)) =
      .ok ((Json.arr sets).render :: flags) := by
  set W := (Json.arr sets).render with hW
  -- what follows the rule sets: nothing, or a comma and the flag
  obtain ⟨rest, hjoin, hraw, hrest, hcases⟩ := intercalate_flags (trimmed_render_arr sets) hflags
  have htext : ",".intercalate (W :: flags) = W ++ String.ofList rest := by
    rw [← String.toList_inj, hjoin, String.toList_append, String.toList_ofList]
  have hdrop : dropBytes (",".intercalate (W :: flags)) (utf8 W.toList).length =
      String.ofList rest := by
    rw [← String.ofList_toList (s := ",".intercalate (W :: flags)), hjoin, dropBytes_append]
  have htrimRest : Text.trim (String.ofList rest) = String.ofList rest :=
    trim_of_trimmed (by rwa [String.toList_ofList])
  unfold Rule.unionParams
  dsimp only
  rw [trim_of_trimmed hraw, htext, Json.readLeading_ruleSets hsets, ← hW, ← htext]
  dsimp only
  rw [hdrop, htrimRest, String.toList_ofList]
  rcases hcases with ⟨rfl, rfl⟩ | ⟨F, rfl, rfl, hF⟩
  · rfl
  · simp [trim_of_trimmed hF, hW]

/-- The parameters of a union read from a trimmed leading text and at most one trimmed flag,
joined by commas: the compact text of the value read first from the leading text and what
follows it, then a flag. -/
theorem unionParams_lead (token : String) {W : String} (hW : Text.Trimmed W.toList)
    {flags ps : List String} (hflags : flags = [] ∨ ∃ F, flags = [F] ∧ Text.Trimmed F.toList)
    (h : Rule.unionParams token (",".intercalate (W :: flags)) = .ok ps) :
    ∃ rest v n, Json.readLeading (W ++ rest) = .ok (some (v, n)) ∧ ps.head? = some v.render := by
  obtain ⟨rest, hjoin, hraw, -, -⟩ := intercalate_flags hW hflags
  have htext : ",".intercalate (W :: flags) = W ++ String.ofList rest := by
    rw [← String.toList_inj, hjoin, String.toList_append, String.toList_ofList]
  obtain ⟨v, n, _, hread, rfl, -⟩ := unionParams_eq_ok h
  rw [trim_of_trimmed hraw, htext] at hread
  exact ⟨String.ofList rest, v, n, hread, rfl⟩

theorem isSeparator_pipe : isSeparator '|' := by decide

theorem isSeparator_comma : isSeparator ',' := by decide

/-- A token cut at its first colon is stood for by the canonical token with the trimmed name, when
its parameter text walks, from any state after the colon, as the canonical parameters followed by
blanks. -/
theorem tracks_colon {P N R X : List Char} (hT : Text.trimChars P = N ++ ':' :: R)
    (hR : ∃ E, Text.Blanks E ∧ ∀ st : SplitState, st.Good → st.escaped = false →
      walk '|' st R = walk '|' st (X ++ E)) :
    Tracks '|' P (Text.trimChars N ++ ':' :: X) := by
  obtain ⟨E, hE, hwalk⟩ := hR
  obtain ⟨-, B₁, B₂, h₁, h₂, hP⟩ := Text.trimChars_spec P
  have hcolon : ∀ Y, walk '|' initial (Text.trimChars N ++ ':' :: Y) =
      (walk '|' initial (Text.trimChars N ++ [':'])).bind fun s => walk '|' s Y := by
    intro Y
    rw [← walk_append, List.append_assoc, List.singleton_append]
  apply tracks_of_walk_eq isSeparator_pipe (hE.append h₂)
  rw [hP, hT, List.append_assoc, walk_blanks_append isSeparator_pipe good_initial h₁ rfl]
  simp only [List.append_assoc, List.cons_append]
  rw [walk_trimChars_cons isSeparator_pipe good_initial rfl (by decide), hcolon (R ++ B₂),
    hcolon (X ++ (E ++ B₂))]
  cases hw : walk '|' initial (Text.trimChars N ++ [':']) with
  | none => rfl
  | some s =>
    have hs : s.Good := good_initial.walk hw
    rw [Option.bind_some, Option.bind_some, walk_append,
      hwalk s hs (escaped_walk_concat good_initial (by decide) hw), ← walk_append, List.append_assoc]

theorem splitChars_comma_trimmed (R : List Char) :
    splitChars ',' initial [] (List.intercalate [',']
      ((splitChars ',' initial [] R).map Text.trimChars)) =
      (splitChars ',' initial [] R).map Text.trimChars := by
  apply splitChars_intercalate (cutsAtTop_of_isSeparator isSeparator_comma)
  apply Pieces.of_tracks (pieces_splitChars R)
  induction splitChars ',' initial [] R with
  | nil => exact List.Forall₂.nil
  | cons q qs ih => exact List.Forall₂.cons (tracks_trimChars isSeparator_comma q) ih

theorem parse_display_union {r : Rule} (hn : Rule.GoodName r.name) (hun : r.name = "union")
    (hu : r.CanonicalUnion) {token raw : String}
    (hparams : Rule.unionParams token raw = .ok r.params) : Rule.parse r.display = .ok r := by
  obtain ⟨sets, hsets, flags, hps, -⟩ := hu hun
  -- read from a token, the union has at most one flag, and that one is trimmed
  have hfl : flags = [] ∨ ∃ F, flags = [F] ∧ Text.Trimmed F.toList := by
    obtain ⟨_, _, flags', -, hW, hfl'⟩ := unionParams_eq_ok hparams
    rw [hps, List.cons.injEq] at hW
    exact hW.2 ▸ hfl'
  apply parse_display_params (by rw [hps]; simp) hn
  · intro p hp
    rw [hps] at hp
    rcases List.mem_cons.1 hp with rfl | hp
    · exact trimmed_render_arr sets
    · rcases hfl with rfl | ⟨F, rfl, hF⟩
      · cases hp
      · rw [List.mem_singleton] at hp
        exact hp ▸ hF
  · intro _
    rw [hps]
    exact unionParams_canonical _ hsets hfl
  · intro h'
    exact absurd (hun.symm.trans h') (by decide)
  · intro h'
    exact absurd hun h'

theorem parse_display_shape {r : Rule} (hn : Rule.GoodName r.name) (hsh : r.name = "shape")
    {raw : String} (hparams : r.params = [Text.trim raw]) : Rule.parse r.display = .ok r := by
  apply parse_display_params (by rw [hparams]; simp) hn
  · rw [hparams]
    simp [trimmed_trim]
  · intro h'
    exact absurd (hsh.symm.trans h') (by decide)
  · intro _
    rw [hparams]
    simp [trim_of_trimmed (trimmed_trim _)]
  · intro _ h'
    exact absurd hsh h'

theorem toList_split_params {R : List Char} {params : List String}
    (hparams : params = (splitTopLevel ',' (String.ofList R)).map Text.trim) :
    params.map String.toList = (splitChars ',' initial [] R).map Text.trimChars := by
  rw [hparams, splitTopLevel]
  simp [Text.toList_trim]

theorem split_params_ne_nil {R : List Char} {params : List String}
    (hparams : params = (splitTopLevel ',' (String.ofList R)).map Text.trim) : params ≠ [] := by
  rw [hparams, splitTopLevel]
  simpa using (splitChars_ne_nil initial [] R : splitChars ',' initial [] R ≠ [])

theorem parse_display_split {r : Rule} (hn : Rule.GoodName r.name) (hun : r.name ≠ "union")
    (hsh : r.name ≠ "shape") {R : List Char}
    (hparams : r.params = (splitTopLevel ',' (String.ofList R)).map Text.trim) :
    Rule.parse r.display = .ok r := by
  apply parse_display_params (split_params_ne_nil hparams) hn
  · rw [hparams]
    simp [trimmed_trim]
  · intro h'
    exact absurd h' hun
  · intro h'
    exact absurd h' hsh
  · intro _ _
    have hjoin : (",".intercalate r.params).toList =
        List.intercalate [','] ((splitChars ',' initial [] R).map Text.trimChars) := by
      rw [String.toList_intercalate, toList_split_params hparams]
      rfl
    rw [splitTopLevel, hjoin, splitChars_comma_trimmed, hparams, splitTopLevel]
    simp [trim_ofList, Text.trimChars_trimChars]

/-- The canonical token of a rule read from a token stands for the token in a cut text and reads
back as the rule, a union being canonical. By cases on how the token was read. -/
theorem display_of_parse {P : List Char} {r : Rule} (h : Rule.parse (String.ofList P) = .ok r)
    (hu : r.CanonicalUnion) : Tracks '|' P r.display.toList ∧ Rule.parse r.display = .ok r := by
  obtain ⟨hne, hcases⟩ := parse_eq_ok h
  have hT : (Text.trim (String.ofList P)).toList = Text.trimChars P := by
    rw [Text.toList_trim, String.toList_ofList]
  rcases hcases with ⟨hcolon, rfl⟩ | ⟨N, R, hTNR, hcolonN, hname, hnameNe, hkind⟩
  · -- a rule named by the whole token, which is its own canonical token
    have hdisp : (Rule.named (Text.trim (String.ofList P))).display = Text.trim (String.ofList P) := by
      simp [Rule.display, Rule.named]
    refine ⟨?_, parse_display_named rfl ⟨trimmed_trim _, hne, hcolon⟩⟩
    rw [hdisp, hT]
    exact tracks_trimChars isSeparator_pipe P
  · rw [hT] at hTNR
    have hgood : Rule.GoodName r.name := by
      rw [hname]
      exact goodName_of_colon hcolonN (hname ▸ hnameNe)
    have hnameChars : r.name.toList = Text.trimChars N := by
      rw [hname, Text.toList_trim, String.toList_ofList]
    rcases hkind with ⟨hun, hparams⟩ | ⟨hsh, hparams⟩ | ⟨hun, hsh, hparams⟩
    · -- a union: its canonical token walks back to the start whatever the token did
      exact ⟨fun _ _ => ⟨initial, walk_display_union hun hu, fun _ => rfl⟩,
        parse_display_union hgood hun hu hparams⟩
    · -- a shape: one trimmed parameter
      refine ⟨?_, parse_display_shape hgood hsh hparams⟩
      rw [display_toList_of_ne_nil (by rw [hparams]; simp), hparams, hnameChars]
      simpa [Text.toList_trim] using tracks_colon hTNR (walk_trimChars isSeparator_pipe R)
    · -- any other rule: parameters cut at top-level commas, each trimmed
      refine ⟨?_, parse_display_split hgood hun hsh hparams⟩
      rw [display_toList_of_ne_nil (split_params_ne_nil hparams), hnameChars,
        toList_split_params hparams]
      apply tracks_colon hTNR
      obtain ⟨E, hE, hw⟩ := walk_intercalate_trimChars (c := ',') isSeparator_pipe
        ⟨by decide, by decide⟩ (splitChars_ne_nil initial [] R : splitChars ',' initial [] R ≠ [])
      refine ⟨E, hE, fun st hst hesc => ?_⟩
      rw [← hw st hst hesc, intercalate_splitChars]
      rfl

theorem not_isBlankText_of_parse {s : String} {r : Rule} (h : Rule.parse s = .ok r) :
    Text.isBlankText s = false := by
  have hne := (parse_eq_ok h).1
  cases hb : Text.isBlankText s
  · rfl
  · have hall : Text.Blanks s.toList := by
      simpa [Text.isBlankText, Text.Blanks] using hb
    have hdrop : s.toList.dropWhile Text.isBlank = [] := by
      simpa using Text.dropWhile_blanks_append hall []
    refine absurd ?_ hne
    rw [Text.toList_trim, Text.trimChars, hdrop]
    rfl

/-- The tokens of a text read as rules that are canonical unions where they are unions: their
canonical tokens stand for them one by one and read back as the rules. By induction on the
tokens. -/
theorem displays_of_tokens {qs : List (List Char)} {rs : List Rule}
    (h : List.Forall₂ (fun q r => Rule.parse (String.ofList q) = .ok r) qs rs)
    (hu : ∀ r ∈ rs, r.CanonicalUnion) :
    List.Forall₂ (Tracks '|') qs (rs.map fun r => r.display.toList) ∧
      ∀ r ∈ rs, Rule.parse r.display = .ok r := by
  induction h with
  | nil => exact ⟨List.Forall₂.nil, by simp⟩
  | @cons q r qs rs hqr _ ih =>
    obtain ⟨htracks, hparse⟩ := display_of_parse hqr (hu r List.mem_cons_self)
    obtain ⟨ih₁, ih₂⟩ := ih fun r' hr' => hu r' (List.mem_cons_of_mem _ hr')
    refine ⟨List.Forall₂.cons htracks ih₁, ?_⟩
    intro r' hr'
    rcases List.mem_cons.1 hr' with rfl | hr'
    · exact hparse
    · exact ih₂ r' hr'

theorem rulesOfText_intercalate {ds : List String} (hpieces : Pieces '|' (ds.map String.toList))
    (hblank : ∀ d ∈ ds, Text.isBlankText d = false) :
    rulesOfText ("|".intercalate ds) = rulesOfTokens ds := by
  have hcut : splitTopLevel '|' ("|".intercalate ds) = ds := by
    rw [show "|" = String.singleton '|' from rfl]
    exact splitTopLevel_intercalate (cutsAtTop_of_isSeparator isSeparator_pipe) hpieces
  have hkeep : ds.filter (fun s => !Text.isBlankText s) = ds :=
    List.filter_eq_self.2 fun s hs => by simp [hblank s hs]
  rw [rulesOfText, hcut, hkeep, rulesOfTokens]

/-- The canonical tokens of a text's rules, joined by pipes, read back as the rules, and so does
the list of them; the text, the token list and the rules themselves then compile to the same
chain. Unions must be canonical: the rule sets an array of texts and token arrays, the flag plain
text. -/
theorem joined_displays_read_back {t : String} {rs : List Rule} (h : rulesOfText t = .ok rs)
    (hu : ∀ r ∈ rs, r.CanonicalUnion) :
    (Definition.text ("|".intercalate (rs.map Rule.display))).toRules = .ok rs ∧
      (Definition.tokens (rs.map Rule.display)).toRules = .ok rs ∧
      ∀ (reg : Registry) (p : String),
        reg.compileEntry (p, .text ("|".intercalate (rs.map Rule.display))) =
            reg.compileEntry (p, .rules rs) ∧
          reg.compileEntry (p, .tokens (rs.map Rule.display)) = reg.compileEntry (p, .rules rs) := by
  -- the tokens of the text: its pieces cut at top-level pipes, the blank ones dropped
  set qs := (splitChars '|' initial [] t.toList).filter fun q => !Text.isBlankText (String.ofList q)
  have hread : List.Forall₂ (fun q r => Rule.parse (String.ofList q) = .ok r) qs rs := by
    apply mapM_map_ok
    rw [rulesOfText, splitTopLevel, List.filter_map] at h
    exact h
  obtain ⟨htracks, hparse⟩ := displays_of_tokens hread hu
  have htokens : rulesOfTokens (rs.map Rule.display) = .ok rs := mapM_map_of_inverse hparse
  have htext : rulesOfText ("|".intercalate (rs.map Rule.display)) = .ok rs := by
    by_cases hne : rs = []
    · subst hne
      rfl
    · -- the displays track the kept pieces of the text, so they are pieces themselves
      have hqs : qs ≠ [] := fun hq => hne (List.forall₂_nil_left_iff.1 (hq ▸ hread))
      have hpieces : Pieces '|' ((rs.map Rule.display).map String.toList) := by
        rw [List.map_map]
        exact (Pieces.filter _ (pieces_splitChars t.toList) hqs).of_tracks htracks
      have hblank : ∀ d ∈ rs.map Rule.display, Text.isBlankText d = false := by
        intro d hd
        obtain ⟨r, hr, rfl⟩ := List.mem_map.1 hd
        exact not_isBlankText_of_parse (hparse r hr)
      rw [rulesOfText_intercalate hpieces hblank]
      exact htokens
  refine ⟨htext, htokens, fun reg p => ⟨?_, ?_⟩⟩
  · simp only [Registry.compileEntry, Definition.toRules, htext]
  · simp only [Registry.compileEntry, Definition.toRules, htokens]

/-- A definition with a union of a token array and a text, with its flag, reads back from its
canonical tokens. -/
theorem union_definition_reads_back : ∃ rs : List Rule,
    rulesOfText "required | union:[[\"string\"], \"number|min:3\"], true | max: 5" = .ok rs ∧
    (∀ r ∈ rs, r.CanonicalUnion) ∧
    (Definition.text ("|".intercalate (rs.map Rule.display))).toRules = .ok rs ∧
      (Definition.tokens (rs.map Rule.display)).toRules = .ok rs ∧
      ∀ (reg : Registry) (p : String),
        reg.compileEntry (p, .text ("|".intercalate (rs.map Rule.display))) =
            reg.compileEntry (p, .rules rs) ∧
          reg.compileEntry (p, .tokens (rs.map Rule.display)) = reg.compileEntry (p, .rules rs) := by
  have h : rulesOfText "required | union:[[\"string\"], \"number|min:3\"], true | max: 5" =
      .ok [⟨"required", []⟩, ⟨"union", ["[[\"string\"],\"number|min:3\"]", "true"]⟩,
        ⟨"max", ["5"]⟩] :=
    eq_ok_of_toOption (by decide +kernel)
  have hu : ∀ r ∈ ([⟨"required", []⟩, ⟨"union", ["[[\"string\"],\"number|min:3\"]", "true"]⟩,
      ⟨"max", ["5"]⟩] : List Rule), r.CanonicalUnion := by
    intro r hr
    simp only [List.mem_cons, List.not_mem_nil, or_false] at hr
    rcases hr with rfl | rfl | rfl
    · intro h'
      exact absurd h' (by decide)
    · intro _
      refine ⟨[.arr [.str "string"], .str "number|min:3"], ?_, ["true"], by decide +kernel, ?_⟩
      · simp [Json.isRuleSet, Json.asString?]
      · simp [plainText, splitStops]
    · intro h'
      exact absurd h' (by decide)
  exact ⟨_, h, hu, joined_displays_read_back h hu⟩

/-- A union whose rule sets are a top-level JSON string with an escaped bracket reads as that
string, shown with the bracket itself; joined with the next rule, the bracket opens a level the
splitter never closes, the pipe no longer cuts, and the joined text does not read. -/
theorem joined_displays_can_fail_to_read :
    (rulesOfText "union:\"\\u005b\"|string").toOption =
      some [⟨"union", ["\"[\""]⟩, ⟨"string", []⟩] ∧
    "|".intercalate (([⟨"union", ["\"[\""]⟩, ⟨"string", []⟩] : List Rule).map Rule.display) =
      "union:\"[\"|string" ∧
    (rulesOfText "union:\"[\"|string").toBool = false :=
  ⟨by decide +kernel, by decide +kernel, by decide +kernel⟩

end FieldRules

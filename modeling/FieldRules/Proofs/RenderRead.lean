import FieldRules.Proofs.ReadSize

namespace FieldRules

theorem repr_head (n : Nat) : ∃ d ds, (Nat.repr n).toList = d :: ds ∧ d.isDigit := by
  rw [Nat.toList_repr]
  cases h : Nat.toDigits 10 n with
  | nil => exact absurd h Nat.toDigits_ne_nil
  | cons d ds =>
    exact ⟨d, ds, rfl, Nat.isDigit_of_mem_toDigits (by decide) (by decide) (h ▸ List.mem_cons_self)⟩

theorem isDigit_of_mem_repr {n : Nat} {c : Char} (h : c ∈ (Nat.repr n).toList) : c.isDigit := by
  rw [Nat.toList_repr] at h
  exact Nat.isDigit_of_mem_toDigits (by decide) (by decide) h

/-- A text led by a digit and otherwise made of digits, signs, points and exponent marks: how the
text of a double goes on after its sign. -/
def DigitLed (cs : List Char) : Prop :=
  ∃ d rest, cs = d :: rest ∧ d.isDigit ∧ ∀ c ∈ rest, c.isDigit ∨ c ∈ ['-', '.', 'e', '+']

theorem DigitLed.chars {a : List Char} (ha : DigitLed a) :
    ∀ c ∈ a, c.isDigit ∨ c ∈ ['-', '.', 'e', '+'] := by
  obtain ⟨d, rest, rfl, hd, hrest⟩ := ha
  intro c hc
  rcases List.mem_cons.1 hc with rfl | hc
  · exact .inl hd
  · exact hrest c hc

theorem DigitLed.append {a b : List Char} (ha : DigitLed a)
    (hb : ∀ c ∈ b, c.isDigit ∨ c ∈ ['-', '.', 'e', '+']) : DigitLed (a ++ b) := by
  obtain ⟨d, rest, rfl, hd, hrest⟩ := ha
  refine ⟨d, rest ++ b, rfl, hd, fun c hc => ?_⟩
  rcases List.mem_append.1 hc with hc | hc
  · exact hrest c hc
  · exact hb c hc

theorem DigitLed.take {a : List Char} (ha : DigitLed a) {k : Nat} (hk : 0 < k) :
    DigitLed (a.take k) := by
  obtain ⟨d, rest, rfl, hd, hrest⟩ := ha
  obtain ⟨k, rfl⟩ := Nat.exists_eq_add_of_lt hk
  exact ⟨d, rest.take (k + 0), by simp, hd, fun c hc => hrest c (List.mem_of_mem_take hc)⟩

theorem digitLed_repr (n : Nat) : DigitLed (Nat.repr n).toList := by
  obtain ⟨d, ds, hs, hd⟩ := repr_head n
  refine ⟨d, ds, hs, hd, fun c hc => .inl ?_⟩
  have hmem : c ∈ (Nat.repr n).toList := by
    rw [hs]
    exact List.mem_cons_of_mem d hc
  exact isDigit_of_mem_repr hmem

/-- The text of a double in every layout: its sign, if any, and then a text led by a digit, in
each of the forms a layout writes: zero, the digits and zeros, the digits around a point, a point
and zeros before the digits, or one digit, the rest after a point, and the exponent. -/
theorem Binary64.render_form (L : Binary64.Layout) (x : Float) :
    ∃ sign body, (Binary64.render L x).toList = sign ++ body ∧ (sign = [] ∨ sign = ['-']) ∧
      DigitLed body := by
  unfold Binary64.render
  dsimp only
  have hsign : (if (Binary64.decode x).neg then "-" else "").toList = [] ∨
      (if (Binary64.decode x).neg then "-" else "").toList = ['-'] := by
    split <;> simp
  -- the shortest decimal's digits are all that is left of the double
  generalize Binary64.shortest (Binary64.decode x).mant (Binary64.decode x).exp = d
  have hs := digitLed_repr d.digits
  generalize (Nat.repr d.digits).toList = s at hs ⊢
  split
  · -- zero, with or without a point
    refine ⟨_, _, String.toList_append .., hsign, ?_⟩
    split <;> simp [DigitLed]
  · refine ⟨_, _, String.toList_append .., hsign, ?_⟩
    have hzeros : ∀ k, ∀ c ∈ (Binary64.zeros k).toList, c.isDigit ∨ c ∈ ['-', '.', 'e', '+'] := by
      intro k c hc
      simp only [Binary64.zeros, String.toList_ofList, List.mem_replicate] at hc
      simp [hc.2]
    split
    · -- the digits, then zeros
      simp only [String.toList_append, String.toList_ofList]
      refine (hs.append (hzeros _)).append ?_
      split <;> simp
    split
    · -- a point within the digits
      next _ hm =>
      have hk : 0 < (↑s.length + d.exp).toNat := by
        simp only [Bool.and_eq_true, decide_eq_true_eq] at hm
        omega
      simp only [String.toList_append, String.toList_ofList]
      exact ((hs.take hk).append (by simp)).append fun c hc => hs.chars c (List.mem_of_mem_drop hc)
    split
    · -- a point, zeros, then the digits
      have h0 : DigitLed "0.".toList := by simp [DigitLed]
      simp only [String.toList_append, String.toList_ofList]
      exact (h0.append (hzeros _)).append hs.chars
    · -- one digit, the others after a point, and the exponent
      simp only [String.toList_append, String.toList_ofList]
      refine (((hs.take Nat.one_pos).append ?_).append (by simp)).append ?_ |>.append ?_
      · split
        · simp
        · simp only [String.toList_append, String.toList_ofList, List.forall_mem_append]
          exact ⟨by simp, fun c hc => hs.chars c (List.mem_of_mem_drop hc)⟩
      · split
        · simp
        · split <;> simp
      · exact fun c hc => .inl (isDigit_of_mem_repr hc)

theorem Binary64.render_head (L : Binary64.Layout) (x : Float) :
    ∃ c cs, (Binary64.render L x).toList = c :: cs ∧ (c = '-' ∨ c.isDigit) := by
  obtain ⟨sign, body, hr, hsign, d, rest, rfl, hd, -⟩ := Binary64.render_form L x
  rcases hsign with rfl | rfl
  · exact ⟨d, rest, hr, .inr hd⟩
  · exact ⟨'-', d :: rest, hr, .inl rfl⟩

/-- The text of a number starts with a minus or a digit, or, for a double that is not finite,
with the `n` of `null`. -/
theorem Num.render_head (n : Num) :
    ∃ c cs, n.render.toList = c :: cs ∧ (c = '-' ∨ c.isDigit ∨ c = 'n') := by
  cases n with
  | nat k =>
    obtain ⟨d, ds, hs, hd⟩ := repr_head k
    exact ⟨d, ds, hs, Or.inr (Or.inl hd)⟩
  | neg k =>
    show ∃ c cs, (Int.repr k).toList = c :: cs ∧ _
    cases k with
    | ofNat k =>
      obtain ⟨d, ds, hs, hd⟩ := repr_head k
      exact ⟨d, ds, hs, Or.inr (Or.inl hd)⟩
    | negSucc k => exact ⟨'-', (Nat.repr (k + 1)).toList, by simp [Int.repr], Or.inl rfl⟩
  | float x =>
    simp only [Num.render]
    split
    · obtain ⟨c, cs, hs, hc⟩ := Binary64.render_head Binary64.Layout.data x
      exact ⟨c, cs, hs, hc.imp_right Or.inl⟩
    · exact ⟨'n', ['u', 'l', 'l'], by simp, Or.inr (Or.inr rfl)⟩

theorem isBlank_of_isDigit {c : Char} (h : c.isDigit) : Text.isBlank c = false := by
  simp only [Char.isDigit, Bool.and_eq_true, decide_eq_true_eq] at h
  have h₁ : 48 ≤ c.toNat := h.1
  have h₂ : c.toNat ≤ 57 := h.2
  unfold Text.isBlank
  simp only [Bool.or_eq_false_iff, Bool.and_eq_false_iff, decide_eq_false_iff_not, beq_eq_false_iff_ne]
  omega

theorem Binary64.render_chars (L : Binary64.Layout) (x : Float) :
    ∀ c ∈ (Binary64.render L x).toList, c.isDigit ∨ c ∈ ['-', '.', 'e', '+'] := by
  obtain ⟨sign, body, hr, hsign, hbody⟩ := Binary64.render_form L x
  intro c hc
  rw [hr] at hc
  rcases List.mem_append.1 hc with hc | hc
  · rcases hsign with rfl | rfl
    · cases hc
    · simp only [List.mem_singleton] at hc
      simp [hc]
  · exact hbody.chars c hc

theorem Num.render_chars (n : Num) :
    ∀ c ∈ n.render.toList, c.isDigit ∨ c ∈ ['-', '.', 'e', '+', 'n', 'u', 'l'] := by
  have hd : ∀ k, ∀ c ∈ (Nat.repr k).toList, c.isDigit ∨ c ∈ ['-', '.', 'e', '+', 'n', 'u', 'l'] :=
    fun k c hc => .inl (isDigit_of_mem_repr hc)
  cases n with
  | nat k => exact hd k
  | neg k =>
    show ∀ c ∈ (Int.repr k).toList, _
    cases k with
    | ofNat k => exact hd k
    | negSucc k =>
      simp only [Int.repr, String.toList_append, List.forall_mem_append]
      exact ⟨by simp, hd (k + 1)⟩
  | float x =>
    simp only [Num.render]
    split
    · intro c hc
      rcases Binary64.render_chars _ x c hc with h | h
      · exact .inl h
      · simp only [List.mem_cons, List.not_mem_nil, or_false] at h
        rcases h with rfl | rfl | rfl | rfl <;> simp
    · simp

theorem isBlank_of_numChar {c : Char} (h : c.isDigit ∨ c ∈ ['-', '.', 'e', '+', 'n', 'u', 'l']) :
    Text.isBlank c = false := by
  rcases h with h | h
  · exact isBlank_of_isDigit h
  · simp only [List.mem_cons, List.not_mem_nil, or_false] at h
    rcases h with rfl | rfl | rfl | rfl | rfl | rfl | rfl <;> simp [Text.isBlank]

theorem Num.render_noBlank (n : Num) : ∀ c ∈ n.render.toList, Text.isBlank c = false :=
  fun c hc => isBlank_of_numChar (n.render_chars c hc)

theorem trimmed_of_noBlank {l : List Char} (h : ∀ c ∈ l, Text.isBlank c = false) :
    Text.Trimmed l :=
  ⟨fun c hc => h c (List.mem_of_mem_head? hc), fun c hc => h c (List.mem_of_mem_getLast? hc)⟩

theorem trimmed_of_ends {l m : List Char} {a b : Char} (hl : l = a :: (m ++ [b]))
    (ha : Text.isBlank a = false) (hb : Text.isBlank b = false) : Text.Trimmed l := by
  subst hl
  refine ⟨fun c hc => ?_, fun c hc => ?_⟩
  · simp only [List.head?_cons, Option.mem_def, Option.some.injEq] at hc
    exact hc ▸ ha
  · rw [← List.cons_append, List.getLast?_append_of_ne_nil _ (List.cons_ne_nil _ _),
      List.getLast?_singleton, Option.mem_def, Option.some.injEq] at hc
    exact hc ▸ hb

theorem utf8_cons_ascii {c : Char} (h : c.toNat < 128) (cs : List Char) :
    utf8 (c :: cs) = UInt8.ofNat c.toNat :: utf8 cs := by
  have hv : c.val.toNat = c.toNat := rfl
  rw [utf8_cons]
  unfold String.utf8EncodeChar
  rw [hv, if_pos (by omega)]
  rfl

namespace Json

/-- What the first byte of a value's text tells: it is no blank and no closing bracket, it is a
quote only for a string and an opening bracket only for an array. -/
structure Leads (v : Json) (b : UInt8) : Prop where
  not_blank : b ≠ 32 ∧ b ≠ 9 ∧ b ≠ 10 ∧ b ≠ 13
  not_close : b ≠ 93
  quote : b = 34 → ∃ s, v = .str s
  bracket : b = 91 → ∃ xs, v = .arr xs

theorem leads_of_plain {v : Json} {b : UInt8}
    (hb : b.toNat = 45 ∨ (48 ≤ b.toNat ∧ b.toNat ≤ 57) ∨ 97 ≤ b.toNat ∧ b.toNat ≤ 123) :
    Leads v b := by
  have hne : ∀ k : UInt8, k.toNat < 45 ∨ 57 < k.toNat ∧ k.toNat < 97 → b ≠ k := by
    rintro k hk rfl
    omega
  exact ⟨⟨hne 32 (by decide), hne 9 (by decide), hne 10 (by decide), hne 13 (by decide)⟩,
    hne 93 (by decide), fun h => absurd h (hne 34 (by decide)),
    fun h => absurd h (hne 91 (by decide))⟩

theorem digit_toNat {c : Char} (h : c.isDigit) : 48 ≤ c.toNat ∧ c.toNat ≤ 57 := by
  simp only [Char.isDigit, Bool.and_eq_true, decide_eq_true_eq] at h
  exact ⟨h.1, h.2⟩

theorem render_leads (v : Json) : ∃ b t, utf8 v.render.toList = b :: t ∧ Leads v b := by
  cases v with
  | null => exact ⟨110, _, rfl, leads_of_plain (by decide)⟩
  | bool x => cases x <;> exact ⟨_, _, rfl, leads_of_plain (by decide)⟩
  | num n =>
    obtain ⟨c, cs, hs, hc⟩ := n.render_head
    -- a minus, a digit or the `n` of `null`: one byte each
    have hc' : c.toNat = 45 ∨ (48 ≤ c.toNat ∧ c.toNat ≤ 57) ∨ c.toNat = 110 := by
      rcases hc with rfl | hc | rfl
      · exact Or.inl rfl
      · exact Or.inr (Or.inl (digit_toNat hc))
      · exact Or.inr (Or.inr rfl)
    refine ⟨UInt8.ofNat c.toNat, utf8 cs, ?_, leads_of_plain ?_⟩
    · rw [render, hs, utf8_cons_ascii (by omega)]
    · rw [UInt8.toNat_ofNat', Nat.mod_eq_of_lt (by omega)]
      omega
  | str s => exact ⟨34, _, utf8_render_str s, ⟨by decide, by decide, fun _ => ⟨s, rfl⟩,
      fun h => absurd h (by decide)⟩⟩
  | arr xs => exact ⟨91, _, utf8_render_arr xs, ⟨by decide, by decide,
      fun h => absurd h (by decide), fun _ => ⟨xs, rfl⟩⟩⟩
  | obj fs =>
    refine ⟨123, utf8 ((renderFields fs).toList ++ ['\x7d']), ?_, leads_of_plain (by decide)⟩
    rw [render, String.toList_append, String.toList_append, List.append_assoc]
    rfl

theorem render_trimmed (v : Json) : Text.Trimmed v.render.toList := by
  cases v with
  | null => exact trimmed_of_noBlank (by simp [render, Text.isBlank])
  | bool x => cases x <;> exact trimmed_of_noBlank (by simp [render, Text.isBlank])
  | num n => exact trimmed_of_noBlank n.render_noBlank
  | str s =>
    exact trimmed_of_ends (a := '\"') (b := '\"') (m := s.toList.flatMap escapeChar)
      (by simp [render, quote]) (by decide) (by decide)
  | arr xs =>
    exact trimmed_of_ends (a := '[') (b := ']') (m := (renderItems xs).toList) (by simp [render])
      (by decide) (by decide)
  | obj fs =>
    exact trimmed_of_ends (a := '\x7b') (b := '\x7d') (m := (renderFields fs).toList)
      (by simp [render]) (by decide) (by decide)

open Cursor

variable {depth fuel : Nat} {c c' : Cursor}

theorem readValue_eq_str {s : String} (h : readValue depth c fuel = .ok (.str s, c')) :
    c.skipBlanks.peek = some 34 ∧ readString c.skipBlanks.advance = .ok (s, c') := by
  cases fuel with
  | zero => rw [readValue] at h; cases h
  | succ fuel =>
    rw [readValue] at h
    dsimp only at h
    split at h
    case h_6 hp =>
      obtain ⟨⟨t, c₁⟩, ht, hv⟩ := exists_of_map_eq_ok h
      simp only [Prod.mk.injEq, str.injEq] at hv
      obtain ⟨rfl, rfl⟩ := hv
      exact ⟨hp, ht⟩
    -- every other first byte gives another kind of value, or fails
    case h_1 => cases h
    case h_2 | h_3 | h_4 | h_5 =>
      obtain ⟨_, -, hv⟩ := exists_of_map_eq_ok h
      cases hv
    case h_7 | h_8 =>
      split at h
      · cases h
      · obtain ⟨_, -, hv⟩ := exists_of_map_eq_ok h
        cases hv
    case h_9 =>
      split at h
      · obtain ⟨_, -, hv⟩ := exists_of_map_eq_ok h
        cases hv
      · cases h

theorem readValue_eq_arr {ws : List Json} (h : readValue depth c fuel = .ok (.arr ws, c')) :
    c.skipBlanks.peek = some 91 ∧ ∃ f, fuel = f + 1 ∧
      readItems (depth - 1) true [] c.skipBlanks.advance f = .ok (ws, c') := by
  cases fuel with
  | zero => rw [readValue] at h; cases h
  | succ fuel =>
    rw [readValue] at h
    dsimp only at h
    split at h
    case h_7 hp =>
      split at h
      · cases h
      obtain ⟨⟨xs, c₁⟩, hxs, hv⟩ := exists_of_map_eq_ok h
      simp only [Prod.mk.injEq, arr.injEq] at hv
      obtain ⟨rfl, rfl⟩ := hv
      exact ⟨hp, fuel, rfl, hxs⟩
    -- every other first byte gives another kind of value, or fails
    case h_1 => cases h
    case h_2 | h_3 | h_4 | h_5 | h_6 =>
      obtain ⟨_, -, hv⟩ := exists_of_map_eq_ok h
      cases hv
    case h_8 =>
      split at h
      · cases h
      · obtain ⟨_, -, hv⟩ := exists_of_map_eq_ok h
        cases hv
    case h_9 =>
      split at h
      · obtain ⟨_, -, hv⟩ := exists_of_map_eq_ok h
        cases hv
      · cases h

theorem readItems_acc {ws : List Json} :
    ∀ fuel (first : Bool) (acc : List Json) (c : Cursor),
      readItems depth first acc c fuel = .ok (ws, c') → ∃ tl, ws = acc.reverse ++ tl := by
  intro fuel
  induction fuel with
  | zero => intro first acc c h; rw [readItems] at h; cases h
  | succ fuel ih =>
    intro first acc c h
    rw [readItems] at h
    split at h
    · simp only [Except.ok.injEq, Prod.mk.injEq] at h
      exact ⟨[], by rw [← h.1, List.append_nil]⟩
    split at h
    · cases h
    split at h
    · cases h
    · split at h
      · rename_i v c₁ _
        obtain ⟨tl, htl⟩ := ih _ _ _ h
        exact ⟨v :: tl, by rw [htl, List.reverse_cons, List.append_assoc, List.singleton_append]⟩
      · cases h
    · cases h

theorem readItems_comma_of_leads {acc ws : List Json} {b : UInt8} {R : List UInt8} {v : Json}
    (hc : c.rest = 44 :: b :: R) (hb : Leads v b)
    (h : readItems depth false acc c (fuel + 1) = .ok (ws, c')) :
    ∃ w c₁, readValue depth c.advance fuel = .ok (w, c₁) ∧
      readItems depth false (w :: acc) c₁ fuel = .ok (ws, c') := by
  have hadv : c.advance.rest = b :: R := advance_rest hc
  have hskip : c.advance.skipBlanks = c.advance := skipBlanks_of_rest hadv hb.not_blank
  rw [readItems, skipBlanks_of_rest hc (by decide)] at h
  simp [peek_of_rest hc, hskip, peek_of_rest hadv, hb.not_close] at h
  split at h
  · rename_i w c₁ hv
    exact ⟨w, c₁, hv, h⟩
  · cases h

theorem readItems_first_of_leads {ws : List Json} {b : UInt8} {R : List UInt8} {v : Json}
    (hc : c.rest = b :: R) (hb : Leads v b)
    (h : readItems depth true [] c (fuel + 1) = .ok (ws, c')) :
    ∃ w c₁, readValue depth c fuel = .ok (w, c₁) ∧
      readItems depth false [w] c₁ fuel = .ok (ws, c') := by
  rw [readItems, skipBlanks_of_rest hc hb.not_blank] at h
  simp [peek_of_rest hc, hb.not_close] at h
  -- no separator before the first element: the cursor stays
  split at h
  · rename_i e he
    split at he
    case h_1 hp => exact absurd (Option.some.inj hp) hb.not_close
    case h_4 hp => cases hp
    all_goals cases he
  rename_i c₁ hc₁
  have hstay : c₁ = c := by
    split at hc₁
    case h_1 hp => exact absurd (Option.some.inj hp) hb.not_close
    case h_4 hp => cases hp
    all_goals exact (Except.ok.inj hc₁).symm
  subst hstay
  rw [peek_of_rest hc] at h
  split at h
  · rename_i hp
    exact absurd (Option.some.inj hp) hb.not_close
  · split at h
    · rename_i w c₂ hv
      exact ⟨w, c₂, hv, h⟩
    · cases h
  · cases h

/-- Read from the text of a value `v`, whatever follows it, a value that satisfies `Q` is `v`,
and the reading stops where the text of `v` ends. -/
def ReadsAs (Q : Json → Prop) : Prop :=
  ∀ (v w : Json) (c c' : Cursor) (r : List UInt8) (depth fuel : Nat),
    c.rest = utf8 v.render.toList ++ r → readValue depth c fuel = .ok (w, c') → Q w →
      w = v ∧ c'.rest = r

theorem ReadsAs.mono {P Q : Json → Prop} (h : ReadsAs Q) (hPQ : ∀ w, P w → Q w) : ReadsAs P :=
  fun v w c c' r depth fuel hc hr hw => h v w c c' r depth fuel hc hr (hPQ w hw)

theorem ReadsAs.or {P Q : Json → Prop} (hP : ReadsAs P) (hQ : ReadsAs Q) :
    ReadsAs fun w => P w ∨ Q w :=
  fun v w c c' r depth fuel hc hr hw =>
    hw.elim (hP v w c c' r depth fuel hc hr) (hQ v w c c' r depth fuel hc hr)

theorem readsAs_str : ReadsAs fun w => ∃ s, w = .str s := by
  rintro v w c c' r depth fuel hc h ⟨s, rfl⟩
  obtain ⟨hp, hs⟩ := readValue_eq_str h
  obtain ⟨b, t, hv, hlead⟩ := render_leads v
  have hc₁ : c.rest = b :: (t ++ r) := by rw [hc, hv, List.cons_append]
  rw [skipBlanks_of_rest hc₁ hlead.not_blank, peek_of_rest hc₁] at hp
  rw [skipBlanks_of_rest hc₁ hlead.not_blank] at hs
  -- the first byte is a quote, so `v` is a string, read back after its opening quote
  obtain ⟨s', rfl⟩ := hlead.quote (Option.some.inj hp)
  have hc₂ : c.rest = 34 :: (utf8 (s'.toList.flatMap escapeChar) ++ 34 :: r) := by
    rw [hc, utf8_render_str]
    simp
  obtain ⟨c'', hread, hr, -⟩ := readString_quote s' c.advance (advance_rest hc₂)
  rw [hread] at hs
  simp only [Except.ok.injEq, Prod.mk.injEq] at hs
  obtain ⟨rfl, rfl⟩ := hs
  exact ⟨rfl, hr⟩

section Items

variable {Q : Json → Prop} (hQ : ReadsAs Q) {depth : Nat} {r : List UInt8} {c' : Cursor}
  {ws : List Json}
include hQ

/-- The elements after the first, each after its comma, and the closing bracket: elements that
all satisfy `Q` are read back as the elements written. By induction on the elements. -/
theorem readItems_render_more :
    ∀ (xs acc : List Json) (c : Cursor) (fuel : Nat),
      c.rest = utf8 ((xs.flatMap fun x => ',' :: x.render.toList) ++ [']']) ++ r →
      readItems depth false acc c fuel = .ok (ws, c') → (∀ w ∈ ws, Q w) →
      ws = acc.reverse ++ xs ∧ c'.rest = r := by
  intro xs
  induction xs with
  | nil =>
    intro acc c fuel hc h _
    have hc' : c.rest = 93 :: r := hc
    cases fuel with
    | zero => rw [readItems] at h; cases h
    | succ f =>
      rw [readItems_close depth false acc c f hc'] at h
      simp only [Except.ok.injEq, Prod.mk.injEq] at h
      obtain ⟨rfl, rfl⟩ := h
      exact ⟨by rw [List.append_nil], advance_rest hc'⟩
  | cons x xs ih =>
    intro acc c fuel hc h hws
    obtain ⟨b, t, hx, hlead⟩ := render_leads x
    set T := utf8 ((xs.flatMap fun x => ',' :: x.render.toList) ++ [']']) with hT
    have hbytes : utf8 (((x :: xs).flatMap fun x => ',' :: x.render.toList) ++ [']']) =
        44 :: (utf8 x.render.toList ++ T) := by
      rw [hT]
      simp only [List.flatMap_cons, List.cons_append, utf8_cons, utf8_append, List.append_assoc]
      rfl
    have hc' : c.rest = 44 :: b :: (t ++ (T ++ r)) := by
      rw [hc, hbytes, hx]
      simp
    cases fuel with
    | zero => rw [readItems] at h; cases h
    | succ f =>
      obtain ⟨w, c₁, hv, hrest⟩ := readItems_comma_of_leads hc' hlead h
      -- the element read is among those given back, so it satisfies `Q`
      obtain ⟨tl, htl⟩ := readItems_acc _ _ _ _ hrest
      have hw : Q w := hws w (by rw [htl]; simp)
      have hc₁ : c.advance.rest = utf8 x.render.toList ++ (T ++ r) := by
        rw [advance_rest hc', hx, List.cons_append]
      obtain ⟨rfl, hr₁⟩ := hQ x w c.advance c₁ (T ++ r) depth f hc₁ hv hw
      obtain ⟨hws', hr⟩ := ih (w :: acc) c₁ f hr₁ hrest hws
      exact ⟨by rw [hws', List.reverse_cons, List.append_assoc, List.singleton_append], hr⟩

/-- The elements of an array and its closing bracket: elements that all satisfy `Q` are read
back as the elements written. -/
theorem readItems_render_first (xs : List Json) (c : Cursor) (fuel : Nat)
    (hc : c.rest = utf8 (List.intercalate [','] (xs.map fun x => x.render.toList) ++ [']']) ++ r)
    (h : readItems depth true [] c fuel = .ok (ws, c')) (hws : ∀ w ∈ ws, Q w) :
    ws = xs ∧ c'.rest = r := by
  cases fuel with
  | zero => rw [readItems] at h; cases h
  | succ f =>
  cases xs with
  | nil =>
    have hc' : c.rest = 93 :: r := hc
    rw [readItems_close depth true [] c f hc'] at h
    simp only [Except.ok.injEq, Prod.mk.injEq] at h
    obtain ⟨rfl, rfl⟩ := h
    exact ⟨rfl, advance_rest hc'⟩
  | cons x xs =>
    obtain ⟨b, t, hx, hlead⟩ := render_leads x
    set T := utf8 ((xs.flatMap fun x => ',' :: x.render.toList) ++ [']']) with hT
    have hc₀ : c.rest = utf8 x.render.toList ++ (T ++ r) := by
      rw [hc, hT, List.map_cons, intercalate_cons_flatMap, List.flatMap_map, List.append_assoc,
        utf8_append, List.append_assoc]
    have hc' : c.rest = b :: (t ++ (T ++ r)) := by rw [hc₀, hx, List.cons_append]
    obtain ⟨w, c₁, hv, hrest⟩ := readItems_first_of_leads hc' hlead h
    obtain ⟨tl, htl⟩ := readItems_acc _ _ _ _ hrest
    have hw : Q w := hws w (by rw [htl]; simp)
    obtain ⟨rfl, hr₁⟩ := hQ x w c c₁ (T ++ r) depth f hc₀ hv hw
    obtain ⟨hws', hr⟩ := readItems_render_more hQ xs [w] c₁ f hr₁ hrest hws
    exact ⟨by rw [hws']; rfl, hr⟩

end Items

/-- An array whose elements satisfy `Q` is read back only from an array's text, as that array,
when elements satisfying `Q` are. -/
theorem ReadsAs.arr {Q : Json → Prop} (hQ : ReadsAs Q) :
    ReadsAs fun w => ∃ ws, w = .arr ws ∧ ∀ x ∈ ws, Q x := by
  rintro v w c c' r depth fuel hc h ⟨ws, rfl, hws⟩
  obtain ⟨hp, f, rfl, hitems⟩ := readValue_eq_arr h
  obtain ⟨b, t, hv, hlead⟩ := render_leads v
  have hc₁ : c.rest = b :: (t ++ r) := by rw [hc, hv, List.cons_append]
  rw [skipBlanks_of_rest hc₁ hlead.not_blank, peek_of_rest hc₁] at hp
  rw [skipBlanks_of_rest hc₁ hlead.not_blank] at hitems
  -- the first byte is a bracket, so `v` is an array, its elements read back one by one
  obtain ⟨xs, rfl⟩ := hlead.bracket (Option.some.inj hp)
  have hc₂ : c.rest = 91 :: (utf8 (List.intercalate [','] (xs.map fun x => x.render.toList) ++
      [']']) ++ r) := by
    rw [hc, utf8_render_arr, List.cons_append]
  obtain ⟨rfl, hr⟩ := readItems_render_first hQ xs c.advance f (advance_rest hc₂) hitems hws
  exact ⟨rfl, hr⟩

theorem readsAs_ruleSet : ReadsAs fun w => w.isRuleSet := by
  refine (readsAs_str.or readsAs_str.arr).mono fun w hw => ?_
  cases w with
  | str s => exact Or.inl ⟨s, rfl⟩
  | arr ws =>
    refine Or.inr ⟨ws, rfl, fun x hx => ?_⟩
    simp only [isRuleSet, List.all_eq_true] at hw
    have hs := hw x hx
    cases x with
    | str s => exact ⟨s, rfl⟩
    | _ => simp [asString?] at hs
  | _ => simp [isRuleSet] at hw

theorem readsAs_ruleSets : ReadsAs fun w => ∃ ws, w = .arr ws ∧ ∀ x ∈ ws, x.isRuleSet :=
  readsAs_ruleSet.arr

theorem eq_of_read_render {v : Json} {ws : List Json} (h : read v.render = .ok (.arr ws))
    (hws : ∀ x ∈ ws, x.isRuleSet) : v = .arr ws := by
  simp only [read, bind, Except.bind] at h
  split at h
  · cases h
  rename_i p hv
  obtain ⟨w, c₁⟩ := p
  -- the value given is the one read
  have hw : w = .arr ws := by
    split at h
    · exact Except.ok.inj h
    · cases h
  subst hw
  have hc : (Cursor.start v.render).rest = utf8 v.render.toList ++ [] := by
    rw [List.append_nil]
    exact toUTF8_toList _
  exact (readsAs_ruleSets v _ _ _ [] _ _ hc hv ⟨ws, rfl, hws⟩).1.symm

theorem eq_of_readLeading_render {v : Json} (rest : String) {ws : List Json} {n : Nat}
    (h : readLeading (v.render ++ rest) = .ok (some (.arr ws, n)))
    (hws : ∀ x ∈ ws, x.isRuleSet) : v = .arr ws := by
  obtain ⟨b, t, hv, hlead⟩ := render_leads v
  have hc : (Cursor.start (v.render ++ rest)).rest = utf8 v.render.toList ++ utf8 rest.toList := by
    rw [Cursor.start, toUTF8_toList, String.toList_append, utf8_append]
  have hc₁ : (Cursor.start (v.render ++ rest)).rest = b :: (t ++ utf8 rest.toList) := by
    rw [hc, hv, List.cons_append]
  have hskip := skipBlanks_of_rest hc₁ hlead.not_blank
  simp only [readLeading, bind, Except.bind, hskip, peek_of_rest hc₁] at h
  split at h
  · cases h
  rename_i p hread
  obtain ⟨w, c₁⟩ := p
  -- whatever follows, the value given is the one read
  have hw : w = .arr ws := by
    have hpure : (pure (some (w, c₁.offset)) : Except ReadError _) = .ok (some (.arr ws, n)) →
        w = .arr ws := by
      intro hp
      cases hp
      rfl
    split at h
    · exact hpure h
    split at h
    · exact hpure h
    split at h
    · exact hpure h
    · cases h
  subst hw
  exact (readsAs_ruleSets v _ _ _ _ _ _ hc hread ⟨ws, rfl, hws⟩).1.symm

end Json

end FieldRules

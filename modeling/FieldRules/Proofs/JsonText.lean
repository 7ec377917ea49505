import FieldRules.Proofs.SplitText
import FieldRules.Json.Read
import FieldRules.Json.Write

namespace FieldRules

/-- A rule set as a union reads it: a text, or an array of token strings. -/
def Json.isRuleSet : Json → Bool
  | .str _ => true
  | .arr items => items.all fun x => x.asString?.isSome
  | _ => false

/-- The UTF-8 bytes of characters. -/
def utf8 (cs : List Char) : List UInt8 := cs.flatMap String.utf8EncodeChar

@[simp] theorem utf8_nil : utf8 [] = [] := rfl

@[simp] theorem utf8_append (xs ys : List Char) : utf8 (xs ++ ys) = utf8 xs ++ utf8 ys := by
  simp [utf8]

@[simp] theorem utf8_cons (c : Char) (cs : List Char) :
    utf8 (c :: cs) = String.utf8EncodeChar c ++ utf8 cs := rfl

theorem byteArray_toList_loop (bs : ByteArray) (i : Nat) (r : List UInt8) :
    ByteArray.toList.loop bs i r = r.reverse ++ bs.data.toList.drop i := by
  induction i, r using ByteArray.toList.loop.induct bs with
  | case1 i r hlt ih =>
    rw [ByteArray.toList.loop, if_pos hlt, ih]
    have hi : i < bs.data.toList.length := by simpa using hlt
    have hget : bs.get! i = bs.data.toList[i] := by
      simp only [ByteArray.get!, Array.getElem_toList]
      exact getElem!_pos bs.data i (by simpa using hlt)
    rw [List.drop_eq_getElem_cons hi, hget]
    simp
  | case2 i r hge =>
    rw [ByteArray.toList.loop, if_neg hge]
    have : bs.data.toList.length ≤ i := by simpa using hge
    simp [List.drop_eq_nil_of_le this]

theorem toByteArray_data_toList (s : String) : s.toByteArray.data.toList = utf8 s.toList := by
  have h : s.toByteArray = (String.ofList s.toList).toByteArray := by rw [String.ofList_toList]
  rw [h, String.toByteArray_ofList, List.utf8Encode, List.data_toByteArray, List.toList_toArray]
  rfl

theorem toUTF8_toList (s : String) : s.toUTF8.toList = utf8 s.toList := by
  rw [ByteArray.toList, byteArray_toList_loop, String.toUTF8, toByteArray_data_toList]
  simp

theorem fromUTF8?_utf8 (s : String) :
    String.fromUTF8? (ByteArray.mk (utf8 s.toList).toArray) = some s := by
  rw [← toByteArray_data_toList, Array.toArray_toList]
  simp [String.fromUTF8?, s.isValidUTF8]
  rfl

theorem utf8EncodeChar_plain {c : Char} (h₁ : c.toNat ≠ 34) (h₂ : c.toNat ≠ 92)
    (h₃ : 32 ≤ c.toNat) :
    ∀ b ∈ String.utf8EncodeChar c, b.toNat ≠ 34 ∧ b.toNat ≠ 92 ∧ 32 ≤ b.toNat := by
  intro b hb
  have hv : c.val.toNat = c.toNat := rfl
  dsimp only [String.utf8EncodeChar] at hb
  rw [hv] at hb
  split_ifs at hb <;> simp at hb
  · subst hb; simp; omega
  · rcases hb with rfl | rfl <;> simp <;> omega
  · rcases hb with rfl | rfl | rfl <;> simp <;> omega
  · rcases hb with rfl | rfl | rfl | rfl <;> simp <;> omega

namespace SplitState

variable {sep : Char}

theorem walk_escapeChar (d : Nat) (ch : Char) :
    walk sep ⟨d, true, false⟩ (escapeChar ch) = some ⟨d, true, false⟩ := by
  have hhex : ∀ n < 16, hexDigit n ≠ '\\' ∧ hexDigit n ≠ '"' := by decide
  unfold escapeChar
  split
  case h_1 | h_2 | h_3 | h_4 | h_5 => rfl
  case h_6 hq hb _ _ _ =>
    -- a control character is written as an escape, any other as itself
    split_ifs with h₈ h₁₂ hctl
    · rfl
    · rfl
    · obtain ⟨ha, hb⟩ := hhex (ch.toNat / 16) (by omega)
      obtain ⟨hc, hd⟩ := hhex (ch.toNat % 16) (Nat.mod_lt _ (by omega))
      simp [walk, SplitState.step, ha, hb, hc, hd]
    · have hq' : ch ≠ '"' := hq
      have hb' : ch ≠ '\\' := hb
      simp [walk, SplitState.step, hq', hb']

theorem walk_quote (d : Nat) (s : String) :
    walk sep ⟨d + 1, false, false⟩ (quote s).toList = some ⟨d + 1, false, false⟩ := by
  have hbody : ∀ cs : List Char,
      walk sep ⟨d + 1, true, false⟩ (cs.flatMap escapeChar) = some ⟨d + 1, true, false⟩ := by
    intro cs
    induction cs with
    | nil => rfl
    | cons ch cs ih => rw [List.flatMap_cons, walk_append, walk_escapeChar, Option.bind_some, ih]
  have hopen : (⟨d + 1, false, false⟩ : SplitState).step sep '"' = some ⟨d + 1, true, false⟩ := by
    simp [SplitState.step]
  have hclose : (⟨d + 1, true, false⟩ : SplitState).step sep '"' = some ⟨d + 1, false, false⟩ := by
    simp [SplitState.step]
  rw [quote, String.toList_ofList, walk_cons, hopen, Option.bind_some, walk_append, hbody,
    Option.bind_some, walk_cons, hclose, Option.bind_some, walk_nil]

theorem walk_intercalate_comma (d : Nat) {xs : List (List Char)}
    (h : ∀ x ∈ xs, walk sep ⟨d + 1, false, false⟩ x = some ⟨d + 1, false, false⟩) :
    walk sep ⟨d + 1, false, false⟩ (List.intercalate [','] xs) = some ⟨d + 1, false, false⟩ := by
  induction xs with
  | nil => rfl
  | cons x xs ih =>
    cases xs with
    | nil => simpa using h x List.mem_cons_self
    | cons y ys =>
      rw [List.intercalate_cons_cons, walk_append, walk_append, h x List.mem_cons_self]
      simp only [Option.bind_some, walk_cons, walk_nil]
      rw [show (⟨d + 1, false, false⟩ : SplitState).step sep ',' = some ⟨d + 1, false, false⟩ by
        simp [SplitState.step]]
      exact ih fun z hz => h z (List.mem_cons_of_mem _ hz)

theorem renderItems_toList (xs : List Json) :
    (Json.renderItems xs).toList = List.intercalate [','] (xs.map fun x => x.render.toList) := by
  induction xs with
  | nil => simp [Json.renderItems]
  | cons x xs ih =>
    cases xs with
    | nil => simp [Json.renderItems]
    | cons y ys =>
      rw [Json.renderItems.eq_3 _ _ (List.cons_ne_nil _ _), String.toList_append,
        String.toList_append, ih]
      simp only [List.map_cons, List.intercalate_cons_cons]
      rfl

theorem walk_render_arr (d : Nat) {xs : List Json}
    (h : ∀ x ∈ xs, walk sep ⟨d + 1, false, false⟩ x.render.toList = some ⟨d + 1, false, false⟩) :
    walk sep ⟨d, false, false⟩ (Json.arr xs).render.toList = some ⟨d, false, false⟩ := by
  have hitems : walk sep ⟨d + 1, false, false⟩
      (List.intercalate [','] (xs.map fun x => x.render.toList)) = some ⟨d + 1, false, false⟩ :=
    walk_intercalate_comma d (by simpa using h)
  have hopen : walk sep ⟨d, false, false⟩ ['['] = some ⟨d + 1, false, false⟩ := by
    simp [walk, SplitState.step]
  have hclose : walk sep ⟨d + 1, false, false⟩ [']'] = some ⟨d, false, false⟩ := by
    simp [walk, SplitState.step]
  rw [Json.render, String.toList_append, String.toList_append, renderItems_toList]
  rw [show "[".toList = ['['] from rfl, show "]".toList = [']'] from rfl, walk_append, walk_append,
    hopen, Option.bind_some, hitems, Option.bind_some, hclose]

theorem walk_render_ruleSet (d : Nat) {x : Json} (h : x.isRuleSet) :
    walk sep ⟨d + 1, false, false⟩ x.render.toList = some ⟨d + 1, false, false⟩ := by
  cases x with
  | str s =>
    rw [Json.render]
    exact walk_quote d s
  | arr items =>
    apply walk_render_arr
    intro y hy
    have hs : (y.asString?).isSome := by
      simp only [Json.isRuleSet, List.all_eq_true] at h
      exact h y hy
    cases y with
    | str s =>
      rw [Json.render]
      exact walk_quote (d + 1) s
    | _ => simp [Json.asString?] at hs
  | _ => simp [Json.isRuleSet] at h

theorem walk_render_ruleSets {sets : List Json} (h : ∀ x ∈ sets, x.isRuleSet) :
    walk sep initial (Json.arr sets).render.toList = some initial :=
  walk_render_arr 0 fun x hx => walk_render_ruleSet 0 (h x hx)

end SplitState

namespace Json

namespace Cursor

variable {c : Cursor} {b : UInt8} {r : List UInt8}

/-- The offset of the end of the text, which reading never moves. -/
def endOffset (c : Cursor) : Nat := c.offset + c.rest.length

theorem peek_of_rest (h : c.rest = b :: r) : c.peek = some b := by
  simp [peek, h]

theorem advance_rest (h : c.rest = b :: r) : c.advance.rest = r := by
  simp only [advance, h]
  split <;> rfl

@[simp] theorem endOffset_advance (c : Cursor) : c.advance.endOffset = c.endOffset := by
  unfold advance endOffset
  split
  · rfl
  · rename_i b r h
    split <;> simp [h] <;> omega

theorem advance_rest_tail (c : Cursor) : c.advance.rest = c.rest.tail := by
  unfold advance
  split
  · rename_i h
    simp [h]
  · rename_i b r h
    split <;> simp [h]

theorem advanceN (k : Nat) (c : Cursor) :
    ((List.range k).foldl (fun c _ => c.advance) c).rest = c.rest.drop k ∧
      ((List.range k).foldl (fun c _ => c.advance) c).endOffset = c.endOffset := by
  induction k with
  | zero => simp
  | succ k ih =>
    rw [List.range_succ, List.foldl_append, List.foldl_cons, List.foldl_nil, advance_rest_tail,
      endOffset_advance, ih.1, ih.2, List.tail_drop]
    exact ⟨rfl, rfl⟩

theorem skipBlanks_of_rest (h : c.rest = b :: r) (hb : b ≠ 32 ∧ b ≠ 9 ∧ b ≠ 10 ∧ b ≠ 13) :
    c.skipBlanks = c := by
  obtain ⟨h₁, h₂, h₃, h₄⟩ := hb
  simp [skipBlanks, h, h₁, h₂, h₃, h₄]

end Cursor

open Cursor

variable {c : Cursor} {r : List UInt8} {acc : Array UInt8} {fuel : Nat}

theorem readString_go_quote (hc : c.rest = 34 :: r) :
    readString.go acc c (fuel + 1) = .ok ((String.fromUTF8? (ByteArray.mk acc)).getD "", c.advance) := by
  rw [readString.go]
  simp [peek_of_rest hc]

theorem readString_go_byte {b : UInt8} (hc : c.rest = b :: r) (h₁ : b.toNat ≠ 34)
    (h₂ : b.toNat ≠ 92) (h₃ : 32 ≤ b.toNat) :
    readString.go acc c (fuel + 1) = readString.go (acc.push b) c.advance fuel := by
  have h₁' : b ≠ 34 := fun h => h₁ (by simp [h])
  have h₂' : b ≠ 92 := fun h => h₂ (by simp [h])
  have h₃' : ¬ b < 32 := by rw [UInt8.lt_iff_toNat_lt]; simp; omega
  rw [readString.go]
  simp [peek_of_rest hc, h₁', h₂', h₃']

theorem readString_go_backslash {c' : Cursor} {bs : List UInt8} (hc : c.rest = 92 :: r)
    (he : readEscape c.advance = .ok (bs, c')) :
    readString.go acc c (fuel + 1) = readString.go (acc ++ bs.toArray) c' fuel := by
  rw [readString.go]
  simp [peek_of_rest hc, he]

theorem readString_go_plain (acc : Array UInt8) {bs : List UInt8}
    (hbs : ∀ b ∈ bs, b.toNat ≠ 34 ∧ b.toNat ≠ 92 ∧ 32 ≤ b.toNat) (c : Cursor)
    (hc : c.rest = bs ++ r) (fuel : Nat) :
    ∃ c', c'.rest = r ∧ c'.endOffset = c.endOffset ∧
      readString.go acc c (fuel + bs.length) = readString.go (acc ++ bs.toArray) c' fuel := by
  induction bs generalizing acc c with
  | nil => exact ⟨c, by simpa using hc, rfl, by simp⟩
  | cons b bs ih =>
    obtain ⟨h₁, h₂, h₃⟩ := hbs b List.mem_cons_self
    have hc' : c.rest = b :: (bs ++ r) := hc
    obtain ⟨c', hr, he, hgo⟩ := ih (acc.push b) (fun x hx => hbs x (List.mem_cons_of_mem _ hx))
      c.advance (advance_rest hc')
    refine ⟨c', hr, by rw [he, endOffset_advance], ?_⟩
    rw [List.length_cons, ← Nat.add_assoc, readString_go_byte hc' h₁ h₂ h₃, hgo]
    simp

theorem readString_go_escape {x : UInt8} {bs : List UInt8} (hc : c.rest = 92 :: x :: r)
    (hf : c.rest.length < fuel)
    (he : ∀ c₁ : Cursor, c₁.rest = x :: r → readEscape c₁ = .ok (bs, c₁.advance)) :
    ∃ c' fuel', c'.rest = r ∧ c'.endOffset = c.endOffset ∧ r.length < fuel' ∧
      readString.go acc c fuel = readString.go (acc ++ bs.toArray) c' fuel' := by
  obtain ⟨f, rfl⟩ : ∃ f, fuel = f + 1 := ⟨fuel - 1, by omega⟩
  have h₁ := advance_rest hc
  refine ⟨c.advance.advance, f, advance_rest h₁, by simp, ?_, ?_⟩
  · rw [hc] at hf
    simp at hf
    omega
  · exact readString_go_backslash hc (he _ h₁)

theorem hexValue_control : ∀ n < 32,
    hexValue (utf8 ['0', '0', hexDigit (n / 16), hexDigit (n % 16)]) = some n ∧
      (utf8 ['0', '0', hexDigit (n / 16), hexDigit (n % 16)]).length = 4 := by
  decide

theorem readString_go_unicode {n : Nat} (hn : n < 32)
    (hc : c.rest = 92 :: 117 :: utf8 ['0', '0', hexDigit (n / 16), hexDigit (n % 16)] ++ r)
    (hf : c.rest.length < fuel) :
    ∃ c' fuel', c'.rest = r ∧ c'.endOffset = c.endOffset ∧ r.length < fuel' ∧
      readString.go acc c fuel = readString.go (acc ++ (utf8Bytes n).toArray) c' fuel' := by
  obtain ⟨hval, hlen⟩ := hexValue_control n hn
  set D := utf8 ['0', '0', hexDigit (n / 16), hexDigit (n % 16)]
  obtain ⟨f, rfl⟩ : ∃ f, fuel = f + 1 := ⟨fuel - 1, by omega⟩
  have h₁ := advance_rest hc
  have h₂ : c.advance.advance.rest = D ++ r := advance_rest h₁
  obtain ⟨h₄, he₄⟩ := advanceN 4 c.advance.advance
  rw [h₂, List.drop_left' hlen] at h₄
  refine ⟨(List.range 4).foldl (fun c _ => c.advance) c.advance.advance, f, h₄, by simp [he₄],
    ?_, ?_⟩
  · rw [hc] at hf
    simp at hf
    omega
  · apply readString_go_backslash hc
    have hhex : readHex4 c.advance.advance =
        .ok (n, (List.range 4).foldl (fun c _ => c.advance) c.advance.advance) := by
      have hl : ¬ (D ++ r).length < 4 := by simp; omega
      simp only [readHex4, h₂, if_neg hl, List.take_left' hlen, hval]
    have hs₁ : ¬ (0xDC00 ≤ n ∧ n ≤ 0xDFFF) := by omega
    have hs₂ : n < 0xD800 := by omega
    simp [readEscape, peek_of_rest h₁, readUnicodeEscape, hhex, hs₁, hs₂, bind, Except.bind, pure,
      Except.pure]

theorem readString_go_escapeChar (ch : Char) (acc : Array UInt8) (c : Cursor)
    (hc : c.rest = utf8 (escapeChar ch) ++ r) (hf : c.rest.length < fuel) :
    ∃ c' fuel', c'.rest = r ∧ c'.endOffset = c.endOffset ∧ r.length < fuel' ∧
      readString.go acc c fuel =
        readString.go (acc ++ (String.utf8EncodeChar ch).toArray) c' fuel' := by
  unfold escapeChar at hc
  -- each two-byte escape: the backslash, then the letter `readEscape` turns into the byte
  split at hc
  · exact readString_go_escape (hc.trans rfl : c.rest = 92 :: 34 :: r) hf
      fun c₁ h => by rw [readEscape, peek_of_rest h]; rfl
  · exact readString_go_escape (hc.trans rfl : c.rest = 92 :: 92 :: r) hf
      fun c₁ h => by rw [readEscape, peek_of_rest h]; rfl
  · exact readString_go_escape (hc.trans rfl : c.rest = 92 :: 110 :: r) hf
      fun c₁ h => by rw [readEscape, peek_of_rest h]; rfl
  · exact readString_go_escape (hc.trans rfl : c.rest = 92 :: 114 :: r) hf
      fun c₁ h => by rw [readEscape, peek_of_rest h]; rfl
  · exact readString_go_escape (hc.trans rfl : c.rest = 92 :: 116 :: r) hf
      fun c₁ h => by rw [readEscape, peek_of_rest h]; rfl
  rename_i hq hb _ _ _
  split_ifs at hc with h₈ h₁₂ hctl
  · obtain rfl : ch = Char.ofNat 8 := Char.toNat_inj.1 (by simpa using h₈)
    exact readString_go_escape (hc.trans rfl : c.rest = 92 :: 98 :: r) hf
      fun c₁ h => by rw [readEscape, peek_of_rest h]; rfl
  · obtain rfl : ch = Char.ofNat 12 := Char.toNat_inj.1 (by simpa using h₁₂)
    exact readString_go_escape (hc.trans rfl : c.rest = 92 :: 102 :: r) hf
      fun c₁ h => by rw [readEscape, peek_of_rest h]; rfl
  · have hbytes : utf8Bytes ch.toNat = String.utf8EncodeChar ch := by
      rw [utf8Bytes, Char.ofNat_toNat, toUTF8_toList, String.toList_singleton, utf8_cons, utf8_nil,
        List.append_nil]
    rw [← hbytes]
    exact readString_go_unicode hctl (by rw [hc]; rfl) hf
  · have hplain := utf8EncodeChar_plain (c := ch) (fun h => hq (Char.toNat_inj.1 h))
      (fun h => hb (Char.toNat_inj.1 h)) (by omega)
    have hlen : c.rest.length = (String.utf8EncodeChar ch).length + r.length := by
      rw [hc]
      simp [utf8]
    obtain ⟨c', hr, he, hgo⟩ := readString_go_plain acc hplain c
      (by rw [hc]; simp [utf8] : c.rest = String.utf8EncodeChar ch ++ r)
      (fuel - (String.utf8EncodeChar ch).length)
    refine ⟨c', fuel - (String.utf8EncodeChar ch).length, hr, he, by omega, ?_⟩
    rw [← hgo, Nat.sub_add_cancel (by omega)]

/-- The escaped characters of a text and the closing quote are read as the text. By induction on
the characters, the bytes read so far being kept. -/
theorem readString_go_chars (cs : List Char) (acc : Array UInt8) (c : Cursor)
    (hc : c.rest = utf8 (cs.flatMap escapeChar) ++ 34 :: r) (hf : c.rest.length < fuel) :
    ∃ c', c'.rest = r ∧ c'.endOffset = c.endOffset ∧
      readString.go acc c fuel =
        .ok ((String.fromUTF8? (ByteArray.mk (acc ++ (utf8 cs).toArray))).getD "", c') := by
  induction cs generalizing acc c fuel with
  | nil =>
    obtain ⟨f, rfl⟩ : ∃ f, fuel = f + 1 := ⟨fuel - 1, by omega⟩
    refine ⟨c.advance, advance_rest hc, by simp, ?_⟩
    rw [readString_go_quote hc]
    simp
  | cons ch cs ih =>
    rw [List.flatMap_cons, utf8_append, List.append_assoc] at hc
    obtain ⟨c₁, f₁, hr₁, he₁, hf₁, hgo₁⟩ := readString_go_escapeChar ch acc c hc hf
    obtain ⟨c', hr, he, hgo⟩ := ih (acc ++ (String.utf8EncodeChar ch).toArray) c₁ hr₁
      (by rw [hr₁]; simpa using hf₁)
    refine ⟨c', hr, by rw [he, he₁], ?_⟩
    rw [hgo₁, hgo]
    simp [Array.append_assoc]

theorem readString_quote (s : String) (c : Cursor)
    (hc : c.rest = utf8 (s.toList.flatMap escapeChar) ++ 34 :: r) :
    ∃ c', readString c = .ok (s, c') ∧ c'.rest = r ∧ c'.endOffset = c.endOffset := by
  obtain ⟨c', hr, he, hgo⟩ := readString_go_chars s.toList #[] c hc (Nat.lt_succ_self _)
  refine ⟨c', ?_, hr, he⟩
  rw [readString, hgo, Array.empty_append, fromUTF8?_utf8]
  rfl

/-- The bytes of a value, followed by anything, are read back as the value at a depth, with every
fuel above their number, leaving what follows. -/
def ReadsBack (depth : Nat) (x : Json) : Prop :=
  ∀ (c : Cursor) (r : List UInt8) (fuel : Nat), c.rest = utf8 x.render.toList ++ r →
    (utf8 x.render.toList).length < fuel →
    ∃ c', readValue depth c fuel = .ok (x, c') ∧ c'.rest = r ∧ c'.endOffset = c.endOffset

/-- The bytes of a value start with a quote or a bracket. -/
def Opens (x : Json) : Prop :=
  ∃ b t, utf8 x.render.toList = b :: t ∧ (b = 34 ∨ b = 91)

theorem utf8_render_str (s : String) :
    utf8 (Json.str s).render.toList = 34 :: (utf8 (s.toList.flatMap escapeChar) ++ [34]) := by
  rw [render, quote, String.toList_ofList, utf8_cons, utf8_append]
  rfl

theorem utf8_render_arr (xs : List Json) :
    utf8 (Json.arr xs).render.toList =
      91 :: (utf8 (List.intercalate [','] (xs.map fun x => x.render.toList) ++ [']'])) := by
  rw [render, String.toList_append, String.toList_append, SplitState.renderItems_toList,
    List.append_assoc]
  rfl

theorem opens_str (s : String) : Opens (.str s) := ⟨_, _, utf8_render_str s, Or.inl rfl⟩

theorem opens_arr (xs : List Json) : Opens (.arr xs) := ⟨_, _, utf8_render_arr xs, Or.inr rfl⟩

theorem Opens.first {b : UInt8} (h : b = 34 ∨ b = 91) :
    (b ≠ 32 ∧ b ≠ 9 ∧ b ≠ 10 ∧ b ≠ 13) ∧ b ≠ 93 ∧ b ≠ 44 := by
  rcases h with rfl | rfl <;> decide

theorem readsBack_str (depth : Nat) (s : String) : ReadsBack depth (.str s) := by
  intro c r fuel hc hf
  rw [utf8_render_str] at hc hf
  have hc' : c.rest = 34 :: (utf8 (s.toList.flatMap escapeChar) ++ 34 :: r) := by
    rw [hc]
    simp
  obtain ⟨f, rfl⟩ : ∃ f, fuel = f + 1 := ⟨fuel - 1, by omega⟩
  obtain ⟨c', hread, hr, he⟩ := readString_quote s c.advance (advance_rest hc')
  refine ⟨c', ?_, hr, by rw [he, endOffset_advance]⟩
  rw [readValue, skipBlanks_of_rest hc' (by decide)]
  simp [peek_of_rest hc', hread, Except.map]

theorem intercalate_cons_flatMap {α : Type} (sep : α) (l : List α) (ls : List (List α)) :
    List.intercalate [sep] (l :: ls) = l ++ ls.flatMap (sep :: ·) := by
  induction ls generalizing l with
  | nil => simp
  | cons l' ls ih =>
    rw [List.intercalate_cons_cons, ih, List.flatMap_cons, List.append_assoc]
    rfl

theorem readItems_close (depth : Nat) (first : Bool) (acc : List Json) (c : Cursor) (fuel : Nat)
    (hc : c.rest = 93 :: r) :
    readItems depth first acc c (fuel + 1) = .ok (acc.reverse, c.advance) := by
  rw [readItems, skipBlanks_of_rest hc (by decide)]
  simp [peek_of_rest hc]

/-- The items after the first, each after its comma, and the closing bracket are read as the
items. By induction on the items. -/
theorem readItems_more (depth : Nat) {xs : List Json} (hxs : ∀ x ∈ xs, ReadsBack depth x ∧ Opens x)
    (acc : List Json) (c : Cursor) (fuel : Nat)
    (hc : c.rest = utf8 ((xs.flatMap fun x => ',' :: x.render.toList) ++ [']']) ++ r)
    (hf : (utf8 ((xs.flatMap fun x => ',' :: x.render.toList) ++ [']'])).length < fuel) :
    ∃ c', readItems depth false acc c fuel = .ok (acc.reverse ++ xs, c') ∧ c'.rest = r ∧
      c'.endOffset = c.endOffset := by
  induction xs generalizing acc c fuel with
  | nil =>
    obtain ⟨f, rfl⟩ : ∃ f, fuel = f + 1 := ⟨fuel - 1, by simp at hf; omega⟩
    have hc' : c.rest = 93 :: r := hc
    exact ⟨c.advance, by rw [readItems_close depth false acc c f hc', List.append_nil],
      advance_rest hc', by simp⟩
  | cons x xs ih =>
    obtain ⟨hread, b, t, hopen, hb⟩ := hxs x List.mem_cons_self
    obtain ⟨hblank, h93, -⟩ := Opens.first hb
    set T := utf8 ((xs.flatMap fun x => ',' :: x.render.toList) ++ [']']) with hT
    have hbytes : utf8 (((x :: xs).flatMap fun x => ',' :: x.render.toList) ++ [']']) =
        44 :: (utf8 x.render.toList ++ T) := by
      rw [hT]
      simp only [List.flatMap_cons, List.cons_append, utf8_cons, utf8_append, List.append_assoc]
      rfl
    rw [hbytes] at hc hf
    obtain ⟨f, rfl⟩ : ∃ f, fuel = f + 1 := ⟨fuel - 1, by simp at hf; omega⟩
    have hc' : c.rest = 44 :: (utf8 x.render.toList ++ (T ++ r)) := by
      rw [hc, List.cons_append, List.append_assoc]
    have h₁ : c.advance.rest = b :: (t ++ (T ++ r)) := by
      rw [advance_rest hc', hopen, List.cons_append]
    have hlen : (utf8 x.render.toList).length + T.length < f := by
      simp only [List.length_cons, List.length_append] at hf
      omega
    obtain ⟨c₁, hv, hr₁, he₁⟩ := hread c.advance (T ++ r) f (advance_rest hc') (by omega)
    obtain ⟨c', hitems, hr, he⟩ := ih (fun y hy => hxs y (List.mem_cons_of_mem _ hy)) (x :: acc)
      c₁ f hr₁ (by omega)
    refine ⟨c', ?_, hr, by rw [he, he₁, endOffset_advance]⟩
    rw [readItems, skipBlanks_of_rest hc' (by decide)]
    simp [peek_of_rest hc', skipBlanks_of_rest h₁ hblank, peek_of_rest h₁, hv, hitems]

theorem readItems_first (depth : Nat) {xs : List Json} (hxs : ∀ x ∈ xs, ReadsBack depth x ∧ Opens x)
    (c : Cursor) (fuel : Nat)
    (hc : c.rest = utf8 (List.intercalate [','] (xs.map fun x => x.render.toList) ++ [']']) ++ r)
    (hf : (utf8 (List.intercalate [','] (xs.map fun x => x.render.toList) ++ [']'])).length < fuel) :
    ∃ c', readItems depth true [] c fuel = .ok (xs, c') ∧ c'.rest = r ∧
      c'.endOffset = c.endOffset := by
  cases xs with
  | nil =>
    obtain ⟨f, rfl⟩ : ∃ f, fuel = f + 1 := ⟨fuel - 1, by simp at hf; omega⟩
    have hc' : c.rest = 93 :: r := hc
    exact ⟨c.advance, readItems_close depth true [] c f hc', advance_rest hc', by simp⟩
  | cons x xs =>
    obtain ⟨hread, b, t, hopen, hb⟩ := hxs x List.mem_cons_self
    obtain ⟨hblank, h93, h44⟩ := Opens.first hb
    set T := utf8 ((xs.flatMap fun x => ',' :: x.render.toList) ++ [']']) with hT
    have hbytes : utf8 (List.intercalate [','] ((x :: xs).map fun x => x.render.toList) ++ [']']) =
        utf8 x.render.toList ++ T := by
      rw [hT, List.map_cons, intercalate_cons_flatMap, List.flatMap_map, List.append_assoc,
        utf8_append]
    rw [hbytes] at hc hf
    obtain ⟨f, rfl⟩ : ∃ f, fuel = f + 1 := ⟨fuel - 1, by omega⟩
    have hc' : c.rest = utf8 x.render.toList ++ (T ++ r) := by rw [hc, List.append_assoc]
    have h₁ : c.rest = b :: (t ++ (T ++ r)) := by rw [hc', hopen, List.cons_append]
    have hT₁ : 0 < T.length := by
      rw [hT, utf8_append, List.length_append]
      exact Nat.lt_add_left _ (by decide)
    have hx₁ : 0 < (utf8 x.render.toList).length := by rw [hopen]; simp
    have hlen : (utf8 x.render.toList).length + T.length < f + 1 := by simpa using hf
    obtain ⟨c₁, hv, hr₁, he₁⟩ := hread c (T ++ r) f hc' (by omega)
    obtain ⟨c', hitems, hr, he⟩ := readItems_more depth
      (fun y hy => hxs y (List.mem_cons_of_mem _ hy)) [x] c₁ f hr₁ (by rw [← hT]; omega)
    refine ⟨c', ?_, hr, by rw [he, he₁]⟩
    rw [readItems, skipBlanks_of_rest h₁ hblank]
    simp [peek_of_rest h₁, h93, hv, hitems]

theorem readsBack_arr {depth : Nat} (hd : 2 ≤ depth) {xs : List Json}
    (hxs : ∀ x ∈ xs, ReadsBack (depth - 1) x ∧ Opens x) : ReadsBack depth (.arr xs) := by
  intro c r fuel hc hf
  rw [utf8_render_arr] at hc hf
  obtain ⟨f, rfl⟩ : ∃ f, fuel = f + 1 := ⟨fuel - 1, by omega⟩
  have hc' : c.rest = 91 :: (utf8 (List.intercalate [','] (xs.map fun x => x.render.toList) ++
      [']']) ++ r) := hc
  obtain ⟨c', hitems, hr, he⟩ := readItems_first (depth - 1) hxs c.advance f (advance_rest hc')
    (by simp at hf ⊢; omega)
  refine ⟨c', ?_, hr, by rw [he, endOffset_advance]⟩
  have hdepth : ¬ depth ≤ 1 := by omega
  rw [readValue, skipBlanks_of_rest hc' (by decide)]
  simp [peek_of_rest hc', hdepth, hitems, Except.map]

theorem readsBack_ruleSet {depth : Nat} (hd : 2 ≤ depth) {x : Json} (h : x.isRuleSet) :
    ReadsBack depth x ∧ Opens x := by
  cases x with
  | str s => exact ⟨readsBack_str depth s, opens_str s⟩
  | arr items =>
    refine ⟨readsBack_arr hd fun y hy => ?_, opens_arr items⟩
    have hs : (y.asString?).isSome := by
      simp only [isRuleSet, List.all_eq_true] at h
      exact h y hy
    cases y with
    | str s => exact ⟨readsBack_str _ s, opens_str s⟩
    | _ => simp [asString?] at hs
  | _ => simp [isRuleSet] at h

theorem readLeading_ruleSets {sets : List Json} (h : ∀ x ∈ sets, x.isRuleSet) (rest : String) :
    readLeading ((Json.arr sets).render ++ rest) =
      .ok (some (.arr sets, (utf8 (Json.arr sets).render.toList).length)) := by
  set W := utf8 (Json.arr sets).render.toList with hW
  set c := Cursor.start ((Json.arr sets).render ++ rest)
  have hrest : c.rest = W ++ utf8 rest.toList := by
    simp only [c, Cursor.start, toUTF8_toList, String.toList_append, utf8_append, hW]
  have hc : c.rest = 91 :: ((utf8 (List.intercalate [','] (sets.map fun x => x.render.toList) ++
      [']'])) ++ utf8 rest.toList) := by
    rw [hrest, hW, utf8_render_arr, List.cons_append]
  have hback : ReadsBack 128 (.arr sets) :=
    readsBack_arr (by decide) fun x hx => readsBack_ruleSet (by decide) (h x hx)
  obtain ⟨c', hv, hr, he⟩ := hback c (utf8 rest.toList) (budget c) hrest
    (by rw [← hW]; simp only [budget, hrest, List.length_append]; omega)
  have hoff : c'.offset = W.length := by
    have hstart : c.offset = 0 := rfl
    simp only [endOffset, hr, hrest, hstart, List.length_append] at he
    omega
  rw [readLeading, skipBlanks_of_rest hc (by decide)]
  simp [peek_of_rest hc, hv, hoff, bind, Except.bind, pure, Except.pure]

end Json

end FieldRules

import Mathlib
import FieldRules.Proofs.ExceptMaps
import FieldRules.Proofs.AssocInsert
import FieldRules.Proofs.JsonText

namespace FieldRules

/-- The characters UTF-8 bytes spell: the bytes that start a character. -/
def charCount (bs : List UInt8) : Nat := bs.countP fun b => !(128 ≤ b.toNat && b.toNat < 192)

@[simp] theorem charCount_nil : charCount [] = 0 := rfl

@[simp] theorem charCount_append (xs ys : List UInt8) :
    charCount (xs ++ ys) = charCount xs + charCount ys := List.countP_append

theorem charCount_cons (b : UInt8) (bs : List UInt8) :
    charCount (b :: bs) = charCount [b] + charCount bs := by
  rw [← List.singleton_append, charCount_append]

theorem charCount_ascii {b : UInt8} (h : b.toNat < 128) : charCount [b] = 1 := by
  simp [charCount, h]

theorem charCount_continuation (x : UInt8) : charCount [x &&& 0x3f ||| 0x80] = 0 := by
  revert x
  decide +kernel

theorem charCount_lead (x : UInt8) :
    charCount [x &&& 0x1f ||| 0xc0] = 1 ∧ charCount [x &&& 0x0f ||| 0xe0] = 1 ∧
      charCount [x &&& 0x07 ||| 0xf0] = 1 := by
  revert x
  decide +kernel

theorem charCount_utf8EncodeChar (c : Char) : charCount (String.utf8EncodeChar c) = 1 := by
  -- one lead byte, then continuation bytes only
  rcases c.utf8Size_eq with h | h | h | h
  · have hc : c.val ≤ 127 := Char.utf8Size_eq_one_iff.1 h
    rw [String.utf8EncodeChar_eq_singleton h]
    apply charCount_ascii
    simp only [UInt32.toNat_toUInt8]
    have : c.val.toNat ≤ 127 := UInt32.le_iff_toNat_le.1 hc
    omega
  · rw [String.utf8EncodeChar_eq_cons_cons h, charCount_cons, (charCount_lead _).1,
      charCount_continuation]
  · rw [String.utf8EncodeChar_eq_cons_cons_cons h, charCount_cons, (charCount_lead _).2.1,
      charCount_cons, charCount_continuation, charCount_continuation]
  · rw [String.utf8EncodeChar_eq_cons_cons_cons_cons h, charCount_cons, (charCount_lead _).2.2,
      charCount_cons, charCount_continuation, charCount_cons, charCount_continuation,
      charCount_continuation]

theorem charCount_utf8 (cs : List Char) : charCount (utf8 cs) = cs.length := by
  induction cs with
  | nil => rfl
  | cons c cs ih =>
    rw [utf8_cons, charCount_append, charCount_utf8EncodeChar, ih, List.length_cons, Nat.add_comm]

theorem length_eq_charCount (s : String) : s.length = charCount s.toUTF8.toList := by
  rw [toUTF8_toList, charCount_utf8, String.length_toList]

theorem length_of_fromUTF8 {a : Array UInt8} {s : String}
    (h : String.fromUTF8? (ByteArray.mk a) = some s) : s.length = charCount a.toList := by
  unfold String.fromUTF8? at h
  split at h
  · cases h
    rename_i hv
    have hb : (String.fromUTF8 (ByteArray.mk a) hv).toByteArray.data.toList = a.toList := rfl
    rw [toByteArray_data_toList] at hb
    rw [← hb, charCount_utf8, String.length_toList]
  · cases h

theorem length_getD_fromUTF8_le (a : Array UInt8) :
    ((String.fromUTF8? (ByteArray.mk a)).getD "").length ≤ charCount a.toList := by
  cases h : String.fromUTF8? (ByteArray.mk a) with
  | none => exact Nat.zero_le _
  | some s => exact Nat.le_of_eq (length_of_fromUTF8 h)

namespace Json

mutual
/-- The characters a value takes at least when written as JSON text: each string with its
quotes, each array and object with its brackets, each member with its key's quotes and colon.
Numbers, booleans and `null` are not counted. -/
def textSize : Json → Nat
  | .str s => s.length + 2
  | .arr xs => itemsSize xs + 2
  | .obj fs => fieldsSize fs + 2
  | _ => 0

/-- The characters the elements of an array take at least. -/
def itemsSize : List Json → Nat
  | [] => 0
  | x :: xs => textSize x + itemsSize xs

/-- The characters the members of an object take at least. -/
def fieldsSize : List (String × Json) → Nat
  | [] => 0
  | (k, v) :: fs => k.length + 3 + textSize v + fieldsSize fs
end

theorem itemsSize_eq_sum (xs : List Json) : itemsSize xs = (xs.map textSize).sum := by
  induction xs with
  | nil => rfl
  | cons x xs ih => rw [itemsSize, ih, List.map_cons, List.sum_cons]

theorem itemsSize_reverse (xs : List Json) : itemsSize xs.reverse = itemsSize xs := by
  rw [itemsSize_eq_sum, itemsSize_eq_sum, List.map_reverse, List.sum_reverse]

theorem fieldsSize_eq_sum (fs : List (String × Json)) :
    fieldsSize fs = (fs.map fun (k, v) => k.length + 3 + textSize v).sum := by
  induction fs with
  | nil => rfl
  | cons p fs ih =>
    obtain ⟨k, v⟩ := p
    rw [fieldsSize, ih, List.map_cons, List.sum_cons]

theorem fieldsSize_map_replace {fs : List (String × Json)} (hfs : (fs.map (·.1)).Nodup)
    (k : String) (v : Json) :
    fieldsSize (fs.map fun p => if p.1 == k then (p.1, v) else p) ≤ fieldsSize fs + textSize v := by
  induction fs with
  | nil => simp [fieldsSize]
  | cons p fs ih =>
    obtain ⟨k', w⟩ := p
    obtain ⟨hk', hfs'⟩ := List.nodup_cons.1 hfs
    by_cases hk : k' = k
    · subst hk
      -- the key occurs once, so the other members stay as they are
      have hrest : (fs.map fun p => if p.1 == k' then (p.1, v) else p) = fs := by
        conv_rhs => rw [← List.map_id fs]
        refine List.map_congr_left fun x hx => ?_
        have hne : (x.1 == k') = false := by
          simp only [beq_eq_false_iff_ne]
          rintro rfl
          exact hk' (List.mem_map_of_mem (f := (·.1)) hx)
        simp [hne]
      simp only [List.map_cons, beq_self_eq_true, if_true, fieldsSize, hrest]
      omega
    · have hne : (k' == k) = false := beq_eq_false_iff_ne.2 hk
      simp only [List.map_cons, hne, Bool.false_eq_true, if_false, fieldsSize]
      have := ih hfs'
      omega

theorem fieldsSize_insert {fs : List (String × Json)} (hfs : (fs.map (·.1)).Nodup) (k : String)
    (v : Json) : fieldsSize (Assoc.insert fs k v) ≤ fieldsSize fs + (k.length + 3 + textSize v) := by
  by_cases h : (fs.any fun p => p.1 == k) = true
  · rw [Assoc.insert_of_any h v]
    have := fieldsSize_map_replace hfs k v
    omega
  · rw [Assoc.insert_of_not_any (Bool.eq_false_iff.2 h), fieldsSize_eq_sum, fieldsSize_eq_sum,
      List.map_append, List.sum_append]
    simp

namespace Cursor

/-- Reading moved the cursor forward: what is left to read is a suffix of what was. -/
def Moves (c c' : Cursor) : Prop := c'.rest <:+ c.rest

/-- Reading moved the cursor forward past bytes that spell at least `n` characters. -/
def Takes (c c' : Cursor) (n : Nat) : Prop := ∃ D, D ++ c'.rest = c.rest ∧ n ≤ charCount D

variable {c c' c'' : Cursor} {n m : Nat}

theorem Moves.refl (c : Cursor) : c.Moves c := List.suffix_refl _

theorem Moves.trans (h : c.Moves c') (h' : c'.Moves c'') : c.Moves c'' := List.IsSuffix.trans h' h

theorem moves_advance (c : Cursor) : c.Moves c.advance := by
  unfold Moves
  rw [advance_rest_tail]
  exact List.tail_suffix _

theorem moves_advanceN (k : Nat) (c : Cursor) :
    c.Moves ((List.range k).foldl (fun c _ => c.advance) c) := by
  unfold Moves
  rw [(advanceN k c).1]
  exact List.drop_suffix _ _

theorem moves_skipBlanks (c : Cursor) : c.Moves c.skipBlanks := moves_advanceN _ c

theorem Moves.takes (h : c.Moves c') : c.Takes c' 0 := by
  obtain ⟨D, hD⟩ := h
  exact ⟨D, hD, Nat.zero_le _⟩

theorem Takes.trans (h : c.Takes c' n) (h' : c'.Takes c'' m) : c.Takes c'' (n + m) := by
  obtain ⟨D, hD, hn⟩ := h
  obtain ⟨D', hD', hm⟩ := h'
  exact ⟨D ++ D', by rw [List.append_assoc, hD', hD], by rw [charCount_append]; omega⟩

theorem Takes.mono (h : c.Takes c' n) (hm : m ≤ n) : c.Takes c' m := by
  obtain ⟨D, hD, hn⟩ := h
  exact ⟨D, hD, by omega⟩

theorem Moves.takes_trans (h : c.Moves c') (h' : c'.Takes c'' n) : c.Takes c'' n := by
  simpa using h.takes.trans h'

theorem Takes.moves_trans (h : c.Takes c' n) (h' : c'.Moves c'') : c.Takes c'' n := by
  simpa using h.trans h'.takes

theorem rest_of_peek {b : UInt8} (h : c.peek = some b) : c.rest = b :: c.rest.tail := by
  unfold peek at h
  cases hr : c.rest with
  | nil => rw [hr] at h; cases h
  | cons x r => rw [hr] at h; cases h; rfl

theorem takes_advance_of_peek {b : UInt8} (h : c.peek = some b) : c.Takes c.advance (charCount [b]) :=
  ⟨[b], by rw [advance_rest_tail, rest_of_peek h]; rfl, Nat.le_refl _⟩

end Cursor

open Cursor

variable {c c' : Cursor}

theorem readWord_moves {word : List UInt8} (h : readWord word c = .ok c') : c.Moves c' := by
  induction word generalizing c with
  | nil =>
    cases h
    exact Moves.refl _
  | cons w ws ih =>
    unfold readWord at h
    rw [List.foldlM_cons] at h
    split at h
    · cases h
    · split at h
      · exact (moves_advance c).trans (ih h)
      · cases h

theorem exponentOverflow_moves {pos z p : Bool} {f : Float}
    (h : exponentOverflow pos z p c = .ok (f, c')) : c.Moves c' := by
  unfold exponentOverflow at h
  split at h
  · cases h
  · cases h
    exact moves_advanceN _ c

theorem scaleSignificand_map_moves {pos : Bool} {sig : Nat} {exp : Int} {c₀ : Cursor} {f : Float}
    (h : (scaleSignificand pos sig exp c₀).map (·, c) = .ok (f, c')) : c.Moves c' := by
  cases hs : scaleSignificand pos sig exp c₀ with
  | error e => rw [hs] at h; cases h
  | ok g =>
    rw [hs] at h
    cases h
    exact Moves.refl c

theorem readExponent_digits_moves {pos : Bool} {sig : Nat} {startExp : Int} {p : Bool} {f : Float} :
    ∀ fuel exp c, readExponent.digits pos sig startExp p exp c fuel = .ok (f, c') → c.Moves c' := by
  intro fuel
  induction fuel with
  | zero => intro exp c h; cases h
  | succ fuel ih =>
    intro exp c h
    unfold readExponent.digits at h
    split at h
    · split at h
      · split at h
        · exact (moves_advance c).trans (exponentOverflow_moves h)
        · exact (moves_advance c).trans (ih _ _ h)
      · exact scaleSignificand_map_moves h
    · exact scaleSignificand_map_moves h

theorem readExponent_moves {pos : Bool} {sig : Nat} {startExp : Int} {f : Float}
    (h : readExponent pos sig startExp c = .ok (f, c')) : c.Moves c' := by
  unfold readExponent at h
  dsimp only at h
  split at h
  · cases h
  · split at h
    · cases h
    · refine Moves.trans ?_ ((moves_advance _).trans (readExponent_digits_moves _ _ _ h))
      -- the sign, if there is one, was read after the `e`
      split
      · exact (moves_advance c).trans (moves_advance _)
      · exact (moves_advance c).trans (moves_advance _)
      · exact moves_advance c

theorem fractionOverflow_moves {pos : Bool} {sig : Nat} {exp : Int} {f : Float}
    (h : fractionOverflow pos sig exp c = .ok (f, c')) : c.Moves c' := by
  unfold fractionOverflow at h
  dsimp only at h
  split at h
  · exact (moves_advanceN _ c).trans (readExponent_moves h)
  · exact (moves_advanceN _ c).trans (readExponent_moves h)
  · exact (moves_advanceN _ c).trans (scaleSignificand_map_moves h)

theorem readFraction_finish_moves {pos : Bool} {expBefore : Int} {sig after : Nat} {f : Float}
    (h : readFraction.finish pos expBefore sig after c = .ok (f, c')) : c.Moves c' := by
  unfold readFraction.finish at h
  split at h
  · split at h <;> cases h
  · dsimp only at h
    split at h
    · exact readExponent_moves h
    · exact readExponent_moves h
    · exact scaleSignificand_map_moves h

theorem readFraction_digits_moves {pos : Bool} {expBefore : Int} {f : Float} :
    ∀ fuel sig after c, readFraction.digits pos expBefore sig after c fuel = .ok (f, c') →
      c.Moves c' := by
  intro fuel
  induction fuel with
  | zero => intro sig after c h; cases h
  | succ fuel ih =>
    intro sig after c h
    unfold readFraction.digits at h
    split at h
    · split at h
      · split at h
        · exact fractionOverflow_moves h
        · exact (moves_advance c).trans (ih _ _ _ h)
      · exact readFraction_finish_moves h
    · exact readFraction_finish_moves h

theorem readFraction_moves {pos : Bool} {sig : Nat} {expBefore : Int} {f : Float}
    (h : readFraction pos sig expBefore c = .ok (f, c')) : c.Moves c' :=
  (moves_advance c).trans (readFraction_digits_moves _ _ _ _ h)

theorem readLongInteger_moves {pos : Bool} {sig : Nat} {f : Float}
    (h : readLongInteger pos sig c = .ok (f, c')) : c.Moves c' := by
  unfold readLongInteger at h
  dsimp only at h
  split at h
  · exact (moves_advanceN _ c).trans (readFraction_moves h)
  · exact (moves_advanceN _ c).trans (readExponent_moves h)
  · exact (moves_advanceN _ c).trans (readExponent_moves h)
  · exact (moves_advanceN _ c).trans (scaleSignificand_map_moves h)

theorem map_float_moves {x : Except ReadError (Float × Cursor)} {n : Num}
    (hx : ∀ f c₁, x = .ok (f, c₁) → c.Moves c₁)
    (h : x.map (fun (f, c) => (Num.float f, c)) = .ok (n, c')) : c.Moves c' := by
  cases x with
  | error e => cases h
  | ok p =>
    cases h
    exact hx _ _ rfl

theorem readNumberTail_moves {pos : Bool} {sig : Nat} {n : Num}
    (h : readNumberTail pos sig c = .ok (n, c')) : c.Moves c' := by
  unfold readNumberTail at h
  split at h
  · exact map_float_moves (fun _ _ hx => readFraction_moves hx) h
  · exact map_float_moves (fun _ _ hx => readExponent_moves hx) h
  · exact map_float_moves (fun _ _ hx => readExponent_moves hx) h
  · cases h
    exact Moves.refl _

theorem readNumber_digits_moves {pos : Bool} {n : Num} :
    ∀ fuel sig c, readNumber.digits pos sig c fuel = .ok (n, c') → c.Moves c' := by
  intro fuel
  induction fuel with
  | zero => intro sig c h; cases h
  | succ fuel ih =>
    intro sig c h
    unfold readNumber.digits at h
    split at h
    · split at h
      · split at h
        · exact map_float_moves (fun _ _ hx => readLongInteger_moves hx) h
        · exact (moves_advance c).trans (ih _ _ h)
      · exact readNumberTail_moves h
    · exact readNumberTail_moves h

theorem readNumber_moves {pos : Bool} {n : Num} (h : readNumber pos c = .ok (n, c')) :
    c.Moves c' := by
  unfold readNumber at h
  split at h
  · cases h
  · dsimp only at h
    split at h
    · split at h
      · split at h
        · cases h
        · exact (moves_advance c).trans (readNumberTail_moves h)
      · exact (moves_advance c).trans (readNumberTail_moves h)
    · split at h
      · exact (moves_advance c).trans (readNumber_digits_moves _ _ _ h)
      · cases h

theorem readHex4_moves {n : Nat} (h : readHex4 c = .ok (n, c')) : c.Moves c' := by
  unfold readHex4 at h
  split at h
  · cases h
  · dsimp only at h
    split at h
    · cases h
      exact moves_advanceN 4 c
    · cases h

theorem charCount_utf8Bytes (n : Nat) : charCount (utf8Bytes n) = 1 := by
  rw [utf8Bytes, toUTF8_toList, String.toList_singleton, utf8_cons, utf8_nil, List.append_nil,
    charCount_utf8EncodeChar]

theorem readUnicodeEscape_moves {bs : List UInt8} (h : readUnicodeEscape c = .ok (bs, c')) :
    c.Moves c' ∧ charCount bs = 1 := by
  unfold readUnicodeEscape at h
  cases h₁ : readHex4 c with
  | error e => simp [h₁, bind, Except.bind] at h
  | ok p =>
    obtain ⟨n, c₁⟩ := p
    have hm₁ := readHex4_moves h₁
    simp only [h₁, bind, Except.bind] at h
    -- past the first four digits: a lone low surrogate is refused, a character ends here, and a
    -- high surrogate needs a second escape
    split at h
    · simp [throw, throwThe, MonadExceptOf.throw] at h
    split at h
    · cases h
      exact ⟨hm₁, charCount_utf8Bytes n⟩
    split at h
    · cases h
    rename_i b hb
    split at h
    · simp [throw, throwThe, MonadExceptOf.throw] at h
    split at h
    · cases h
    rename_i b' hb'
    split at h
    · simp [throw, throwThe, MonadExceptOf.throw] at h
    split at h
    · cases h
    rename_i q hq
    have hm₂ := readHex4_moves hq
    have hstep : c₁.Moves c₁.advance.advance := (moves_advance _).trans (moves_advance _)
    split at h
    · simp [throw, throwThe, MonadExceptOf.throw] at h
    · cases h
      exact ⟨hm₁.trans (hstep.trans hm₂), charCount_utf8Bytes _⟩

theorem readEscape_takes {bs : List UInt8} (h : readEscape c = .ok (bs, c')) :
    c.Takes c' (charCount bs) := by
  unfold readEscape at h
  split at h
  · cases h
  · rename_i b hb
    dsimp only at h
    have hadv := takes_advance_of_peek hb
    split at h
    case h_9 =>
      -- `\u` and its digits stand for one character
      obtain ⟨hm, hbs⟩ := readUnicodeEscape_moves h
      rw [hbs]
      exact (hadv.moves_trans hm).mono (Nat.le_of_eq (charCount_ascii (by decide)).symm)
    case h_10 => cases h
    -- a one-letter escape stands for one character
    all_goals
      cases h
      exact hadv

theorem readString_go_takes {s : String} : ∀ fuel (acc : Array UInt8) (c : Cursor),
    readString.go acc c fuel = .ok (s, c') →
      ∃ D, D ++ c'.rest = c.rest ∧ s.length + 1 ≤ charCount acc.toList + charCount D := by
  intro fuel
  induction fuel with
  | zero => intro acc c h; cases h
  | succ fuel ih =>
    intro acc c h
    unfold readString.go at h
    split at h
    · cases h
    rename_i b hb
    have hc := rest_of_peek hb
    have hadv : c.advance.rest = c.rest.tail := advance_rest_tail c
    dsimp only at h
    split at h
    · -- the closing quote
      rename_i hq
      cases h
      have h34 : charCount [b] = 1 := by rw [beq_iff_eq.1 hq]; rfl
      have := length_getD_fromUTF8_le acc
      refine ⟨[b], by rw [hadv, hc]; rfl, ?_⟩
      omega
    split at h
    · -- an escape, kept as the bytes it stands for
      split at h
      · rename_i bs c₁ he
        obtain ⟨E, hE, hbs⟩ := readEscape_takes he
        obtain ⟨D₁, hD₁, hs⟩ := ih _ _ h
        refine ⟨b :: (E ++ D₁), ?_, ?_⟩
        · rw [List.cons_append, List.append_assoc, hD₁, hE, hadv, hc]
          rfl
        · simp only [Array.toList_append, charCount_append] at hs
          rw [charCount_cons, charCount_append]
          omega
      · cases h
    split at h
    · cases h
    -- a plain byte, kept
    obtain ⟨D₁, hD₁, hs⟩ := ih _ _ h
    refine ⟨b :: D₁, by rw [List.cons_append, hD₁, hadv, hc]; rfl, ?_⟩
    simp only [Array.toList_push, charCount_append] at hs
    rw [charCount_cons]
    omega

theorem readString_takes {s : String} (h : readString c = .ok (s, c')) : c.Takes c' (s.length + 1) := by
  obtain ⟨D, hD, hs⟩ := readString_go_takes _ _ _ h
  exact ⟨D, hD, by simpa using hs⟩

/-- What a value read with the given fuel takes at least: its strings, keys, brackets, quotes and
colons. -/
def ValueTakes (fuel : Nat) : Prop :=
  ∀ depth c v c', readValue depth c fuel = .ok (v, c') → c.Takes c' v.textSize

/-- What the elements of an array read with the given fuel take at least, beyond those already
read: each element and the closing bracket. -/
def ItemsTake (fuel : Nat) : Prop :=
  ∀ depth first acc c xs c', readItems depth first acc c fuel = .ok (xs, c') →
    ∃ D, D ++ c'.rest = c.rest ∧ itemsSize xs + 1 ≤ itemsSize acc + charCount D

/-- What the members of an object read with the given fuel take at least, beyond those already
read: each key with its quotes and colon, each value and the closing brace. A member whose key
comes again replaces the earlier one, which the keys being distinct bounds. -/
def MembersTake (fuel : Nat) : Prop :=
  ∀ depth first (acc : List (String × Json)) c fs c', (acc.map (·.1)).Nodup →
    readMembers depth first acc c fuel = .ok (fs, c') →
      ∃ D, D ++ c'.rest = c.rest ∧ fieldsSize fs + 1 ≤ fieldsSize acc + charCount D

theorem takes_of_readWord {w : List UInt8} {j v : Json}
    (h : (readWord w c.advance).map (j, ·) = .ok (v, c')) (hj : j.textSize = 0) :
    c.Takes c' v.textSize := by
  obtain ⟨c₁, hw, hv⟩ := exists_of_map_eq_ok h
  cases hv
  rw [hj]
  exact ((moves_advance _).trans (readWord_moves hw)).takes

theorem takes_close {b : UInt8} (h : (c.skipBlanks.peek == some b) = true) :
    c.Takes c.skipBlanks.advance (charCount [b]) :=
  (moves_skipBlanks c).takes_trans (takes_advance_of_peek (by simpa using h))

/-- The separator before an element or a member that is a comma: nothing before the first one,
the comma and the blanks after it before the others. -/
theorem moves_of_comma {first : Bool} {c₁ : Cursor}
    (h : (if first = true then .ok c else .ok c.advance.skipBlanks : Except ReadError Cursor) =
      .ok c₁) : c.Moves c₁ := by
  split at h <;> cases h
  · exact Moves.refl _
  · exact (moves_advance _).trans (moves_skipBlanks _)

theorem moves_of_first {first : Bool} {e : ReadError} {c₁ : Cursor}
    (h : (if first = true then .ok c else .error e : Except ReadError Cursor) = .ok c₁) :
    c.Moves c₁ := by
  split at h <;> cases h
  exact Moves.refl _

theorem readValue_takes_succ {fuel : Nat} (hi : ItemsTake fuel) (hm : MembersTake fuel) :
    ValueTakes (fuel + 1) := by
  intro depth c v c' h
  rw [readValue] at h
  have hb := moves_skipBlanks c
  dsimp only at h
  -- after the blanks, the first byte says what the value is
  split at h
  · cases h
  -- `null`, `true`, `false` and numbers take no counted characters
  · exact hb.takes_trans (takes_of_readWord h rfl)
  · exact hb.takes_trans (takes_of_readWord h rfl)
  · exact hb.takes_trans (takes_of_readWord h rfl)
  · obtain ⟨⟨n, c₁⟩, hn, hv⟩ := exists_of_map_eq_ok h
    cases hv
    exact (hb.trans ((moves_advance _).trans (readNumber_moves hn))).takes
  · -- a string: its quotes and characters
    rename_i hp
    obtain ⟨⟨s, c₁⟩, hs, hv⟩ := exists_of_map_eq_ok h
    cases hv
    have h34 : charCount [34] = 1 := rfl
    refine (hb.takes_trans ((takes_advance_of_peek hp).trans (readString_takes hs))).mono ?_
    simp only [textSize]
    omega
  · -- an array: its brackets and elements
    rename_i hp
    split at h
    · cases h
    obtain ⟨⟨xs, c₁⟩, hx, hv⟩ := exists_of_map_eq_ok h
    cases hv
    obtain ⟨D, hD, hsz⟩ := hi _ _ _ _ _ _ hx
    have h91 : charCount [91] = 1 := rfl
    refine (hb.takes_trans ((takes_advance_of_peek hp).trans ⟨D, hD, Nat.le_refl _⟩)).mono ?_
    simp only [textSize, itemsSize] at hsz ⊢
    omega
  · -- an object: its braces and members
    rename_i hp
    split at h
    · cases h
    obtain ⟨⟨fs, c₁⟩, hf, hv⟩ := exists_of_map_eq_ok h
    cases hv
    obtain ⟨D, hD, hsz⟩ := hm _ _ [] _ _ _ List.nodup_nil hf
    have h123 : charCount [123] = 1 := rfl
    refine (hb.takes_trans ((takes_advance_of_peek hp).trans ⟨D, hD, Nat.le_refl _⟩)).mono ?_
    simp only [textSize, fieldsSize] at hsz ⊢
    omega
  · split at h
    · obtain ⟨⟨n, c₁⟩, hn, hv⟩ := exists_of_map_eq_ok h
      cases hv
      exact (hb.trans (readNumber_moves hn)).takes
    · cases h

theorem readItems_takes_succ {fuel : Nat} (hv : ValueTakes fuel) (hi : ItemsTake fuel) :
    ItemsTake (fuel + 1) := by
  intro depth first acc c xs c' h
  rw [readItems] at h
  split at h
  · rename_i hclose
    cases h
    obtain ⟨D, hD, hn⟩ := takes_close hclose
    have h93 : charCount [93] = 1 := rfl
    refine ⟨D, hD, ?_⟩
    rw [itemsSize_reverse]
    omega
  split at h
  · cases h
  rename_i c₁ hnext
  have hm₁ : c.skipBlanks.Moves c₁ := by
    split at hnext
    · cases hnext
    · exact moves_of_comma hnext
    · exact moves_of_first hnext
    · cases hnext
  -- an element, then the others after it
  split at h
  · cases h
  · split at h
    · rename_i v c₂ hread
      obtain ⟨D₂, hD₂, hsz⟩ := hi _ _ _ _ _ _ h
      obtain ⟨D, hD, hn⟩ := ((moves_skipBlanks c).trans hm₁).takes_trans
        ((hv _ _ _ _ hread).trans (⟨D₂, hD₂, Nat.le_refl _⟩ : c₂.Takes c' (charCount D₂)))
      refine ⟨D, hD, ?_⟩
      simp only [itemsSize] at hsz
      omega
    · cases h
  · cases h

theorem readMembers_takes_succ {fuel : Nat} (hv : ValueTakes fuel) (hm : MembersTake fuel) :
    MembersTake (fuel + 1) := by
  intro depth first acc c fs c' hacc h
  rw [readMembers] at h
  split at h
  · rename_i hclose
    cases h
    obtain ⟨D, hD, hn⟩ := takes_close hclose
    have h125 : charCount [125] = 1 := rfl
    exact ⟨D, hD, by omega⟩
  split at h
  · cases h
  rename_i c₁ hnext
  have hm₁ : c.skipBlanks.Moves c₁ := by
    split at hnext
    · cases hnext
    · exact moves_of_comma hnext
    · exact moves_of_first hnext
    · cases hnext
  -- a key in quotes, a colon and a value, then the other members after it
  split at h
  · rename_i hq
    split at h
    · cases h
    rename_i key c₂ hkey
    dsimp only at h
    split at h
    · rename_i hcolon
      split at h
      · rename_i v c₃ hread
        obtain ⟨D₃, hD₃, hsz⟩ := hm _ _ _ _ _ _ (Assoc.nodup_keys_insert hacc key v) h
        have hins := fieldsSize_insert hacc key v
        have h34 : charCount [34] = 1 := rfl
        have h58 : charCount [58] = 1 := rfl
        obtain ⟨D, hD, hn⟩ := ((moves_skipBlanks c).trans hm₁).takes_trans
          (((takes_advance_of_peek hq).trans (readString_takes hkey)).trans
            ((moves_skipBlanks c₂).takes_trans ((takes_advance_of_peek hcolon).trans
              ((hv _ _ _ _ hread).trans (⟨D₃, hD₃, Nat.le_refl _⟩ : c₃.Takes c' (charCount D₃))))))
        exact ⟨D, hD, by omega⟩
      · cases h
    · cases h
    · cases h
  · cases h
  · cases h
  · cases h

/-- What a value read takes at least: its strings, keys, brackets, quotes and colons. By
induction on the fuel, along the reader's three functions, each step reading the parts inside
with one unit less. -/
theorem read_takes (fuel : Nat) : ValueTakes fuel ∧ ItemsTake fuel ∧ MembersTake fuel := by
  induction fuel with
  | zero =>
    -- without fuel every reader stops at once
    refine ⟨fun _ _ _ _ h => ?_, fun _ _ _ _ _ _ h => ?_, fun _ _ _ _ _ _ _ h => ?_⟩
    · rw [readValue] at h; cases h
    · rw [readItems] at h; cases h
    · rw [readMembers] at h; cases h
  | succ fuel ih =>
    obtain ⟨hv, hi, hm⟩ := ih
    exact ⟨readValue_takes_succ hi hm, readItems_takes_succ hv hi, readMembers_takes_succ hv hm⟩

theorem Cursor.Takes.le_charCount {c c' : Cursor} {n : Nat} (h : c.Takes c' n) :
    n ≤ charCount c.rest := by
  obtain ⟨D, hD, hn⟩ := h
  rw [← hD, charCount_append]
  omega

theorem textSize_le_of_read {text : String} {v : Json} (h : read text = .ok v) :
    v.textSize ≤ text.length := by
  simp only [read, bind, Except.bind] at h
  split at h
  · cases h
  rename_i p hv
  have ht := ((read_takes _).1 _ _ _ _ hv).le_charCount
  rw [length_eq_charCount]
  split at h
  · cases h
    exact ht
  · cases h

theorem textSize_le_of_readLeading {text : String} {v : Json} {n : Nat}
    (h : readLeading text = .ok (some (v, n))) : v.textSize ≤ text.length := by
  simp only [readLeading, bind, Except.bind] at h
  split at h
  · cases h
  split at h
  · cases h
  rename_i p hv
  obtain ⟨w, c₁⟩ := p
  have ht := ((Cursor.moves_skipBlanks _).takes_trans ((read_takes _).1 _ _ _ _ hv)).le_charCount
  -- whatever follows, the value given is the one read
  have hw : w = v := by
    have hpure : (pure (some (w, c₁.offset)) : Except ReadError _) = .ok (some (v, n)) → w = v := by
      intro hp
      cases hp
      rfl
    split at h
    · exact hpure h
    split at h
    · exact hpure h
    split at h
    · exact hpure h
    · cases h
  rw [length_eq_charCount, ← hw]
  exact ht

end Json

end FieldRules

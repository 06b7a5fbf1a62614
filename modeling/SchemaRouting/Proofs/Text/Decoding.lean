import SchemaRouting.Proofs.Text.Order
import SchemaRouting.Text.Utf8

/-!
# Decoding UTF-8

The bytes of a text are decoded to it. A first byte says how many follow it, and the range of the
second leaves out just what no character has (`step_two`, `step_three`, `step_four`), so the machine
passes the bytes of one character, whichever follow them, with that character alone
(`decodeFrom_utf8EncodeChar`). Bytes are therefore read as a text where they encode it and as none
where they encode none (`ofUtf8?_eq_some_iff`).
-/

set_option autoImplicit false
set_option relaxedAutoImplicit false

namespace SchemaRouting.Text

/-! ### The bytes of a text -/

theorem toList_loop_eq (bs : ByteArray) (i : Nat) (read : List UInt8) :
    ByteArray.toList.loop bs i read = read.reverse ++ bs.data.toList.drop i := by
  induction i, read using ByteArray.toList.loop.induct bs with
  | case1 i read hlt ih =>
    have hi : i < bs.data.toList.length := by simpa using hlt
    have hget : bs.get! i = bs.data.toList[i] := by
      rw [ByteArray.get!, Array.getElem_toList]
      exact getElem!_pos bs.data i (by simpa using hlt)
    rw [ByteArray.toList.loop, if_pos hlt, ih, List.drop_eq_getElem_cons hi, hget]
    simp
  | case2 i read hge =>
    have hlength : bs.data.toList.length ≤ i := by simpa using hge
    rw [ByteArray.toList.loop, if_neg hge, List.drop_eq_nil_of_le hlength, List.append_nil]

theorem utf8_eq_charBytes (s : String) : utf8 s = charBytes s.toList := by
  rw [← bytes_eq_charBytes, utf8, String.toUTF8_eq_toByteArray, ByteArray.toList, toList_loop_eq]
  rfl

/-! ### The first byte of a character -/

namespace Pending

variable {b bits left low high : Nat}

theorem step_one (h : b < 0x80) : none.step b = (none, [Char.ofNat b]) := by
  rw [step, start, if_pos h]

theorem step_two (hlow : 0xC2 ≤ b) (hhigh : b ≤ 0xDF) :
    none.step b = (more (b % 0x20) 1 0x80 0xBF, []) := by
  rw [step, start, if_neg (by omega), if_pos (by simp; omega)]

/-- The second of three bytes is restricted where the first would begin what is written with two or
is no character. -/
theorem step_three (hlow : 0xE0 ≤ b) (hhigh : b ≤ 0xEF) :
    none.step b = (more (b % 0x10) 2 (if b = 0xE0 then 0xA0 else 0x80)
      (if b = 0xED then 0x9F else 0xBF), []) := by
  rw [step]
  unfold start
  split_ifs <;> simp_all <;> omega

/-- The second of four bytes is restricted where the first would begin what is written with three or
lies beyond all characters. -/
theorem step_four (hlow : 0xF0 ≤ b) (hhigh : b ≤ 0xF4) :
    none.step b = (more (b % 8) 3 (if b = 0xF0 then 0x90 else 0x80)
      (if b = 0xF4 then 0x8F else 0xBF), []) := by
  rw [step]
  unfold start
  split_ifs <;> simp_all <;> omega

theorem step_more (hlow : low ≤ b) (hhigh : b ≤ high) (hleft : 1 < left) :
    (more bits left low high).step b =
      (more (bits * 0x40 + b % 0x40) (left - 1) 0x80 0xBF, []) := by
  rw [step, if_pos (by simp; omega), if_neg (by omega)]

theorem step_last (hlow : low ≤ b) (hhigh : b ≤ high) :
    (more bits 1 low high).step b = (none, [Char.ofNat (bits * 0x40 + b % 0x40)]) := by
  rw [step, if_pos (by simp; omega), if_pos (Nat.le_refl 1)]

end Pending

theorem decodeFrom_cons {p q : Pending} {b : UInt8} {cs : List Char} {n : Nat} (hb : b.toNat = n)
    (hstep : p.step n = (q, cs)) (rest : List UInt8) :
    decodeFrom p (b :: rest) = cs ++ decodeFrom q rest := by
  rw [decodeFrom, hb, hstep]

/-- The bytes of a character are passed with that character, whatever follows them. -/
theorem decodeFrom_utf8EncodeChar (c : Char) (rest : List UInt8) :
    decodeFrom .none (String.utf8EncodeChar c ++ rest) = c :: decodeFrom .none rest := by
  have hvalid : c.val.toNat < 0xD800 ∨ 0xDFFF < c.val.toNat ∧ c.val.toNat < 0x110000 := by
    have h := c.valid
    simp only [UInt32.isValidChar, Nat.isValidChar] at h
    omega
  have hc : Char.ofNat c.val.toNat = c := Char.ofNat_toNat c
  unfold String.utf8EncodeChar
  generalize c.val.toNat = n at *
  have hbyte (n : Nat) (hn : n < 256) : (UInt8.ofNat n).toNat = n := by
    rw [UInt8.toNat_ofNat', Nat.mod_eq_of_lt hn]
  dsimp only
  split_ifs with hone htwo hthree
  · refine (decodeFrom_cons (hbyte _ (by omega)) (Pending.step_one (by omega)) _).trans ?_
    rw [hc]
    rfl
  · refine (decodeFrom_cons (hbyte _ (by omega))
      (Pending.step_two (by omega) (by omega)) _).trans ?_
    refine (decodeFrom_cons (hbyte _ (by omega))
      (Pending.step_last (by omega) (by omega)) _).trans ?_
    have hbits : (n / 64 % 32 + 192) % 0x20 * 0x40 + (n % 64 + 128) % 0x40 = n := by omega
    rw [hbits, hc]
    rfl
  · refine (decodeFrom_cons (hbyte _ (by omega))
      (Pending.step_three (by omega) (by omega)) _).trans ?_
    refine (decodeFrom_cons (hbyte _ (by omega))
      (Pending.step_more (by split_ifs <;> omega) (by split_ifs <;> omega) (by omega)) _).trans ?_
    refine (decodeFrom_cons (hbyte _ (by omega))
      (Pending.step_last (by omega) (by omega)) _).trans ?_
    have hbits : ((n / 4096 % 16 + 224) % 0x10 * 0x40 + (n / 64 % 64 + 128) % 0x40) * 0x40 +
        (n % 64 + 128) % 0x40 = n := by omega
    rw [hbits, hc]
    rfl
  · refine (decodeFrom_cons (hbyte _ (by omega))
      (Pending.step_four (by omega) (by omega)) _).trans ?_
    refine (decodeFrom_cons (hbyte _ (by omega))
      (Pending.step_more (by split_ifs <;> omega) (by split_ifs <;> omega) (by omega)) _).trans ?_
    refine (decodeFrom_cons (hbyte _ (by omega))
      (Pending.step_more (by omega) (by omega) (by omega)) _).trans ?_
    refine (decodeFrom_cons (hbyte _ (by omega))
      (Pending.step_last (by omega) (by omega)) _).trans ?_
    have hbits : (((n / 262144 % 8 + 240) % 8 * 0x40 + (n / 4096 % 64 + 128) % 0x40) * 0x40 +
        (n / 64 % 64 + 128) % 0x40) * 0x40 + (n % 64 + 128) % 0x40 = n := by omega
    rw [hbits, hc]
    rfl

theorem decodeFrom_charBytes (cs : List Char) : decodeFrom .none (charBytes cs) = cs := by
  induction cs with
  | nil => rfl
  | cons c cs ih =>
    rw [charBytes, List.flatMap_cons, decodeFrom_utf8EncodeChar]
    exact congrArg _ ih

/-- The bytes of a text are decoded to it. -/
theorem ofUtf8Lossy_utf8 (s : String) : ofUtf8Lossy (utf8 s) = s := by
  rw [ofUtf8Lossy, utf8_eq_charBytes, decodeFrom_charBytes, String.ofList_toList]

/-- Bytes are read as a text exactly if they encode it. -/
theorem ofUtf8?_eq_some_iff {bytes : List UInt8} {s : String} :
    ofUtf8? bytes = some s ↔ utf8 s = bytes := by
  rw [ofUtf8?]
  constructor
  · intro h
    split_ifs at h with hbytes
    cases h
    exact hbytes
  · rintro rfl
    rw [ofUtf8Lossy_utf8, if_pos rfl]

end SchemaRouting.Text

import Mathlib.Data.String.Basic

set_option autoImplicit false

/-!
# The order of UTF-8 bytes

Texts are compared character by character. Their UTF-8 bytes compare the same way: where two texts
first differ, the greater character has the greater bytes, and no character's bytes start with those
of another one.

## Main definitions

* `Text.utf8Bytes` - the UTF-8 bytes of a text.

## Main results

* `Text.lex_utf8Bytes_iff` - texts and their UTF-8 bytes have the same order.
-/

namespace RegisterFile.Text

/-- The UTF-8 bytes of a text. -/
def utf8Bytes (s : String) : List UInt8 := s.toUTF8.data.toList

/-- The bytes of a text are those of its characters. -/
lemma utf8Bytes_eq_flatMap (s : String) :
    utf8Bytes s = s.toList.flatMap String.utf8EncodeChar := by
  rw [utf8Bytes, String.toUTF8_eq_toByteArray, ← String.utf8Encode_toList, List.utf8Encode]
  exact List.toList_data_toByteArray

/-- The bytes of a character come before those of a greater one, whatever follows either.

**Proof sketch.** The number of bytes shows in the first one, which grows with it. Characters of
equally many bytes differ in a digit to the base 64, and the bytes hold these digits, the most
significant one first. -/
lemma utf8EncodeChar_append_lt {c d : Char} (h : c < d) (as bs : List UInt8) :
    String.utf8EncodeChar c ++ as < String.utf8EncodeChar d ++ bs := by
  have hlt : c.val.toNat < d.val.toNat := h
  have hvalid : d.val.toNat < 0x110000 := by
    have hd := d.valid
    unfold UInt32.isValidChar Nat.isValidChar at hd
    omega
  -- the digits to the base 64 are taken off one by one, which keeps the arithmetic linear
  have hdiv (n : Nat) : n / 4096 = n / 64 / 64 ∧ n / 262144 = n / 64 / 64 / 64 := by omega
  simp only [String.utf8EncodeChar, hdiv]
  split_ifs <;>
    simp only [List.cons_append, List.nil_append, List.cons_lt_cons_iff, UInt8.lt_iff_toNat_lt,
      ← UInt8.toNat_inj, UInt8.toNat_ofNat'] <;>
    omega

/-- The bytes of characters come before those of greater characters.

**Proof sketch.** Induction on where the characters differ first. -/
lemma flatMap_utf8EncodeChar_lt {cs ds : List Char} (h : cs < ds) :
    cs.flatMap String.utf8EncodeChar < ds.flatMap String.utf8EncodeChar := by
  induction h with
  | @nil d ds =>
    obtain ⟨b, bs, hbytes⟩ := List.exists_cons_of_ne_nil (String.utf8EncodeChar_ne_nil (c := d))
    rw [List.flatMap_nil, List.flatMap_cons, hbytes, List.cons_append]
    exact List.nil_lt_cons _ _
  | rel hcd =>
    rw [List.flatMap_cons, List.flatMap_cons]
    exact utf8EncodeChar_append_lt hcd _ _
  | cons _ ih =>
    rw [List.flatMap_cons, List.flatMap_cons]
    exact List.append_left_lt ih

/-- **Texts and their UTF-8 bytes have the same order.** -/
theorem lex_utf8Bytes_iff (s t : String) :
    List.Lex (· < ·) (utf8Bytes s) (utf8Bytes t) ↔ s < t := by
  have hmono {s t : String} (h : s < t) : utf8Bytes s < utf8Bytes t := by
    rw [utf8Bytes_eq_flatMap, utf8Bytes_eq_flatMap]
    exact flatMap_utf8EncodeChar_lt h
  rw [List.lex_lt]
  constructor
  · intro h
    rcases lt_trichotomy s t with hlt | rfl | hgt
    · exact hlt
    · exact absurd h (List.lt_irrefl _)
    · exact absurd h (List.lt_asymm (hmono hgt))
  · exact hmono

end RegisterFile.Text

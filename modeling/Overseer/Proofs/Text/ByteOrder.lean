import Overseer.Keyed

/-!
# The order of texts, byte by byte

Texts are compared character by character.  That is also the order of the bytes that they are made
of.

* `Text.bytes` -- the bytes of a text, those of its characters one after the other (`bytes_eq`);
* `Text.Encoded` -- the bytes of one character;
* `Text.encode_lt` -- the lesser character decides, whatever follows;
* `Text.bytes_lt_iff` -- and so for whole texts.
-/

namespace Overseer.Text

/-- The bytes of a text. -/
def bytes (text : String) : List UInt8 := text.toUTF8.data.toList

/-- The bytes of a text are those of its characters. -/
theorem bytes_eq (text : String) : bytes text = text.toList.flatMap String.utf8EncodeChar := by
  have h : text.toUTF8 = (text.toList.flatMap String.utf8EncodeChar).toByteArray :=
    String.utf8Encode_toList.symm
  rw [bytes, h, List.data_toByteArray]

/-! ## Characters -/

/-- A character has one byte to four bytes; the greater its code, the more of them, and the greater
the first one. -/
inductive Encoded (n : Nat) : List UInt8 → Prop
  | one (h : n < 0x80) : Encoded n [.ofNat n]
  | two (h : 0x80 ≤ n) (h' : n < 0x800) :
      Encoded n [.ofNat (n / 64 % 0x20 + 0xc0), .ofNat (n % 0x40 + 0x80)]
  | three (h : 0x800 ≤ n) (h' : n < 0x10000) :
      Encoded n [.ofNat (n / 4096 % 0x10 + 0xe0), .ofNat (n / 64 % 0x40 + 0x80),
        .ofNat (n % 0x40 + 0x80)]
  | four (h : 0x10000 ≤ n) (h' : n < 0x110000) :
      Encoded n [.ofNat (n / 262144 % 0x08 + 0xf0), .ofNat (n / 4096 % 0x40 + 0x80),
        .ofNat (n / 64 % 0x40 + 0x80), .ofNat (n % 0x40 + 0x80)]

theorem encoded (c : Char) : Encoded c.toNat (String.utf8EncodeChar c) := by
  have hbound : c.toNat < 0x110000 := by
    rcases c.valid with h | h
    · exact Nat.lt_trans h (by decide)
    · exact h.2
  have hcode : c.val.toNat = c.toNat := rfl
  unfold String.utf8EncodeChar
  rw [hcode]
  generalize c.toNat = n at hbound
  dsimp only
  split
  · exact .one (by omega)
  · split
    · exact .two (by omega) (by omega)
    · split
      · exact .three (by omega) (by omega)
      · exact .four (by omega) hbound

/-- The first bytes decide, unless they are the same. -/
theorem cons_lt_cons {m n : Nat} {s t : List UInt8} (hle : m ≤ n) (hn : n < 256)
    (h : m = n → s < t) : UInt8.ofNat m :: s < UInt8.ofNat n :: t := by
  rcases Nat.lt_or_eq_of_le hle with hlt | rfl
  · refine .rel ?_
    rw [UInt8.lt_iff_toNat_lt, UInt8.toNat_ofNat_of_lt' (Nat.lt_trans hlt hn),
      UInt8.toNat_ofNat_of_lt' hn]
    exact hlt
  · exact .cons (h rfl)

/-- **The lesser character decides**, whatever follows. -/
theorem encode_lt {c d : Char} (h : c < d) (s t : List UInt8) :
    String.utf8EncodeChar c ++ s < String.utf8EncodeChar d ++ t := by
  have hlt : c.toNat < d.toNat := h
  have hc := encoded c
  have hd := encoded d
  generalize c.toNat = m at hlt hc
  generalize d.toNat = n at hlt hd
  generalize String.utf8EncodeChar c = a at hc
  generalize String.utf8EncodeChar d = b at hd
  -- with fewer bytes the first byte is less; with as many, the codes agree up to the first
  -- difference
  cases hc <;> cases hd <;> refine cons_lt_cons (by omega) (by omega) fun hfirst => ?_
  all_goals try omega
  case two.two => exact cons_lt_cons (by omega) (by omega) (by omega)
  case three.three =>
    exact cons_lt_cons (by omega) (by omega) fun hsecond =>
      cons_lt_cons (by omega) (by omega) (by omega)
  case four.four =>
    exact cons_lt_cons (by omega) (by omega) fun hsecond =>
      cons_lt_cons (by omega) (by omega) fun hthird =>
        cons_lt_cons (by omega) (by omega) (by omega)

/-! ## Texts -/

theorem flatMap_encode_lt {xs ys : List Char} (h : xs < ys) :
    xs.flatMap String.utf8EncodeChar < ys.flatMap String.utf8EncodeChar := by
  induction h with
  | @nil d ys =>
    obtain ⟨first, rest, hcons⟩ :=
      List.exists_cons_of_ne_nil (String.utf8EncodeChar_ne_nil (c := d))
    rw [List.flatMap_nil, List.flatMap_cons, hcons]
    exact List.nil_lt_cons _ _
  | rel hlt => exact encode_lt hlt _ _
  | cons _ ih => exact List.append_left_lt ih

theorem bytes_lt_of_lt {a b : String} (h : a < b) : bytes a < bytes b := by
  rw [bytes_eq, bytes_eq]
  exact flatMap_encode_lt (String.lt_iff.mp h)

/-- **Texts are in the order of their bytes.** -/
theorem bytes_lt_iff {a b : String} : bytes a < bytes b ↔ a < b := by
  constructor
  · intro h
    refine String.not_le.mp fun hle => ?_
    by_cases hlt : b < a
    · exact List.lt_asymm h (bytes_lt_of_lt hlt)
    · obtain rfl : a = b := String.le_antisymm (String.not_lt.mp hlt) hle
      exact List.lt_irrefl _ h
  · exact bytes_lt_of_lt

end Overseer.Text

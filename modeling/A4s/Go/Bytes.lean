/-
Byte strings.

* `textBytes`: the bytes of a text, as `[]byte(s)` gives them.
* `hexEncode`: `hex.EncodeToString`; it is injective, and its text has no zero byte.
* `framed_inj`: two parts with a zero byte between them can be told apart if the first one has
  none.
-/
import Mathlib.Tactic

namespace Go

/-- `[]byte`. -/
abbrev Bytes := List UInt8

/-- `[]byte(s)`. -/
def textBytes (s : String) : Bytes := s.toList.flatMap String.utf8EncodeChar

/-- A digit of `encoding/hex`. -/
def hexDigit (n : ℕ) : Char := "0123456789abcdef".toList.getD n '0'

/-- The two digits of a byte. -/
def hexPair (b : UInt8) : List Char := [hexDigit (b.toNat / 16), hexDigit (b.toNat % 16)]

/-- `hex.EncodeToString`. -/
def hexEncode (bytes : Bytes) : String := String.ofList (bytes.flatMap hexPair)

/-- The byte of a digit. -/
def digitByte (n : ℕ) : UInt8 := UInt8.ofNat (if n < 10 then n + 48 else n + 87)

lemma utf8EncodeChar_hexDigit : ∀ n < 16, String.utf8EncodeChar (hexDigit n) = [digitByte n] := by
  decide

lemma digitByte_ne_zero : ∀ n < 16, digitByte n ≠ 0 := by decide

lemma digitByte_inj : ∀ n < 16, ∀ m < 16, digitByte n = digitByte m → n = m := by decide

lemma textBytes_hexEncode (bytes : Bytes) : textBytes (hexEncode bytes) =
    bytes.flatMap fun b => [digitByte (b.toNat / 16), digitByte (b.toNat % 16)] := by
  rw [textBytes, hexEncode, String.toList_ofList, List.flatMap_assoc]
  congr 1
  funext b
  have hhigh : b.toNat / 16 < 16 := by
    have hbyte := b.toNat_lt
    omega
  have hlow : b.toNat % 16 < 16 := Nat.mod_lt _ (by norm_num)
  simp only [hexPair, List.flatMap_cons, List.flatMap_nil, utf8EncodeChar_hexDigit _ hhigh,
    utf8EncodeChar_hexDigit _ hlow]
  rfl

/-- Two bytes with the same digits are the same. -/
lemma byte_eq_of_digits {a b : UInt8} (hhigh : digitByte (a.toNat / 16) = digitByte (b.toNat / 16))
    (hlow : digitByte (a.toNat % 16) = digitByte (b.toNat % 16)) : a = b := by
  have ha := a.toNat_lt
  have hb := b.toNat_lt
  have hhigh' := digitByte_inj _ (by omega) _ (by omega) hhigh
  have hlow' := digitByte_inj _ (Nat.mod_lt _ (by norm_num)) _ (Nat.mod_lt _ (by norm_num)) hlow
  apply UInt8.toNat_inj.mp
  omega

/-- The digits tell the bytes. -/
lemma textBytes_hexEncode_inj {x y : Bytes}
    (h : textBytes (hexEncode x) = textBytes (hexEncode y)) : x = y := by
  rw [textBytes_hexEncode, textBytes_hexEncode] at h
  induction x generalizing y with
  | nil =>
    cases y with
    | nil => rfl
    | cons b y => simp at h
  | cons a x ih =>
    cases y with
    | nil => simp at h
    | cons b y =>
      simp only [List.flatMap_cons, List.cons_append, List.nil_append, List.cons.injEq] at h
      obtain ⟨hhigh, hlow, hrest⟩ := h
      rw [byte_eq_of_digits hhigh hlow, ih hrest]

lemma hexEncode_inj {x y : Bytes} (h : hexEncode x = hexEncode y) : x = y :=
  textBytes_hexEncode_inj (congrArg textBytes h)

lemma zero_notMem_hexEncode (bytes : Bytes) : 0 ∉ textBytes (hexEncode bytes) := by
  rw [textBytes_hexEncode]
  intro h
  obtain ⟨b, -, hb⟩ := List.mem_flatMap.mp h
  have hbyte := b.toNat_lt
  rcases List.mem_pair.mp hb with hzero | hzero
  · exact digitByte_ne_zero _ (by omega) hzero.symm
  · exact digitByte_ne_zero _ (Nat.mod_lt _ (by norm_num)) hzero.symm

/-- A part without a zero byte, a zero byte and the rest can be taken apart again. -/
lemma framed_inj {p q x y : Bytes} (hp : 0 ∉ p) (hq : 0 ∉ q) (h : p ++ 0 :: x = q ++ 0 :: y) :
    p = q ∧ x = y := by
  induction p generalizing q with
  | nil =>
    cases q with
    | nil => simpa using h
    | cons b q =>
      simp only [List.nil_append, List.cons_append, List.cons.injEq] at h
      rw [← h.1] at hq
      simp at hq
  | cons a p ih =>
    cases q with
    | nil =>
      simp only [List.nil_append, List.cons_append, List.cons.injEq] at h
      rw [h.1] at hp
      simp at hp
    | cons b q =>
      simp only [List.cons_append, List.cons.injEq] at h
      rw [List.mem_cons, not_or] at hp hq
      obtain ⟨hpq, hxy⟩ := ih hp.2 hq.2 h.2
      exact ⟨by rw [h.1, hpq], hxy⟩

end Go

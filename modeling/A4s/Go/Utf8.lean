/-
UTF-8, as Go reads strings.

A Go string is any sequence of bytes. Where a function of the library reads runes
(`utf8.DecodeRune`), a byte that does not begin the encoding of a rune is an error of width
one.

* `encode`, `pieces`: the bytes of runes, and the runes and stray bytes of a string.
* `pieces_encode`: the pieces of encoded runes are the runes.
* `repair`: the string with every stray byte replaced by U+FFFD; `ValidUtf8`: there is none, and
  the string is left as it is (`repair_of_valid`).
-/
import A4s.Go.Bytes

namespace Go

/-- The bytes of a sequence of runes. -/
def encode (runes : List Char) : Bytes := runes.flatMap String.utf8EncodeChar

/-- `utf8.DecodeRune`, without the error. -/
def decodeRune (bytes : Bytes) : Option Char := bytes.toByteArray.utf8DecodeChar? 0

/-- A rune of a string, or a byte where there is none. -/
inductive Piece where
  | rune (c : Char)
  | stray (b : UInt8)
  deriving DecidableEq

/-- The pieces of a string after the first bytes, which belong to the rune before. -/
def piecesFrom : ℕ → Bytes → List Piece
  | _, [] => []
  | skip + 1, _ :: rest => piecesFrom skip rest
  | 0, b :: rest =>
    match decodeRune (b :: rest) with
    | some c => .rune c :: piecesFrom ((String.utf8EncodeChar c).length - 1) rest
    | none => .stray b :: piecesFrom 0 rest

/-- The runes and stray bytes of a string, in order. -/
def pieces (bytes : Bytes) : List Piece := piecesFrom 0 bytes

/-- `utf8.RuneError`. -/
def runeError : Char := '�'

/-- The rune that `range` and the JSON package see. -/
def Piece.seen : Piece → Char
  | .rune c => c
  | .stray _ => runeError

/-- The runes of a string. -/
def runes (bytes : Bytes) : List Char := (pieces bytes).map Piece.seen

/-- The string with U+FFFD for what is not UTF-8. -/
def repair (bytes : Bytes) : Bytes := encode (runes bytes)

/-- `utf8.Valid`. -/
def ValidUtf8 (bytes : Bytes) : Prop := ∀ p ∈ pieces bytes, ∃ c, p = .rune c

instance (bytes : Bytes) : Decidable (ValidUtf8 bytes) :=
  decidable_of_iff (∀ p ∈ pieces bytes, p = .rune p.seen) <| by
    refine forall₂_congr fun p _ => ?_
    cases p with
    | rune c => simp [Piece.seen]
    | stray b => simp

lemma decodeRune_encode (c : Char) (rest : Bytes) :
    decodeRune (String.utf8EncodeChar c ++ rest) = some c := by
  rw [decodeRune, List.toByteArray_append]
  exact ByteArray.utf8DecodeChar?_utf8EncodeChar_append

lemma exists_of_decodeRune {bytes : Bytes} {c : Char} (h : decodeRune bytes = some c) :
    ∃ rest, bytes = String.utf8EncodeChar c ++ rest := by
  obtain ⟨rest, hrest⟩ := ByteArray.exists_of_utf8DecodeChar?_eq_some h
  refine ⟨rest.data.toList, ?_⟩
  have hdata := congrArg (fun b => b.data.toList) hrest
  simpa using hdata

lemma piecesFrom_append (skipped rest : Bytes) :
    piecesFrom skipped.length (skipped ++ rest) = piecesFrom 0 rest := by
  induction skipped with
  | nil => rfl
  | cons b skipped ih => exact ih

/-- A rune in front. -/
lemma pieces_rune (c : Char) (rest : Bytes) :
    pieces (String.utf8EncodeChar c ++ rest) = .rune c :: pieces rest := by
  have hdecode := decodeRune_encode c rest
  cases hbytes : String.utf8EncodeChar c with
  | nil => exact absurd hbytes String.utf8EncodeChar_ne_nil
  | cons b more =>
    rw [hbytes, List.cons_append] at hdecode
    rw [List.cons_append, pieces, piecesFrom, hdecode]
    dsimp only
    rw [hbytes, List.length_cons, Nat.add_sub_cancel, piecesFrom_append]
    rfl

/-- **The pieces of encoded runes are the runes.** -/
theorem pieces_encode (cs : List Char) : pieces (encode cs) = cs.map .rune := by
  induction cs with
  | nil => rfl
  | cons c cs ih =>
    rw [encode, List.flatMap_cons, pieces_rune, List.map_cons]
    exact congrArg _ ih

lemma runes_encode (cs : List Char) : runes (encode cs) = cs := by
  rw [runes, pieces_encode, List.map_map]
  exact List.map_id cs

lemma encode_inj {cs cs' : List Char} (h : encode cs = encode cs') : cs = cs' := by
  rw [← runes_encode cs, h, runes_encode]

lemma validUtf8_encode (cs : List Char) : ValidUtf8 (encode cs) := by
  intro p hp
  rw [pieces_encode] at hp
  obtain ⟨c, -, rfl⟩ := List.mem_map.mp hp
  exact ⟨c, rfl⟩

lemma validUtf8_repair (bytes : Bytes) : ValidUtf8 (repair bytes) := validUtf8_encode _

/-- The bytes of a piece. -/
def Piece.bytes : Piece → Bytes
  | .rune c => String.utf8EncodeChar c
  | .stray b => [b]

/-- The pieces make up the string. -/
lemma flatMap_pieces (bytes : Bytes) : (pieces bytes).flatMap Piece.bytes = bytes := by
  induction hlength : bytes.length using Nat.strong_induction_on generalizing bytes with
  | _ n ih =>
    cases hdecode : decodeRune bytes with
    | some c =>
      obtain ⟨rest, rfl⟩ := exists_of_decodeRune hdecode
      have hpos := List.length_pos_iff.mpr (String.utf8EncodeChar_ne_nil (c := c))
      rw [List.length_append] at hlength
      rw [pieces_rune, List.flatMap_cons, ih rest.length (by omega) rest rfl]
      rfl
    | none =>
      cases bytes with
      | nil => rfl
      | cons b rest =>
        rw [List.length_cons] at hlength
        rw [pieces, piecesFrom, hdecode]
        dsimp only
        rw [List.flatMap_cons]
        exact congrArg (b :: ·) (ih rest.length (by omega) rest rfl)

/-- What is UTF-8 is left as it is. -/
lemma repair_of_valid {bytes : Bytes} (h : ValidUtf8 bytes) : repair bytes = bytes := by
  have hsame : (pieces bytes).flatMap Piece.bytes =
      (pieces bytes).flatMap fun p => String.utf8EncodeChar p.seen := by
    refine List.flatMap_congr fun p hp => ?_
    obtain ⟨c, rfl⟩ := h p hp
    rfl
  rw [flatMap_pieces] at hsame
  rw [repair, encode, runes, List.flatMap_map, ← hsame]

end Go

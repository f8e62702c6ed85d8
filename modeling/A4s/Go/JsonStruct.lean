/-
Structs in JSON texts: how `encoding/json` fills the fields of a struct from an object.

A struct is a list of fields, each with the name of its tag and what it does with a value. The
package's errors are told apart by nothing here: a value that does not fit gives `none`.

* `decodeFields`: the members of an object, one after the other. A name is looked up as it is
  and then without case; an unknown name is skipped, and a name that comes twice is set twice.
* `stringField`, `uint64Field`, `timeField`, `mapField`, `pointerField`: the types of fields; a
  `null` leaves a value as it is and empties a map or a pointer.
* `reread`: a map of strings after it was written and read; `textMap_reread_iff`: it is written
  again as it was written exactly if its keys and values are UTF-8.
-/
import A4s.Go.Json
import A4s.Go.Rfc3339

namespace Go.Json

/-! ### Fields -/

/-- A field of a struct: its name, and what it does with a value. -/
abbrev StructField (σ : Type) := List Char × (Json → σ → Option σ)

/-- `foldRune`, as far as it reaches letters of ASCII: the long s and the sign of the kelvin
fold to them. -/
def foldRune (c : Char) : Char :=
  if c = 'ſ' then 'S' else if c = 'K' then 'K' else c.toUpper

section Fields

variable {σ τ : Type}

/-- The field of a name: the exact one, or the first one up to case. -/
def lookupField (fields : List (StructField σ)) (name : List Char) :
    Option (Json → σ → Option σ) :=
  match fields.lookup name with
  | some set => some set
  | none => (fields.find? fun f => f.1.map foldRune = name.map foldRune).map Prod.snd

/-- `decodeState.object` for a struct. -/
def decodeFields (fields : List (StructField σ)) : List (List Char × Json) → σ → Option σ
  | [], s => some s
  | (key, x) :: rest, s =>
    match unquote key with
    | none => none
    | some name =>
      match lookupField fields name with
      | none => decodeFields fields rest s
      | some set => (set x s).bind (decodeFields fields rest)

/-- A value for a struct. -/
def decodeStruct (fields : List (StructField σ)) : Json → σ → Option σ
  | .null, s => some s
  | .object members, s => decodeFields fields members s
  | _, _ => none

/-- A field of type `string`. -/
def stringField (set : Bytes → σ → σ) : Json → σ → Option σ
  | .null, s => some s
  | .string raw, s => (stringOf raw).map fun value => set value s
  | _, _ => none

/-- A field of type `uint64`. -/
def uint64Field (set : UInt64 → σ → σ) : Json → σ → Option σ
  | .null, s => some s
  | .number literal, s => (uint64Of literal).map fun value => set value s
  | _, _ => none

/-- A field of type `time.Time`, which reads the literal as it stands. -/
def timeField (set : Clock → σ → σ) : Json → σ → Option σ
  | .null, s => some s
  | .string raw, s => (Clock.parse raw).map fun value => set value s
  | _, _ => none

/-- A field that is a pointer to a struct: what it points to is filled, or made and filled. -/
def pointerField (fields : List (StructField τ)) (zero : τ) (get : σ → Option τ)
    (set : Option τ → σ → σ) : Json → σ → Option σ
  | .null, s => some (set none s)
  | x, s => (decodeStruct fields x ((get s).getD zero)).map fun value => set (some value) s

/-- `map[string]string`, in the order in which the package writes it. -/
abbrev StringMap := Std.ExtTreeMap Bytes Bytes compare

/-- The value of a key in a map: `null` is the empty string. -/
def entryOf : Json → Option Bytes
  | .null => some []
  | .string raw => stringOf raw
  | _ => none

/-- `decodeState.object` for a map. -/
def decodeEntries : List (List Char × Json) → StringMap → Option StringMap
  | [], m => some m
  | (key, x) :: rest, m =>
    match stringOf key, entryOf x with
    | some k, some v => decodeEntries rest (m.insert k v)
    | _, _ => none

/-- A field of type `map[string]string`. -/
def mapField (get : σ → Option StringMap) (set : Option StringMap → σ → σ) :
    Json → σ → Option σ
  | .null, s => some (set none s)
  | .object members, s =>
    (decodeEntries members ((get s).getD ∅)).map fun value => set (some value) s
  | _, _ => none

/-! ### Values -/

/-- A string as a value. -/
def text (s : Bytes) : Json := .string (quoteRunes s)

/-- A member under the name of a tag. -/
def member (name : String) (x : Json) : List Char × Json := (name.toList, x)

/-- `omitempty` on a string. -/
def omitEmpty (name : String) (s : Bytes) : List (List Char × Json) :=
  if s = [] then [] else [member name (text s)]

/-- The members of a map. -/
def textEntries (m : StringMap) : List (List Char × Json) :=
  m.toList.map fun e => (quoteRunes e.1, text e.2)

/-- A map as a value; the nil map is `null`. -/
def textMap : Option StringMap → Json
  | none => .null
  | some m => .object (textEntries m)

variable {s : σ} {rest : List (List Char × Json)} (fields : List (StructField σ)) (name : String)

/-- A member whose name is that of a field. -/
lemma decodeFields_member {x : Json} {set : Json → σ → Option σ}
    (hname : unquote name.toList = some name.toList)
    (hfield : lookupField fields name.toList = some set) :
    decodeFields fields (member name x :: rest) s =
      (set x s).bind (decodeFields fields rest) := by
  rw [member, decodeFields, hname]
  simp only [hfield]

lemma decodeFields_text {set : Bytes → σ → σ} {b : Bytes}
    (hname : unquote name.toList = some name.toList)
    (hfield : lookupField fields name.toList = some (stringField set)) :
    decodeFields fields (member name (text b) :: rest) s =
      decodeFields fields rest (set (repair b) s) := by
  rw [decodeFields_member fields name hname hfield, text, stringField, stringOf_quoteRunes,
    Option.map_some, Option.bind_some]

lemma decodeFields_uint64 {set : UInt64 → σ → σ} {n : UInt64}
    (hname : unquote name.toList = some name.toList)
    (hfield : lookupField fields name.toList = some (uint64Field set)) :
    decodeFields fields (member name (ofNat n.toNat) :: rest) s =
      decodeFields fields rest (set n s) := by
  rw [decodeFields_member fields name hname hfield, ofNat, uint64Field, uint64Of_toDigits,
    Option.map_some, Option.bind_some]

lemma decodeFields_time {set : Clock → σ → σ} {t : Clock}
    (hname : unquote name.toList = some name.toList)
    (hfield : lookupField fields name.toList = some (timeField set)) (ht : t.Writable) :
    decodeFields fields (member name (.string t.format) :: rest) s =
      decodeFields fields rest (set t.read s) := by
  rw [decodeFields_member fields name hname hfield, timeField, Clock.parse_format ht,
    Option.map_some, Option.bind_some]

/-- A string that may be left out, into a field that is still empty. -/
lemma decodeFields_omitEmpty {set : Bytes → σ → σ} {b : Bytes}
    (hname : unquote name.toList = some name.toList)
    (hfield : lookupField fields name.toList = some (stringField set)) (hempty : set [] s = s) :
    decodeFields fields (omitEmpty name b ++ rest) s =
      decodeFields fields rest (set (repair b) s) := by
  by_cases hb : b = []
  · subst hb
    have hrepair : repair [] = [] := rfl
    rw [omitEmpty, if_pos rfl, List.nil_append, hrepair, hempty]
  · rw [omitEmpty, if_neg hb, List.singleton_append, decodeFields_text fields name hname hfield]

/-! ### Maps -/

/-- A map after it was written and read. -/
def reread (m : StringMap) : StringMap :=
  m.toList.foldl (fun t e => t.insert (repair e.1) (repair e.2)) ∅

lemma decodeEntries_text (entries : List (Bytes × Bytes)) (m : StringMap) :
    decodeEntries (entries.map fun e => (quoteRunes e.1, text e.2)) m =
      some (entries.foldl (fun t e => t.insert (repair e.1) (repair e.2)) m) := by
  induction entries generalizing m with
  | nil => rfl
  | cons e entries ih =>
    rw [List.map_cons, decodeEntries, stringOf_quoteRunes, text, entryOf, stringOf_quoteRunes]
    exact ih _

lemma decodeFields_map {get : σ → Option StringMap} {set : Option StringMap → σ → σ}
    {m : Option StringMap} (hname : unquote name.toList = some name.toList)
    (hfield : lookupField fields name.toList = some (mapField get set)) (hget : get s = none) :
    decodeFields fields (member name (textMap m) :: rest) s =
      decodeFields fields rest (set (m.map reread) s) := by
  rw [decodeFields_member fields name hname hfield]
  cases m with
  | none => rfl
  | some m =>
    rw [textMap, mapField, hget, Option.getD_none, textEntries, decodeEntries_text]
    rfl

/-- Putting the entries of a map into the empty one gives the map. -/
lemma foldl_insert_toList (m : StringMap) :
    m.toList.foldl (fun t e => t.insert e.1 e.2) (∅ : StringMap) = m := by
  have hmany : ∀ (entries : List (Bytes × Bytes)) (t : StringMap),
      entries.foldl (fun t e => t.insert e.1 e.2) t = t.insertMany entries := by
    intro entries
    induction entries with
    | nil => intro t; rw [Std.ExtTreeMap.insertMany_nil]; rfl
    | cons e entries ih => intro t; rw [List.foldl_cons, ih, Std.ExtTreeMap.insertMany_cons]
  rw [hmany, ← Std.ExtTreeMap.ofList_eq_insertMany_empty]
  refine Std.ExtTreeMap.ext_getElem? fun k => ?_
  cases hk : m[k]? with
  | some v =>
    exact Std.ExtTreeMap.getElem?_ofList_of_mem (Std.ReflCmp.compare_self)
      Std.ExtTreeMap.distinct_keys_toList (Std.ExtTreeMap.mem_toList_iff_getElem?_eq_some.mpr hk)
  | none =>
    refine Std.ExtTreeMap.getElem?_ofList_of_contains_eq_false ?_
    rw [Std.ExtTreeMap.map_fst_toList_eq_keys, Std.ExtTreeMap.contains_keys,
      Std.ExtTreeMap.contains_eq_isSome_getElem?, hk, Option.isSome_none]

/-- The keys and values of a map are UTF-8. -/
def ValidMap (m : StringMap) : Prop := ∀ e ∈ m.toList, ValidUtf8 e.1 ∧ ValidUtf8 e.2

lemma ValidMap.insert {m : StringMap} (h : ValidMap m) {k v : Bytes} (hk : ValidUtf8 k)
    (hv : ValidUtf8 v) : ValidMap (m.insert k v) := by
  rintro ⟨j, w⟩ he
  rw [Std.ExtTreeMap.mem_toList_iff_getElem?_eq_some, Std.ExtTreeMap.getElem?_insert] at he
  split at he
  · rename_i hsame
    obtain rfl := Std.LawfulEqCmp.eq_of_compare hsame
    obtain rfl := Option.some.inj he
    exact ⟨hk, hv⟩
  · exact h (j, w) (Std.ExtTreeMap.mem_toList_iff_getElem?_eq_some.mpr he)

lemma validMap_reread (m : StringMap) : ValidMap (reread m) := by
  have hfold : ∀ (entries : List (Bytes × Bytes)) (t : StringMap), ValidMap t →
      ValidMap (entries.foldl (fun t e => t.insert (repair e.1) (repair e.2)) t) := by
    intro entries
    induction entries with
    | nil => exact fun t ht => ht
    | cons e entries ih =>
      exact fun t ht => ih _ (ht.insert (validUtf8_repair e.1) (validUtf8_repair e.2))
  refine hfold _ ∅ fun e he => ?_
  rw [Std.ExtTreeMap.mem_toList_iff_getElem?_eq_some, Std.ExtTreeMap.getElem?_empty] at he
  cases he

lemma reread_of_valid {m : StringMap} (h : ValidMap m) : reread m = m := by
  refine Eq.trans (List.foldl_ext _ _ _ fun t e he => ?_) (foldl_insert_toList m)
  rw [repair_of_valid (h e he).1, repair_of_valid (h e he).2]

/-- A string that is written as UTF-8 is written is UTF-8. -/
lemma validUtf8_of_quoteRunes {s s' : Bytes} (hs' : ValidUtf8 s')
    (h : quoteRunes s' = quoteRunes s) : ValidUtf8 s := by
  have hread : repair s' = repair s :=
    Option.some.inj (by rw [← stringOf_quoteRunes, h, stringOf_quoteRunes])
  rw [← quoteRunes_repair_iff, ← hread, repair_of_valid hs', h]

/-- **A map is written again as it was written exactly if it is UTF-8.** -/
theorem textMap_reread_iff {m : Option StringMap} :
    textMap (m.map reread) = textMap m ↔ ∀ m' ∈ m, ValidMap m' := by
  cases m with
  | none => simp [textMap]
  | some m =>
    simp only [Option.map_some, textMap, Json.object.injEq, Option.mem_some_iff, forall_eq']
    constructor
    · intro h e he
      have hwritten : (quoteRunes e.1, text e.2) ∈ textEntries (reread m) := by
        rw [h]
        exact List.mem_map_of_mem he
      obtain ⟨e', he', hsame⟩ := List.mem_map.mp hwritten
      obtain ⟨hkey, hvalue⟩ := Prod.mk.inj hsame
      obtain ⟨hkey', hvalue'⟩ := validMap_reread m e' he'
      exact ⟨validUtf8_of_quoteRunes hkey' hkey,
        validUtf8_of_quoteRunes hvalue' (Json.string.inj hvalue)⟩
    · intro h
      rw [reread_of_valid h]

/-! ### Well-formed values -/

lemma wellFormedMembers_iff {members : List (List Char × Json)} : WellFormedMembers members ↔
    ∀ m ∈ members, StringLiteral m.1 ∧ WellFormed m.2 := by
  induction members with
  | nil => simp [WellFormedMembers]
  | cons m members ih => simp [WellFormedMembers, ih, and_assoc]

/-- A character that stands for itself in a literal. -/
def Plain (c : Char) : Prop := c ≠ '"' ∧ c ≠ '\\' ∧ 32 ≤ c.toNat

instance (c : Char) : Decidable (Plain c) :=
  inferInstanceAs (Decidable (c ≠ '"' ∧ c ≠ '\\' ∧ 32 ≤ c.toNat))

/-- A text without quotes, backslashes and control characters stands in a literal as it is. -/
lemma stringLiteral_plain {raw : List Char} (h : ∀ c ∈ raw, Plain c) : StringLiteral raw := by
  intro rest
  induction raw with
  | nil => rfl
  | cons c raw ih =>
    obtain ⟨⟨hquote, hslash, hcontrol⟩, hraw⟩ := List.forall_mem_cons.mp h
    rw [List.cons_append, scanString, if_neg hquote, if_neg hslash, if_neg (by omega), ih hraw]
    rfl

/-- The text of a time is plain: digits, signs and the letters `T` and `Z`. -/
lemma stringLiteral_format (t : Clock) : StringLiteral t.format := by
  have hdigit : ∀ c : Char, c.isDigit = true → Plain c := by
    intro c hc
    refine ⟨ne_of_isDigit hc rfl, ne_of_isDigit hc rfl, ?_⟩
    have hlow : 48 ≤ c.toNat := (Char.isDigit_iff_toNat.mp hc).1
    omega
  have hpad : ∀ {width n : ℕ}, ∀ c ∈ Clock.pad width n, Plain c :=
    fun c hc => hdigit c (Clock.isDigit_pad c hc)
  have hfraction : ∀ c ∈ Clock.fraction t.nanosecond, Plain c := by
    intro c hc
    unfold Clock.fraction at hc
    split at hc
    · cases hc
    · rcases List.mem_cons.mp hc with rfl | htrim
      · decide
      · exact hdigit c (Clock.isDigit_trim Clock.isDigit_pad c htrim)
  have hzone : ∀ c ∈ Clock.zone t.offset, Plain c := by
    intro c hc
    unfold Clock.zone at hc
    split at hc
    · rw [List.mem_singleton.mp hc]
      decide
    · rcases List.mem_cons.mp hc with rfl | hc
      · split <;> decide
      · rcases List.mem_append.mp hc with hc | hc
        · exact hpad c hc
        · rcases List.mem_cons.mp hc with rfl | hc
          · decide
          · exact hpad c hc
  refine stringLiteral_plain ?_
  simp only [Clock.format, List.forall_mem_append, List.forall_mem_cons]
  exact ⟨hpad, by decide, hpad, by decide, hpad, by decide, hpad, by decide, hpad, by decide, hpad,
    hfraction, hzone⟩

lemma wellFormed_text (b : Bytes) : WellFormed (text b) := stringLiteral_quoteRunes b

lemma wellFormed_ofNat (n : ℕ) : WellFormed (ofNat n) := numberLiteral_toDigits n

lemma wellFormed_textMap (m : Option StringMap) : WellFormed (textMap m) := by
  cases m with
  | none => trivial
  | some m =>
    refine wellFormedMembers_iff.mpr fun entry hentry => ?_
    obtain ⟨e, -, rfl⟩ := List.mem_map.mp hentry
    exact ⟨stringLiteral_quoteRunes e.1, wellFormed_text e.2⟩

/-- A name whose characters are plain, as those of the fields are. -/
def plainName (name : String) : Bool := name.toList.all fun c => decide (Plain c)

lemma wellFormed_member {name : String} {x : Json} (hname : plainName name = true)
    (hx : WellFormed x) : StringLiteral (member name x).1 ∧ WellFormed (member name x).2 := by
  refine ⟨stringLiteral_plain fun c hc => ?_, hx⟩
  exact of_decide_eq_true (List.all_eq_true.mp hname c hc)

lemma wellFormed_omitEmpty {name : String} (hname : plainName name = true) (b : Bytes) :
    ∀ m ∈ omitEmpty name b, StringLiteral m.1 ∧ WellFormed m.2 := by
  intro m hm
  unfold omitEmpty at hm
  split at hm
  · cases hm
  · rw [List.mem_singleton.mp hm]
    exact wellFormed_member hname (wellFormed_text b)

/-! ### The same text -/

lemma repair_eq_nil {b : Bytes} : repair b = [] ↔ b = [] := by
  constructor
  · intro h
    have hrunes : runes b = [] := encode_inj h
    rw [← flatMap_pieces b, List.map_eq_nil_iff.mp hrunes]
    rfl
  · rintro rfl
    rfl

lemma text_repair_iff {b : Bytes} : text (repair b) = text b ↔ ValidUtf8 b := by
  rw [text, text, Json.string.injEq, quoteRunes_repair_iff]

/-- A string that may be left out is left out again. -/
lemma omitEmpty_repair_iff {name : String} {b : Bytes} {more more' : List (List Char × Json)} :
    omitEmpty name (repair b) ++ more = omitEmpty name b ++ more' ↔
      ValidUtf8 b ∧ more = more' := by
  by_cases hb : b = []
  · subst hb
    have hvalid : ValidUtf8 [] := by decide
    simp [omitEmpty, repair_eq_nil, hvalid]
  · simp [omitEmpty, repair_eq_nil, hb, member, text_repair_iff]

end Fields

end Go.Json

/-
JSON texts, as the package `encoding/json` writes and reads them.

A value keeps its numbers and strings as they stand in the text, since `UnmarshalJSON` methods
see them so. Texts are sequences of runes: what is not UTF-8 reads as U+FFFD.

* `Json.print`, `Json.parse`: the compact text of a value, and the value of a text, with blanks
  between its tokens; `parse_print`: reading back what was written.
* `quoteRunes`, `unquote`: string literals, with the escapes of `appendString` and those that
  `unquoteBytes` knows; `unquote_quoteRunes`: a string comes back with its stray bytes repaired.
-/
import A4s.Go.Utf8
import A4s.Go.Text

namespace Go

/-- A JSON value. -/
inductive Json where
  | null
  | bool (b : Bool)
  | number (literal : List Char)
  | string (raw : List Char)
  | array (items : List Json)
  | object (members : List (List Char × Json))

namespace Json

/-! ### Writing -/

mutual

/-- The compact text of a value. -/
def print : Json → List Char
  | .null => ['n', 'u', 'l', 'l']
  | .bool true => ['t', 'r', 'u', 'e']
  | .bool false => ['f', 'a', 'l', 's', 'e']
  | .number literal => literal
  | .string raw => '"' :: (raw ++ ['"'])
  | .array [] => ['[', ']']
  | .array (x :: rest) => '[' :: (print x ++ printItems rest)
  | .object [] => ['{', '}']
  | .object ((key, x) :: rest) =>
    '{' :: '"' :: (key ++ '"' :: ':' :: (print x ++ printMembers rest))

/-- The items after the first one, and the end of the array. -/
def printItems : List Json → List Char
  | [] => [']']
  | x :: rest => ',' :: (print x ++ printItems rest)

/-- The members after the first one, and the end of the object. -/
def printMembers : List (List Char × Json) → List Char
  | [] => ['}']
  | (key, x) :: rest => ',' :: '"' :: (key ++ '"' :: ':' :: (print x ++ printMembers rest))

end

/-! ### Reading -/

/-- The blanks between tokens. -/
def blank (c : Char) : Bool := c = ' ' || c = '\t' || c = '\r' || c = '\n'

/-- What is left after blanks. -/
def skipBlanks (text : List Char) : List Char := text.dropWhile blank

/-- Where the scanner is in a string: after how many digits an escape ends. -/
inductive InString where
  | plain
  | escape
  | digits (n : ℕ)

/-- A hexadecimal digit. -/
def hexValue (c : Char) : Option ℕ :=
  if '0' ≤ c ∧ c ≤ '9' then some (c.toNat - 48)
  else if 'a' ≤ c ∧ c ≤ 'f' then some (c.toNat - 87)
  else if 'A' ≤ c ∧ c ≤ 'F' then some (c.toNat - 55)
  else none

/-- What an escape of one rune stands for. -/
def shortEscape (c : Char) : Option Char :=
  match c with
  | '"' => some '"'
  | '\\' => some '\\'
  | '/' => some '/'
  | 'b' => some '\x08'
  | 'f' => some '\x0c'
  | 'n' => some '\n'
  | 'r' => some '\r'
  | 't' => some '\t'
  | _ => none

/-- The rest of a string literal, and what follows its closing quote. -/
def scanString : InString → List Char → Option (List Char × List Char)
  | _, [] => none
  | .plain, c :: rest =>
    if c = '"' then some ([], rest)
    else if c = '\\' then (scanString .escape rest).map fun p => (c :: p.1, p.2)
    else if c.toNat < 32 then none
    else (scanString .plain rest).map fun p => (c :: p.1, p.2)
  | .escape, c :: rest =>
    if c = 'u' then (scanString (.digits 4) rest).map fun p => (c :: p.1, p.2)
    else if (shortEscape c).isSome then (scanString .plain rest).map fun p => (c :: p.1, p.2)
    else none
  | .digits n, c :: rest =>
    if (hexValue c).isNone then none
    else if n ≤ 1 then (scanString .plain rest).map fun p => (c :: p.1, p.2)
    else (scanString (.digits (n - 1)) rest).map fun p => (c :: p.1, p.2)

/-- A run of digits that is not empty. -/
def scanRun (text : List Char) : Option (List Char × List Char) :=
  if text.takeWhile Char.isDigit = [] then none
  else some (text.takeWhile Char.isDigit, text.dropWhile Char.isDigit)

/-- The digits in front of a point: a zero stands alone. -/
def scanWhole : List Char → Option (List Char × List Char)
  | '0' :: rest => some (['0'], rest)
  | text => scanRun text

/-- The digits after a point. -/
def scanFraction : List Char → Option (List Char × List Char)
  | '.' :: rest => (scanRun rest).map fun p => ('.' :: p.1, p.2)
  | text => some ([], text)

/-- The exponent. -/
def scanExponent : List Char → Option (List Char × List Char)
  | 'e' :: '+' :: rest => (scanRun rest).map fun p => ('e' :: '+' :: p.1, p.2)
  | 'e' :: '-' :: rest => (scanRun rest).map fun p => ('e' :: '-' :: p.1, p.2)
  | 'e' :: rest => (scanRun rest).map fun p => ('e' :: p.1, p.2)
  | 'E' :: '+' :: rest => (scanRun rest).map fun p => ('E' :: '+' :: p.1, p.2)
  | 'E' :: '-' :: rest => (scanRun rest).map fun p => ('E' :: '-' :: p.1, p.2)
  | 'E' :: rest => (scanRun rest).map fun p => ('E' :: p.1, p.2)
  | text => some ([], text)

/-- A number without its sign. -/
def scanUnsigned (text : List Char) : Option (List Char × List Char) := do
  let (whole, text) ← scanWhole text
  let (fraction, text) ← scanFraction text
  let (exponent, text) ← scanExponent text
  return (whole ++ fraction ++ exponent, text)

/-- A number literal, and what follows it. -/
def scanNumber : List Char → Option (List Char × List Char)
  | '-' :: rest => (scanUnsigned rest).map fun p => ('-' :: p.1, p.2)
  | text => scanUnsigned text

mutual

/-- A value at the front of a text, and what follows it. -/
def parseValue : ℕ → List Char → Option (Json × List Char)
  | 0, _ => none
  | fuel + 1, text =>
    match skipBlanks text with
    | '{' :: rest =>
      match skipBlanks rest with
      | '}' :: rest => some (.object [], rest)
      | rest => (parseMembers fuel rest).map fun p => (.object p.1, p.2)
    | '[' :: rest =>
      match skipBlanks rest with
      | ']' :: rest => some (.array [], rest)
      | rest => (parseItems fuel rest).map fun p => (.array p.1, p.2)
    | '"' :: rest => (scanString .plain rest).map fun p => (.string p.1, p.2)
    | 'n' :: 'u' :: 'l' :: 'l' :: rest => some (.null, rest)
    | 't' :: 'r' :: 'u' :: 'e' :: rest => some (.bool true, rest)
    | 'f' :: 'a' :: 'l' :: 's' :: 'e' :: rest => some (.bool false, rest)
    | rest => (scanNumber rest).map fun p => (.number p.1, p.2)

/-- The items of an array, of which there is one at least, up to its end. -/
def parseItems : ℕ → List Char → Option (List Json × List Char)
  | 0, _ => none
  | fuel + 1, text => do
      let (x, rest) ← parseValue fuel text
      match skipBlanks rest with
      | ',' :: rest => (parseItems fuel rest).map fun p => (x :: p.1, p.2)
      | ']' :: rest => some ([x], rest)
      | _ => none

/-- The members of an object, of which there is one at least, up to its end. -/
def parseMembers : ℕ → List Char → Option (List (List Char × Json) × List Char)
  | 0, _ => none
  | fuel + 1, text =>
    match skipBlanks text with
    | '"' :: rest => do
        let (key, rest) ← scanString .plain rest
        match skipBlanks rest with
        | ':' :: rest => do
            let (x, rest) ← parseValue fuel rest
            match skipBlanks rest with
            | ',' :: rest => (parseMembers fuel rest).map fun p => ((key, x) :: p.1, p.2)
            | '}' :: rest => some ([(key, x)], rest)
            | _ => none
        | _ => none
    | _ => none

end

/-- The value of a text. -/
def parse (text : List Char) : Option Json :=
  match parseValue (text.length + 1) text with
  | some (x, rest) => if skipBlanks rest = [] then some x else none
  | none => none

/-! ### Reading back -/

/-- What may follow a value inside of a text: nothing, or the rest of an array or object. -/
def Ends (rest : List Char) : Prop :=
  ∀ c more, rest = c :: more → c = ',' ∨ c = ']' ∨ c = '}'

/-- The text between the quotes of a string. -/
def StringLiteral (raw : List Char) : Prop :=
  ∀ rest, scanString .plain (raw ++ '"' :: rest) = some (raw, rest)

/-- The text of a number. -/
def NumberLiteral (literal : List Char) : Prop :=
  (∃ c more, literal = c :: more ∧ (c = '-' ∨ c.isDigit = true)) ∧
    ∀ rest, Ends rest → scanNumber (literal ++ rest) = some (literal, rest)

mutual

/-- The numbers and strings of a value are literals. -/
def WellFormed : Json → Prop
  | .null => True
  | .bool _ => True
  | .number literal => NumberLiteral literal
  | .string raw => StringLiteral raw
  | .array items => WellFormedItems items
  | .object members => WellFormedMembers members

def WellFormedItems : List Json → Prop
  | [] => True
  | x :: rest => WellFormed x ∧ WellFormedItems rest

def WellFormedMembers : List (List Char × Json) → Prop
  | [] => True
  | (key, x) :: rest => StringLiteral key ∧ WellFormed x ∧ WellFormedMembers rest

end

lemma ends_printItems (items : List Json) (rest : List Char) : Ends (printItems items ++ rest) := by
  intro c more h
  cases items with
  | nil =>
    rw [printItems, List.cons_append] at h
    exact .inr (.inl (List.cons.inj h).1.symm)
  | cons x items =>
    rw [printItems, List.cons_append] at h
    exact .inl (List.cons.inj h).1.symm

lemma ends_printMembers (members : List (List Char × Json)) (rest : List Char) :
    Ends (printMembers members ++ rest) := by
  intro c more h
  cases members with
  | nil =>
    rw [printMembers, List.cons_append] at h
    exact .inr (.inr (List.cons.inj h).1.symm)
  | cons member members =>
    rw [printMembers, List.cons_append] at h
    exact .inl (List.cons.inj h).1.symm

lemma ne_of_isDigit {c d : Char} (hc : c.isDigit = true) (hd : d.isDigit = false) : c ≠ d := by
  rintro rfl
  rw [hc] at hd
  cases hd

lemma skipBlanks_cons {c : Char} {text : List Char} (h : blank c = false) :
    skipBlanks (c :: text) = c :: text := by
  rw [skipBlanks, List.dropWhile_cons_of_neg (by simp [h])]

/-- A number is read by the scanner of numbers. -/
lemma parseValue_number {fuel : ℕ} {literal rest : List Char} (h : NumberLiteral literal)
    (hrest : Ends rest) :
    parseValue (fuel + 1) (literal ++ rest) = some (.number literal, rest) := by
  obtain ⟨⟨c, more, rfl, hc⟩, hscan⟩ := h
  have hscan := hscan rest hrest
  rw [List.cons_append] at hscan ⊢
  have hne : ∀ d ∈ ['{', '[', '"', 'n', 't', 'f', ' ', '\t', '\r', '\n'], c ≠ d := by
    rcases hc with rfl | hdigit
    · simp only [List.forall_mem_cons, List.not_mem_nil, false_implies, implies_true, and_true]
      decide
    · refine fun d hd => ne_of_isDigit hdigit ?_
      revert d
      simp only [List.forall_mem_cons, List.not_mem_nil, false_implies, implies_true, and_true]
      decide
  simp only [List.forall_mem_cons] at hne
  obtain ⟨h₁, h₂, h₃, h₄, h₅, h₆, h₇, h₈, h₉, h₁₀, -⟩ := hne
  have hblank : blank c = false := by simp [blank, h₇, h₈, h₉, h₁₀]
  rw [parseValue, skipBlanks_cons hblank]
  split
  all_goals first
    | (rename_i heq; exact absurd (List.cons.inj heq).1 (by assumption))
    | rw [hscan]
      rfl

lemma print_ne_nil {x : Json} (h : WellFormed x) : print x ≠ [] := by
  cases x with
  | null => simp [print]
  | bool b => cases b <;> simp [print]
  | number literal =>
    rw [WellFormed] at h
    obtain ⟨⟨c, more, rfl, -⟩, -⟩ := h
    simp [print]
  | string raw => simp [print]
  | array items => cases items <;> simp [print]
  | object members => cases members <;> simp [print]

lemma length_printItems_pos (items : List Json) : 0 < (printItems items).length := by
  cases items <;> simp [printItems]

lemma length_printMembers_pos (members : List (List Char × Json)) :
    0 < (printMembers members).length := by
  cases members <;> simp [printMembers]

/-- A value does not start with a blank, nor with the end of an array. -/
lemma print_starts {x : Json} (h : WellFormed x) :
    ∃ c more, print x = c :: more ∧ blank c = false ∧ c ≠ ']' := by
  cases x with
  | null => exact ⟨_, _, rfl, rfl, by decide⟩
  | bool b => cases b <;> exact ⟨_, _, rfl, rfl, by decide⟩
  | number literal =>
    rw [WellFormed] at h
    obtain ⟨⟨c, more, rfl, hc⟩, -⟩ := h
    refine ⟨c, more, rfl, ?_⟩
    rcases hc with rfl | hdigit
    · decide
    · have hne : ∀ d ∈ [' ', '\t', '\r', '\n', ']'], c ≠ d := by
        refine fun d hd => ne_of_isDigit hdigit ?_
        revert d
        simp only [List.forall_mem_cons, List.not_mem_nil, false_implies, implies_true, and_true]
        decide
      simp only [List.forall_mem_cons] at hne
      obtain ⟨h₁, h₂, h₃, h₄, h₅, -⟩ := hne
      exact ⟨by simp [blank, h₁, h₂, h₃, h₄], h₅⟩
  | string raw => exact ⟨_, _, rfl, rfl, by decide⟩
  | array items => cases items <;> exact ⟨_, _, rfl, rfl, by decide⟩
  | object members => cases members <;> exact ⟨_, _, rfl, rfl, by decide⟩

/-! What the reader does once it has seen the first rune. -/

lemma parseValue_string (fuel : ℕ) (rest : List Char) : parseValue (fuel + 1) ('"' :: rest) =
    (scanString .plain rest).map fun p => (.string p.1, p.2) := rfl

lemma parseValue_object (fuel : ℕ) (rest : List Char) :
    parseValue (fuel + 1) ('{' :: '"' :: rest) =
      (parseMembers fuel ('"' :: rest)).map fun p => (.object p.1, p.2) := rfl

lemma parseValue_array (fuel : ℕ) {c : Char} {rest : List Char} (hblank : blank c = false)
    (hc : c ≠ ']') : parseValue (fuel + 1) ('[' :: c :: rest) =
      (parseItems fuel (c :: rest)).map fun p => (.array p.1, p.2) := by
  rw [parseValue, skipBlanks_cons rfl]
  change (match skipBlanks (c :: rest) with
    | ']' :: rest => some (Json.array [], rest)
    | rest => (parseItems fuel rest).map fun p : List Json × List Char => (Json.array p.1, p.2)) = _
  rw [skipBlanks_cons hblank]
  split
  · exact absurd (List.cons.inj ‹_›).1 hc
  · rfl

/-- The next member, after its key. -/
def parseMember (fuel : ℕ) (key rest : List Char) :
    Option (List (List Char × Json) × List Char) := do
  let (x, rest) ← parseValue fuel rest
  match skipBlanks rest with
  | ',' :: rest => (parseMembers fuel rest).map fun p => ((key, x) :: p.1, p.2)
  | '}' :: rest => some ([(key, x)], rest)
  | _ => none

lemma parseMembers_key (fuel : ℕ) {key : List Char} (h : StringLiteral key) (rest : List Char) :
    parseMembers (fuel + 1) ('"' :: (key ++ '"' :: ':' :: rest)) = parseMember fuel key rest := by
  have hopen : parseMembers (fuel + 1) ('"' :: (key ++ '"' :: ':' :: rest)) =
      (scanString .plain (key ++ '"' :: ':' :: rest)).bind fun p =>
        match skipBlanks p.2 with
        | ':' :: rest => parseMember fuel p.1 rest
        | _ => none := rfl
  rw [hopen, h]
  rfl

mutual

/-- A value is read back from its text. -/
theorem parseValue_print : ∀ (x : Json) (fuel : ℕ) (rest : List Char), WellFormed x →
    (print x).length ≤ fuel → Ends rest → parseValue fuel (print x ++ rest) = some (x, rest)
  | x, 0, rest, h, hfuel, _ => by
      have hempty := List.length_eq_zero_iff.mp (Nat.le_zero.mp hfuel)
      exact absurd hempty (print_ne_nil h)
  | .null, fuel + 1, rest, _, _, _ => rfl
  | .bool true, fuel + 1, rest, _, _, _ => rfl
  | .bool false, fuel + 1, rest, _, _, _ => rfl
  | .number literal, fuel + 1, rest, h, _, hrest => by
      rw [WellFormed] at h
      exact parseValue_number h hrest
  | .string raw, fuel + 1, rest, h, _, _ => by
      rw [WellFormed] at h
      have htext : print (.string raw) ++ rest = '"' :: (raw ++ '"' :: rest) := by
        simp [print]
      rw [htext, parseValue_string, h rest]
      rfl
  | .array [], fuel + 1, rest, _, _, _ => rfl
  | .array (x :: items), fuel + 1, rest, h, hfuel, _ => by
      rw [WellFormed] at h
      have hitems := parseItems_print (x :: items) fuel rest h
        (by simpa [print, printItems] using hfuel) (by simp)
      rw [WellFormedItems] at h
      obtain ⟨c, more, hx, hblank, hc⟩ := print_starts h.1
      rw [printItems, List.tail_cons, hx] at hitems
      rw [print, hx]
      simp only [List.cons_append] at hitems ⊢
      rw [parseValue_array fuel hblank hc, hitems]
      rfl
  | .object [], fuel + 1, rest, _, _, _ => rfl
  | .object ((key, x) :: members), fuel + 1, rest, h, hfuel, _ => by
      rw [WellFormed] at h
      have hmembers := parseMembers_print ((key, x) :: members) fuel rest h
        (by simpa [print, printMembers] using hfuel) (by simp)
      rw [printMembers, List.tail_cons] at hmembers
      rw [print]
      simp only [List.cons_append] at hmembers ⊢
      rw [parseValue_object, hmembers]
      rfl

/-- The items of an array are read back, after its opening bracket. -/
theorem parseItems_print : ∀ (items : List Json) (fuel : ℕ) (rest : List Char),
    WellFormedItems items → (printItems items).length ≤ fuel + 1 → items ≠ [] →
    parseItems fuel ((printItems items).tail ++ rest) = some (items, rest)
  | [], _, _, _, _, hne => absurd rfl hne
  | x :: items, 0, rest, h, hfuel, _ => by
      rw [WellFormedItems] at h
      have hpos := length_printItems_pos items
      have hx := List.length_pos_iff.mpr (print_ne_nil h.1)
      rw [printItems, List.length_cons, List.length_append] at hfuel
      omega
  | x :: items, fuel + 1, rest, h, hfuel, _ => by
      rw [WellFormedItems] at h
      have hpos := length_printItems_pos items
      rw [printItems, List.length_cons, List.length_append] at hfuel
      have hx := parseValue_print x fuel (printItems items ++ rest) h.1 (by omega)
        (ends_printItems items rest)
      rw [printItems, List.tail_cons, List.append_assoc, parseItems, hx]
      cases items with
      | nil => rfl
      | cons y more =>
        have hmore := parseItems_print (y :: more) fuel rest h.2 (by omega) (by simp)
        rw [printItems, List.tail_cons] at hmore
        change (parseItems fuel (print y ++ printItems more ++ rest)).map _ = _
        rw [hmore]
        rfl

/-- The members of an object are read back, after its opening brace. -/
theorem parseMembers_print : ∀ (members : List (List Char × Json)) (fuel : ℕ)
    (rest : List Char), WellFormedMembers members → (printMembers members).length ≤ fuel + 1 →
    members ≠ [] →
    parseMembers fuel ((printMembers members).tail ++ rest) = some (members, rest)
  | [], _, _, _, _, hne => absurd rfl hne
  | (key, x) :: members, 0, rest, h, hfuel, _ => by
      rw [printMembers] at hfuel
      simp at hfuel
  | (key, x) :: members, fuel + 1, rest, h, hfuel, _ => by
      rw [WellFormedMembers] at h
      obtain ⟨hkey, hwell, hmore⟩ := h
      have hpos := length_printMembers_pos members
      have hlength : (print x).length + (printMembers members).length ≤ fuel := by
        rw [printMembers] at hfuel
        simp only [List.length_cons, List.length_append] at hfuel
        omega
      have hx := parseValue_print x fuel (printMembers members ++ rest) hwell (by omega)
        (ends_printMembers members rest)
      have htext : (printMembers ((key, x) :: members)).tail ++ rest =
          '"' :: (key ++ '"' :: ':' :: (print x ++ (printMembers members ++ rest))) := by
        simp [printMembers]
      rw [htext, parseMembers_key fuel hkey, parseMember, hx]
      cases members with
      | nil => rfl
      | cons member members =>
        obtain ⟨key', y⟩ := member
        have hrest := parseMembers_print ((key', y) :: members) fuel rest hmore (by omega)
          (by simp)
        rw [printMembers, List.tail_cons] at hrest
        change (parseMembers fuel ('"' :: (key' ++ '"' :: ':' ::
          (print y ++ printMembers members)) ++ rest)).map _ = _
        rw [hrest]
        rfl

end

/-- **Reading back what was written.** -/
theorem parse_print {x : Json} (h : WellFormed x) : parse (print x) = some x := by
  have hvalue := parseValue_print x ((print x).length + 1) [] h (Nat.le_succ _) (by
    intro c more hc
    cases hc)
  rw [List.append_nil] at hvalue
  rw [parse, hvalue]
  rfl

/-- The text of a value tells the value. -/
lemma print_inj {x y : Json} (hx : WellFormed x) (hy : WellFormed y) (h : print x = print y) :
    x = y := by
  have hparse := parse_print hx
  rw [h, parse_print hy] at hparse
  exact (Option.some.inj hparse).symm

/-! ### Strings -/

/-- A digit of `\u` escapes. -/
def hexRune (n : ℕ) : Char := "0123456789abcdef".toList.getD n '0'

/-- The escape of a rune below U+0100. -/
def longEscape (c : Char) : List Char :=
  ['\\', 'u', '0', '0', hexRune (c.toNat / 16), hexRune (c.toNat % 16)]

/-- How `appendString` writes a rune: HTML is escaped. -/
def escapeRune (c : Char) : List Char :=
  if c = '"' then ['\\', '"']
  else if c = '\\' then ['\\', '\\']
  else if c = '\x08' then ['\\', 'b']
  else if c = '\x0c' then ['\\', 'f']
  else if c = '\n' then ['\\', 'n']
  else if c = '\r' then ['\\', 'r']
  else if c = '\t' then ['\\', 't']
  else if c.toNat < 32 ∨ c = '<' ∨ c = '>' ∨ c = '&' then longEscape c
  else if c = '\u2028' then ['\\', 'u', '2', '0', '2', '8']
  else if c = '\u2029' then ['\\', 'u', '2', '0', '2', '9']
  else [c]

/-- A byte that belongs to no rune is written as an escape of U+FFFD. -/
def escapePiece : Piece → List Char
  | .rune c => escapeRune c
  | .stray _ => ['\\', 'u', 'f', 'f', 'f', 'd']

/-- `appendString`, without the quotes. -/
def quoteRunes (s : Bytes) : List Char := (pieces s).flatMap escapePiece

/-- `getu4`, after the backslash and the `u`. -/
def hex4 (a b c d : Char) : Option ℕ := do
  return (((← hexValue a) * 16 + (← hexValue b)) * 16 + (← hexValue c)) * 16 + (← hexValue d)

/-- `utf16.DecodeRune`, if the two halves make a rune. -/
def surrogates (high low : ℕ) : Option Char :=
  if 0xd800 ≤ high ∧ high < 0xdc00 ∧ 0xdc00 ≤ low ∧ low < 0xe000 then
    some (Char.ofNat ((high - 0xd800) * 1024 + (low - 0xdc00) + 0x10000))
  else none

/-- The second half of a surrogate pair, if it follows as an escape. -/
def lowAfter : List Char → Option ℕ
  | '\\' :: 'u' :: l₁ :: l₂ :: l₃ :: l₄ :: _ => hex4 l₁ l₂ l₃ l₄
  | _ => none

/-- What an escape stands for, after its backslash, and how many runes it takes. -/
def escapeOf : List Char → Option (Char × ℕ)
  | 'u' :: h₁ :: h₂ :: h₃ :: h₄ :: after =>
    match hex4 h₁ h₂ h₃ h₄ with
    | none => none
    | some r =>
      if 0xd800 ≤ r ∧ r < 0xe000 then
        match (lowAfter after).bind (surrogates r) with
        | some c => some (c, 11)
        | none => some (runeError, 5)
      else some (Char.ofNat r, 5)
  | e :: _ => (shortEscape e).map fun c => (c, 1)
  | [] => none

/-- The runes of a literal after the first ones, which belong to the escape before. -/
def unquoteFrom : ℕ → List Char → Option (List Char)
  | _, [] => some []
  | skip + 1, _ :: rest => unquoteFrom skip rest
  | 0, c :: rest =>
    if c = '\\' then
      match escapeOf rest with
      | none => none
      | some (r, taken) => (unquoteFrom taken rest).map (r :: ·)
    else if c = '"' ∨ c.toNat < 32 then none
    else (unquoteFrom 0 rest).map (c :: ·)

/-- `unquoteBytes`: the runes that a string literal stands for. -/
def unquote (raw : List Char) : Option (List Char) := unquoteFrom 0 raw

/-- The string of a literal. -/
def stringOf (raw : List Char) : Option Bytes := (unquote raw).map encode

lemma unquoteFrom_append (skipped rest : List Char) :
    unquoteFrom skipped.length (skipped ++ rest) = unquote rest := by
  induction skipped with
  | nil => rfl
  | cons c skipped ih => exact ih

/-- An escape in front. -/
lemma unquote_escape {c : Char} (body : List Char) {rest : List Char}
    (h : escapeOf (body ++ rest) = some (c, body.length)) :
    unquote ('\\' :: (body ++ rest)) = (unquote rest).map (c :: ·) := by
  rw [unquote, unquoteFrom, if_pos rfl, h]
  dsimp only
  rw [unquoteFrom_append]

lemma hexValue_hexRune : ∀ n < 16, hexValue (hexRune n) = some n := by decide

/-- The digits of a long escape tell its rune. -/
lemma hex4_longEscape {c : Char} (h : c.toNat < 256) :
    hex4 '0' '0' (hexRune (c.toNat / 16)) (hexRune (c.toNat % 16)) = some c.toNat := by
  have hhigh := hexValue_hexRune (c.toNat / 16) (by omega)
  have hlow := hexValue_hexRune (c.toNat % 16) (by omega)
  have hzero : hexValue '0' = some 0 := rfl
  simp only [hex4, hhigh, hlow, hzero, Option.bind_eq_bind, Option.bind_some, Option.pure_def]
  congr 1
  omega

lemma lt_of_longEscape {c : Char} (h : c.toNat < 32 ∨ c = '<' ∨ c = '>' ∨ c = '&') :
    c.toNat < 256 := by
  rcases h with h | rfl | rfl | rfl
  · omega
  · decide
  · decide
  · decide

/-- The ways a rune is written: a short escape, four digits, or as it is. -/
lemma escapeRune_cases (c : Char) :
    (∃ e, e ≠ 'u' ∧ shortEscape e = some c ∧ escapeRune c = ['\\', e]) ∨
      (∃ d₁ d₂ d₃ d₄, hex4 d₁ d₂ d₃ d₄ = some c.toNat ∧
        escapeRune c = ['\\', 'u', d₁, d₂, d₃, d₄]) ∨
      (c ≠ '"' ∧ c ≠ '\\' ∧ 32 ≤ c.toNat ∧ escapeRune c = [c]) := by
  by_cases hshort : c ∈ ['"', '\\', '\x08', '\x0c', '\n', '\r', '\t']
  · left
    simp only [List.mem_cons, List.not_mem_nil, or_false] at hshort
    rcases hshort with rfl | rfl | rfl | rfl | rfl | rfl | rfl
    · exact ⟨'"', by decide, rfl, rfl⟩
    · exact ⟨'\\', by decide, rfl, rfl⟩
    · exact ⟨'b', by decide, rfl, rfl⟩
    · exact ⟨'f', by decide, rfl, rfl⟩
    · exact ⟨'n', by decide, rfl, rfl⟩
    · exact ⟨'r', by decide, rfl, rfl⟩
    · exact ⟨'t', by decide, rfl, rfl⟩
  · right
    simp only [List.mem_cons, List.not_mem_nil, or_false, not_or] at hshort
    obtain ⟨h₁, h₂, h₃, h₄, h₅, h₆, h₇⟩ := hshort
    rw [escapeRune, if_neg h₁, if_neg h₂, if_neg h₃, if_neg h₄, if_neg h₅, if_neg h₆, if_neg h₇]
    by_cases hlong : c.toNat < 32 ∨ c = '<' ∨ c = '>' ∨ c = '&'
    · rw [if_pos hlong]
      exact .inl ⟨_, _, _, _, hex4_longEscape (lt_of_longEscape hlong), rfl⟩
    · rw [if_neg hlong]
      by_cases hline : c = '\u2028'
      · rw [if_pos hline, hline]
        exact .inl ⟨'2', '0', '2', '8', rfl, rfl⟩
      · rw [if_neg hline]
        by_cases hparagraph : c = '\u2029'
        · rw [if_pos hparagraph, hparagraph]
          exact .inl ⟨'2', '0', '2', '9', rfl, rfl⟩
        · rw [if_neg hparagraph]
          exact .inr ⟨h₁, h₂, not_lt.mp fun h => hlong (.inl h), rfl⟩

/-- No rune is half of a surrogate pair. -/
lemma toNat_not_surrogate (c : Char) : ¬(0xd800 ≤ c.toNat ∧ c.toNat < 0xe000) := by
  have hvalid : c.toNat < 0xd800 ∨ 0xdfff < c.toNat ∧ c.toNat < 0x110000 := c.valid
  omega

/-- Four digits stand for their rune. -/
lemma escapeOf_digits {c d₁ d₂ d₃ d₄ : Char} (h : hex4 d₁ d₂ d₃ d₄ = some c.toNat)
    (rest : List Char) : escapeOf (['u', d₁, d₂, d₃, d₄] ++ rest) = some (c, 5) := by
  change (match hex4 d₁ d₂ d₃ d₄ with
    | none => none
    | some r => _) = _
  rw [h]
  dsimp only
  rw [if_neg (toNat_not_surrogate c), Char.ofNat_toNat]

lemma escapeOf_short {c e : Char} (hu : e ≠ 'u') (h : shortEscape e = some c) (rest : List Char) :
    escapeOf ([e] ++ rest) = some (c, 1) := by
  rw [List.singleton_append, escapeOf, h]
  · rfl
  · rintro _ _ _ _ _ heq
    exact absurd heq hu

/-- A rune comes back from how it was written. -/
lemma unquote_escapeRune (c : Char) (rest : List Char) :
    unquote (escapeRune c ++ rest) = (unquote rest).map (c :: ·) := by
  rcases escapeRune_cases c with ⟨e, hu, he, heq⟩ | ⟨d₁, d₂, d₃, d₄, hdigits, heq⟩ |
    ⟨hquote, hslash, hlarge, heq⟩
  · rw [heq]
    exact unquote_escape [e] (escapeOf_short hu he rest)
  · rw [heq]
    exact unquote_escape ['u', d₁, d₂, d₃, d₄] (escapeOf_digits hdigits rest)
  · rw [heq]
    change unquoteFrom 0 (c :: rest) = _
    rw [unquoteFrom, if_neg hslash, if_neg (not_or.mpr ⟨hquote, not_lt.mpr hlarge⟩)]
    rfl

lemma unquote_escapePiece (p : Piece) (rest : List Char) :
    unquote (escapePiece p ++ rest) = (unquote rest).map (p.seen :: ·) := by
  cases p with
  | rune c => exact unquote_escapeRune c rest
  | stray b => exact unquote_escape ['u', 'f', 'f', 'f', 'd'] rfl

/-- **A string comes back with its stray bytes repaired.** -/
theorem unquote_quoteRunes (s : Bytes) : unquote (quoteRunes s) = some (runes s) := by
  rw [quoteRunes, runes]
  induction pieces s with
  | nil => rfl
  | cons p ps ih => rw [List.flatMap_cons, unquote_escapePiece, ih, List.map_cons, Option.map_some]

lemma stringOf_quoteRunes (s : Bytes) : stringOf (quoteRunes s) = some (repair s) := by
  rw [stringOf, unquote_quoteRunes]
  rfl

/-- The scanner of strings passes over the text. -/
def Passed (text : List Char) : Prop := ∀ rest, scanString .plain (text ++ rest) =
  (scanString .plain rest).map fun q => (text ++ q.1, q.2)

lemma passed_short (e : Char) (hu : e ≠ 'u') (h : (shortEscape e).isSome) :
    Passed ['\\', e] := by
  intro rest
  change scanString .plain ('\\' :: e :: rest) = _
  rw [scanString, if_neg (by decide), if_pos rfl, scanString, if_neg hu, if_pos h, Option.map_map]
  rfl

lemma scanString_digit {d : Char} (h : (hexValue d).isSome) (n : ℕ) (rest : List Char) :
    scanString (.digits (n + 2)) (d :: rest) =
      (scanString (.digits (n + 1)) rest).map fun q => (d :: q.1, q.2) := by
  rw [scanString, if_neg (by simpa [Option.isSome_iff_ne_none] using h), if_neg (by omega)]
  rfl

lemma scanString_lastDigit {d : Char} (h : (hexValue d).isSome) (rest : List Char) :
    scanString (.digits 1) (d :: rest) =
      (scanString .plain rest).map fun q => (d :: q.1, q.2) := by
  rw [scanString, if_neg (by simpa [Option.isSome_iff_ne_none] using h), if_pos le_rfl]

lemma passed_long (d₁ d₂ d₃ d₄ : Char) (h₁ : (hexValue d₁).isSome) (h₂ : (hexValue d₂).isSome)
    (h₃ : (hexValue d₃).isSome) (h₄ : (hexValue d₄).isSome) :
    Passed ['\\', 'u', d₁, d₂, d₃, d₄] := by
  intro rest
  change scanString .plain ('\\' :: 'u' :: d₁ :: d₂ :: d₃ :: d₄ :: rest) = _
  rw [scanString, if_neg (by decide), if_pos rfl, scanString, if_pos rfl, scanString_digit h₁ 2,
    scanString_digit h₂ 1, scanString_digit h₃ 0, scanString_lastDigit h₄]
  simp only [Option.map_map]
  rfl

lemma passed_digits {n : ℕ} {d₁ d₂ d₃ d₄ : Char} (h : hex4 d₁ d₂ d₃ d₄ = some n) :
    Passed ['\\', 'u', d₁, d₂, d₃, d₄] := by
  obtain ⟨n₁, h₁, h⟩ := Option.bind_eq_some_iff.mp h
  obtain ⟨n₂, h₂, h⟩ := Option.bind_eq_some_iff.mp h
  obtain ⟨n₃, h₃, h⟩ := Option.bind_eq_some_iff.mp h
  obtain ⟨n₄, h₄, -⟩ := Option.bind_eq_some_iff.mp h
  exact passed_long d₁ d₂ d₃ d₄ (Option.isSome_of_eq_some h₁) (Option.isSome_of_eq_some h₂)
    (Option.isSome_of_eq_some h₃) (Option.isSome_of_eq_some h₄)

/-- What is written for a rune. -/
lemma passed_escapeRune (c : Char) : Passed (escapeRune c) := by
  rcases escapeRune_cases c with ⟨e, hu, he, heq⟩ | ⟨d₁, d₂, d₃, d₄, hdigits, heq⟩ |
    ⟨hquote, hslash, hlarge, heq⟩
  · rw [heq]
    exact passed_short e hu (Option.isSome_of_eq_some he)
  · rw [heq]
    exact passed_digits hdigits
  · rw [heq]
    intro rest
    change scanString .plain (c :: rest) = _
    rw [scanString, if_neg hquote, if_neg hslash, if_neg (not_lt.mpr hlarge)]
    rfl

lemma passed_escapePiece (p : Piece) : Passed (escapePiece p) := by
  cases p with
  | rune c => exact passed_escapeRune c
  | stray b => exact passed_long 'f' 'f' 'f' 'd' rfl rfl rfl rfl

/-- What is written for a string is a literal. -/
lemma stringLiteral_quoteRunes (s : Bytes) : StringLiteral (quoteRunes s) := by
  intro rest
  rw [quoteRunes]
  induction pieces s with
  | nil => rfl
  | cons p ps ih =>
    rw [List.flatMap_cons, List.append_assoc, passed_escapePiece, ih]
    rfl

/-- A repaired text is not longer, and shorter if there was something to repair. -/
lemma length_escape_le (ps : List Piece) :
    (ps.flatMap fun p => escapeRune p.seen).length ≤ (ps.flatMap escapePiece).length ∧
      ((ps.flatMap fun p => escapeRune p.seen).length = (ps.flatMap escapePiece).length →
        ∀ p ∈ ps, ∃ c, p = .rune c) := by
  induction ps with
  | nil => simp
  | cons p ps ih =>
    obtain ⟨hle, heq⟩ := ih
    rw [List.flatMap_cons, List.flatMap_cons, List.length_append, List.length_append]
    cases p with
    | rune c =>
      have hsame : (escapeRune (Piece.rune c).seen).length = (escapePiece (.rune c)).length :=
        rfl
      refine ⟨by omega, fun h => List.forall_mem_cons.mpr ⟨⟨c, rfl⟩, heq (by omega)⟩⟩
    | stray b =>
      have hread : (escapeRune runeError).length = 1 := by decide
      change (escapeRune runeError).length + _ ≤ _ ∧ ((escapeRune runeError).length + _ = _ → _)
      have hwritten : (escapePiece (.stray b)).length = 6 := rfl
      exact ⟨by omega, fun h => by omega⟩

/-- **A string is written again as it was written exactly if it is UTF-8.** -/
theorem quoteRunes_repair_iff {s : Bytes} :
    quoteRunes (repair s) = quoteRunes s ↔ ValidUtf8 s := by
  constructor
  · intro h
    have hrepaired : quoteRunes (repair s) =
        (pieces s).flatMap fun p => escapeRune p.seen := by
      rw [quoteRunes, repair, pieces_encode, List.flatMap_map, runes, List.flatMap_map]
      rfl
    rw [hrepaired] at h
    exact (length_escape_le (pieces s)).2 (congrArg List.length h)
  · intro h
    rw [repair_of_valid h]

/-! ### Numbers -/

/-- The text of a natural number. -/
def ofNat (n : ℕ) : Json := .number (Nat.toDigits 10 n)

/-- `strconv.ParseUint` on a literal. -/
def uint64Of (literal : List Char) : Option UInt64 :=
  let n := Nat.ofDigitChars 10 literal 0
  if literal ≠ [] ∧ literal.all Char.isDigit ∧ n < 2 ^ 64 then some (UInt64.ofNat n) else none

lemma isDigit_toDigits {n : ℕ} : ∀ c ∈ Nat.toDigits 10 n, c.isDigit = true :=
  fun _ hc => Nat.isDigit_of_mem_toDigits (by omega) (by omega) hc

/-- The text of a positive number does not start with a zero. -/
lemma head_toDigits_ne {n : ℕ} (h : 0 < n) (more : List Char) :
    Nat.toDigits 10 n ≠ '0' :: more := by
  induction n using Nat.strong_induction_on generalizing more with
  | _ n ih =>
    rcases Nat.lt_or_ge n 10 with hlt | hge
    · rw [Nat.toDigits_of_lt_base hlt]
      interval_cases n <;> simp [Nat.digitChar]
    · rw [Nat.toDigits_of_base_le (by omega) hge]
      intro heq
      cases hfront : Nat.toDigits 10 (n / 10) with
      | nil => exact Nat.toDigits_ne_nil hfront
      | cons c cs =>
        rw [hfront, List.cons_append] at heq
        have hc : c = '0' := (List.cons.inj heq).1
        exact ih (n / 10) (by omega) (by omega) cs (by rw [hfront, hc])

/-- What ends a value goes on with no digit, point or exponent. -/
lemma Ends.number {rest : List Char} (h : Ends rest) :
    rest.takeWhile Char.isDigit = [] ∧ rest.dropWhile Char.isDigit = rest ∧
      scanFraction rest = some ([], rest) ∧ scanExponent rest = some ([], rest) := by
  cases rest with
  | nil => exact ⟨rfl, rfl, rfl, rfl⟩
  | cons c more =>
    rcases h c more rfl with rfl | rfl | rfl
    · exact ⟨rfl, rfl, rfl, rfl⟩
    · exact ⟨rfl, rfl, rfl, rfl⟩
    · exact ⟨rfl, rfl, rfl, rfl⟩

lemma scanRun_digits {digits rest : List Char} (hne : digits ≠ [])
    (hdigits : ∀ c ∈ digits, c.isDigit = true) (hrest : Ends rest) :
    scanRun (digits ++ rest) = some (digits, rest) := by
  have htake : (digits ++ rest).takeWhile Char.isDigit = digits := by
    rw [List.takeWhile_append_of_pos hdigits, hrest.number.1, List.append_nil]
  have hdrop : (digits ++ rest).dropWhile Char.isDigit = rest := by
    rw [List.dropWhile_append_of_pos hdigits, hrest.number.2.1]
  rw [scanRun, htake, hdrop, if_neg hne]

/-- The text of a natural number is a literal. -/
lemma numberLiteral_toDigits (n : ℕ) : NumberLiteral (Nat.toDigits 10 n) := by
  obtain ⟨c, more, hdigits, hc⟩ := toDigits_cons n
  refine ⟨⟨c, more, hdigits, .inr hc⟩, fun rest hrest => ?_⟩
  have hwhole : scanWhole (Nat.toDigits 10 n ++ rest) = some (Nat.toDigits 10 n, rest) := by
    rcases Nat.eq_zero_or_pos n with rfl | hpos
    · rfl
    · rw [← scanRun_digits Nat.toDigits_ne_nil isDigit_toDigits hrest]
      unfold scanWhole
      split
      · rename_i after heq
        rw [hdigits, List.cons_append] at heq
        have hzero := (List.cons.inj heq).1
        rw [hzero] at hdigits
        exact absurd hdigits (head_toDigits_ne hpos more)
      · rfl
  have hunsigned : scanUnsigned (Nat.toDigits 10 n ++ rest) =
      some (Nat.toDigits 10 n, rest) := by
    rw [scanUnsigned, hwhole]
    simp [hrest.number.2.2.1, hrest.number.2.2.2]
  rw [← hunsigned]
  unfold scanNumber
  split
  · rename_i after heq
    rw [hdigits, List.cons_append] at heq
    exact absurd (List.cons.inj heq).1 (ne_of_isDigit hc rfl)
  · rfl

/-- **A number comes back.** -/
theorem uint64Of_toDigits (n : UInt64) : uint64Of (Nat.toDigits 10 n.toNat) = some n := by
  have hall : (Nat.toDigits 10 n.toNat).all Char.isDigit = true :=
    List.all_eq_true.mpr isDigit_toDigits
  have hvalue : Nat.ofDigitChars 10 (Nat.toDigits 10 n.toNat) 0 = n.toNat :=
    Nat.ofDigitChars_ten_toDigits
  rw [uint64Of, hvalue, if_pos ⟨Nat.toDigits_ne_nil, hall, n.toNat_lt⟩, UInt64.ofNat_toNat]

end Json

end Go

/-
The text functions of the Go standard library a control plane is written with:
`%q`, `fmt.Sprint` of an integer, `fmt.Sscanf` of `%d`, a few of `strings`, and the
lexical functions of `filepath`.

* `sscanInt`: `fmt.Sscanf(text, "%d", &value)` on a 64-bit `int`, with the
  library's rules: leading blanks are skipped, a newline or an empty run of
  digits is an error, a value outside the type is an error, and whatever
  follows the digits is ignored.
* `sscanInt_sprintInt`: reading back what `fmt.Sprint` wrote gives the integer.
* `split_intercalate`: splitting what `strings.Join` joined splits every text on its own.
-/
import Mathlib.Tactic
import Mathlib.Data.List.TakeWhile

namespace Go

/-- One rune inside a `%q` literal. Runes beyond ASCII are kept. -/
def quoteRune (c : Char) : List Char :=
  if c = '"' then ['\\', '"']
  else if c = '\\' then ['\\', '\\']
  else if c = '\n' then ['\\', 'n']
  else if c = '\r' then ['\\', 'r']
  else if c = '\t' then ['\\', 't']
  else if c.toNat = 7 then ['\\', 'a']
  else if c.toNat = 8 then ['\\', 'b']
  else if c.toNat = 11 then ['\\', 'v']
  else if c.toNat = 12 then ['\\', 'f']
  else if c.toNat < 32 ∨ c.toNat = 127 then
    ['\\', 'x', Nat.digitChar (c.toNat / 16), Nat.digitChar (c.toNat % 16)]
  else [c]

/-- `fmt.Sprintf("%q", text)`. -/
def quote (text : String) : String :=
  String.ofList ('"' :: (text.toList.flatMap quoteRune ++ ['"']))

/-- `fmt.Sprint` of an `int`. -/
def sprintInt (i : Int64) : String := toString i.toInt

/-- `strings.Contains`. -/
def contains (text sub : String) : Bool := decide (sub.toList <:+: text.toList)

/-- The pieces of `strings.Split(text, sep)` for a one-rune separator. -/
def splitRunes (sep : Char) : List Char → List (List Char)
  | [] => [[]]
  | c :: cs =>
    match splitRunes sep cs with
    | [] => [[c]]
    | piece :: pieces =>
      if c = sep then [] :: piece :: pieces else (c :: piece) :: pieces

/-- `strings.Split(text, sep)` for a one-rune separator. -/
def split (text : String) (sep : Char) : List String :=
  (splitRunes sep text.toList).map String.ofList

/-- One path element under `filepath.Clean`: the elements kept so far, innermost
first. -/
def cleanElement (rooted : Bool) (kept : List String) (element : String) : List String :=
  if element = "" ∨ element = "." then kept
  else if element = ".." then
    match kept with
    | [] => if rooted then [] else [".."]
    | ".." :: _ => ".." :: kept
    | _ :: rest => rest
  else element :: kept

/-- `filepath.Clean` on a slash-separated path. -/
def cleanPath (path : String) : String :=
  let rooted := path.toList.head? == some '/'
  let kept := ((split path '/').foldl (cleanElement rooted) []).reverse
  let body := String.intercalate "/" kept
  if rooted then "/" ++ body else if kept = [] then "." else body

/-- `filepath.Join`: empty elements in front are dropped. -/
def joinPath (elements : List String) : String :=
  match elements.dropWhile (· = "") with
  | [] => ""
  | rest => cleanPath (String.intercalate "/" rest)

/-- `filepath.Base`: the last element, without trailing slashes. -/
def basePath (path : String) : String :=
  if path = "" then "."
  else
    let trimmed := path.toList.reverse.dropWhile (· = '/')
    if trimmed = [] then "/" else String.ofList (trimmed.takeWhile (· ≠ '/')).reverse

/-- The blanks `fmt` skips in front of a verb. -/
def isSpace (c : Char) : Bool :=
  let n := c.toNat
  (9 ≤ n && n ≤ 13) || n = 0x20 || n = 0x85 || n = 0xa0 || n = 0x1680 ||
    (0x2000 ≤ n && n ≤ 0x200a) || n = 0x2028 || n = 0x2029 || n = 0x202f ||
    n = 0x205f || n = 0x3000

/-- `ss.SkipSpace` where a newline is not a blank: `none` is its error. -/
def skipSpace : List Char → Option (List Char)
  | [] => some []
  | c :: cs => if c = '\n' then none else if isSpace c then skipSpace cs else some (c :: cs)

/-- The optional sign, and what follows it. -/
def scanSign : List Char → Bool × List Char
  | '-' :: cs => (true, cs)
  | '+' :: cs => (false, cs)
  | cs => (false, cs)

/-- The digits of a number token, read in base ten. `none` is the library's
"expected integer". -/
def scanDigits (cs : List Char) : Option ℕ :=
  if cs.takeWhile Char.isDigit = [] then none
  else some (Nat.ofDigitChars 10 (cs.takeWhile Char.isDigit) 0)

/-- The integer token at the front of a text: blanks, sign, digits. -/
def scanInt (text : List Char) : Option Int := do
  let cs ← skipSpace text
  let n ← scanDigits (scanSign cs).2
  return if (scanSign cs).1 then -(n : Int) else n

/-- `fmt.Sscanf(text, "%d", &value)` into an `int`; `none` is any error. -/
def sscanInt (text : String) : Option Int64 := do
  let i ← scanInt text.toList
  if -2 ^ 63 ≤ i ∧ i < 2 ^ 63 then return Int64.ofInt i else none

/-- `strings.HasPrefix`. -/
def hasPrefix (text start : String) : Bool := start.toList.isPrefixOf text.toList

/-- `strings.ContainsAny`. -/
def containsAny (text runes : String) : Bool := text.toList.any fun c => runes.toList.contains c

/-- `strings.TrimSpace`. -/
def trimSpace (text : String) : String :=
  String.ofList (((text.toList.dropWhile isSpace).reverse.dropWhile isSpace).reverse)

/-- The pieces between runs of blanks, the piece being read first. -/
def fieldRunes : List Char → List (List Char)
  | [] => [[]]
  | c :: cs =>
    match fieldRunes cs with
    | [] => [[c]]
    | piece :: pieces =>
      if isSpace c then
        if piece = [] then [] :: pieces else [] :: piece :: pieces
      else (c :: piece) :: pieces

/-- `strings.Fields`. -/
def fields (text : String) : List String :=
  ((fieldRunes text.toList).filter (· ≠ [])).map String.ofList

/-- What stands before and after the first separator, as `strings.Index` and
`strings.SplitN(text, sep, 2)` find it. -/
def cut (text : String) (sep : Char) : Option (String × String) :=
  match text.toList.dropWhile (· ≠ sep) with
  | [] => none
  | _ :: after => some (String.ofList (text.toList.takeWhile (· ≠ sep)), String.ofList after)

/-- `strconv.Atoi`: a sign or none, digits up to the end, and a value an `int` holds. -/
def atoi (text : String) : Option Int64 :=
  let (negative, digits) := scanSign text.toList
  let n := Nat.ofDigitChars 10 digits 0
  let i : Int := if negative then -(n : Int) else n
  if digits ≠ [] ∧ digits.all Char.isDigit ∧ -2 ^ 63 ≤ i ∧ i < 2 ^ 63 then some (Int64.ofInt i)
  else none

section Split

variable {sep c : Char}

lemma splitRunes_ne_nil (sep : Char) (runes : List Char) : splitRunes sep runes ≠ [] := by
  cases runes with
  | nil => simp [splitRunes]
  | cons c cs =>
    simp only [splitRunes]
    split
    · simp
    · split_ifs <;> simp

lemma splitRunes_sep (sep : Char) (runes : List Char) :
    splitRunes sep (sep :: runes) = [] :: splitRunes sep runes := by
  obtain ⟨piece, pieces, hsplit⟩ := List.exists_cons_of_ne_nil (splitRunes_ne_nil sep runes)
  simp [splitRunes, hsplit]

/-- A rune that is no separator goes to the first piece. -/
lemma splitRunes_cons (hc : c ≠ sep) (runes : List Char) :
    ∃ piece pieces, splitRunes sep runes = piece :: pieces ∧
      splitRunes sep (c :: runes) = (c :: piece) :: pieces := by
  obtain ⟨piece, pieces, hsplit⟩ := List.exists_cons_of_ne_nil (splitRunes_ne_nil sep runes)
  exact ⟨piece, pieces, hsplit, by simp [splitRunes, hsplit, hc]⟩

/-- A separator in the middle splits there. -/
lemma splitRunes_append (sep : Char) (xs ys : List Char) :
    splitRunes sep (xs ++ sep :: ys) = splitRunes sep xs ++ splitRunes sep ys := by
  induction xs with
  | nil => exact splitRunes_sep sep ys
  | cons c cs ih =>
    by_cases hc : c = sep
    · rw [hc, List.cons_append, splitRunes_sep, splitRunes_sep, ih, List.cons_append]
    · obtain ⟨piece, pieces, hsplit, hcons⟩ := splitRunes_cons hc cs
      obtain ⟨piece', pieces', hsplit', hcons'⟩ := splitRunes_cons hc (cs ++ sep :: ys)
      rw [ih, hsplit, List.cons_append, List.cons.injEq] at hsplit'
      rw [List.cons_append, hcons, hcons', ← hsplit'.1, ← hsplit'.2, List.cons_append]

lemma splitRunes_of_absent {runes : List Char} (h : sep ∉ runes) :
    splitRunes sep runes = [runes] := by
  induction runes with
  | nil => rfl
  | cons c cs ih =>
    obtain ⟨hc, hcs⟩ := not_or.mp (mt List.mem_cons.mpr h)
    simp [splitRunes, ih hcs, Ne.symm hc]

/-- A piece holds no separator. -/
lemma sep_not_mem_piece {runes piece : List Char} (h : piece ∈ splitRunes sep runes) :
    sep ∉ piece := by
  induction runes generalizing piece with
  | nil =>
    rw [List.mem_singleton.mp h]
    exact List.not_mem_nil
  | cons c cs ih =>
    by_cases hc : c = sep
    · rw [hc, splitRunes_sep, List.mem_cons] at h
      rcases h with rfl | h
      · exact List.not_mem_nil
      · exact ih h
    · obtain ⟨first, pieces, hsplit, hcons⟩ := splitRunes_cons hc cs
      rw [hsplit] at ih
      rw [hcons, List.mem_cons] at h
      rcases h with rfl | h
      · exact mt List.mem_cons.mp (not_or.mpr ⟨Ne.symm hc, ih List.mem_cons_self⟩)
      · exact ih (List.mem_cons_of_mem _ h)

/-- Splitting what was joined: every joined text is split on its own. -/
lemma split_intercalate (sep : Char) (text : String) (texts : List String) :
    split (String.intercalate (String.singleton sep) (text :: texts)) sep =
      (text :: texts).flatMap fun t => split t sep := by
  induction texts generalizing text with
  | nil => simp
  | cons next texts ih =>
    rw [String.intercalate_cons_cons, List.flatMap_cons, ← ih, split, split, split,
      ← List.map_append, ← splitRunes_append]
    simp

end Split

section RoundTrip

lemma skipSpace_cons {c : Char} {cs : List Char} (hn : c ≠ '\n') (hs : isSpace c = false) :
    skipSpace (c :: cs) = some (c :: cs) := by
  simp [skipSpace, hn, hs]

/-- A digit starts a number: it is no blank, no newline and no sign. -/
lemma isDigit_not_space {c : Char} (h : c.isDigit = true) :
    c ≠ '\n' ∧ c ≠ '-' ∧ c ≠ '+' ∧ isSpace c = false := by
  have hc : 48 ≤ c.toNat ∧ c.toNat ≤ 57 := by
    rw [Char.isDigit, Bool.and_eq_true, decide_eq_true_eq, decide_eq_true_eq] at h
    exact h
  refine ⟨?_, ?_, ?_, ?_⟩
  · rintro rfl
    simp at hc
  · rintro rfl
    simp at hc
  · rintro rfl
    simp at hc
  · simp only [isSpace, Bool.or_eq_false_iff, Bool.and_eq_false_iff, decide_eq_false_iff_not]
    omega

lemma scanSign_digit {c : Char} {cs : List Char} (h : c.isDigit = true) :
    scanSign (c :: cs) = (false, c :: cs) := by
  obtain ⟨-, hm, hp, -⟩ := isDigit_not_space h
  unfold scanSign
  split
  · exact absurd (List.cons.inj ‹_›).1 hm
  · exact absurd (List.cons.inj ‹_›).1 hp
  · rfl

/-- The decimal text of a natural number scans back to it. -/
lemma scanDigits_toDigits (n : ℕ) : scanDigits (Nat.toDigits 10 n) = some n := by
  have hall : ∀ c ∈ Nat.toDigits 10 n, c.isDigit = true :=
    fun c hc => Nat.isDigit_of_mem_toDigits (by omega) (by omega) hc
  have htake : (Nat.toDigits 10 n).takeWhile Char.isDigit = Nat.toDigits 10 n :=
    List.takeWhile_eq_self_iff.mpr hall
  rw [scanDigits, htake, if_neg Nat.toDigits_ne_nil, Nat.ofDigitChars_ten_toDigits]

/-- A natural number prints to a digit in front of more digits. -/
lemma toDigits_cons (n : ℕ) :
    ∃ c cs, Nat.toDigits 10 n = c :: cs ∧ c.isDigit = true := by
  obtain ⟨c, cs, h⟩ := List.exists_cons_of_ne_nil (Nat.toDigits_ne_nil (n := n) (b := 10))
  have hc : c ∈ Nat.toDigits 10 n := by simp [h]
  exact ⟨c, cs, h, Nat.isDigit_of_mem_toDigits (by omega) (by omega) hc⟩

lemma toList_toString_nonneg (n : ℕ) : (toString (n : Int)).toList = Nat.toDigits 10 n := by
  change (Nat.repr n).toList = _
  exact Nat.toList_repr

lemma toList_toString_neg (n : ℕ) :
    (toString (Int.negSucc n)).toList = '-' :: Nat.toDigits 10 (n + 1) := by
  change ("-" ++ Nat.repr (n + 1)).toList = _
  rw [String.toList_append, Nat.toList_repr]
  rfl

/-- Reading an integer token back from its decimal text. -/
lemma scanInt_toString (i : Int) : scanInt (toString i).toList = some i := by
  cases i with
  | ofNat n =>
    -- no sign: the first rune is already a digit
    obtain ⟨c, cs, hcs, hc⟩ := toDigits_cons n
    obtain ⟨hn, -, -, hs⟩ := isDigit_not_space hc
    have hscan : scanDigits (c :: cs) = some n := hcs ▸ scanDigits_toDigits n
    rw [Int.ofNat_eq_natCast, toList_toString_nonneg, hcs, scanInt, skipSpace_cons hn hs]
    simp [scanSign_digit hc, hscan]
  | negSucc n =>
    -- the sign is consumed, the digits of the absolute value follow
    rw [toList_toString_neg, scanInt, skipSpace_cons (by decide) (by decide)]
    simp [scanSign, scanDigits_toDigits, Int.negSucc_eq]

/-- **Integers survive the log**: `fmt.Sscanf("%d")` reads back exactly what
`fmt.Sprint` wrote. -/
lemma sscanInt_sprintInt (x : Int64) : sscanInt (sprintInt x) = some x := by
  have hlo : -2 ^ 63 ≤ x.toInt := Int64.le_toInt x
  have hhi : x.toInt < 2 ^ 63 := Int64.toInt_lt x
  rw [sprintInt, sscanInt, scanInt_toString]
  simp only [Option.bind_eq_bind, Option.bind_some, if_pos (And.intro hlo hhi)]
  rw [Int64.ofInt_toInt]
  rfl

/-- The decimal text of a number that is not negative has no dash. -/
lemma dash_not_mem_toString {i : ℤ} (h : 0 ≤ i) : '-' ∉ (toString i).toList := by
  obtain ⟨n, rfl⟩ := Int.eq_ofNat_of_zero_le h
  rw [toList_toString_nonneg]
  intro hdash
  have hdigit := Nat.isDigit_of_mem_toDigits (by omega) (by omega) hdash
  revert hdigit
  decide

/-- What stands before the last separator, and what stands after it, can be read off. -/
lemma append_sep_inj {sep : Char} {xs xs' ys ys' : List Char} (h : sep ∉ ys) (h' : sep ∉ ys')
    (heq : xs ++ sep :: ys = xs' ++ sep :: ys') : xs = xs' ∧ ys = ys' := by
  -- a separator further to the right would stand in one of the two tails
  rcases List.append_eq_append_iff.mp heq with ⟨as, hxs, hys⟩ | ⟨bs, hxs, hys⟩
  · cases as with
    | nil =>
      rw [List.append_nil] at hxs
      exact ⟨hxs.symm, (List.cons_eq_cons.mp hys).2⟩
    | cons c as =>
      rw [(List.cons_eq_cons.mp hys).2] at h
      exact absurd (List.mem_append_right as List.mem_cons_self) h
  · cases bs with
    | nil =>
      rw [List.append_nil] at hxs
      exact ⟨hxs, (List.cons_eq_cons.mp hys).2.symm⟩
    | cons c bs =>
      rw [(List.cons_eq_cons.mp hys).2] at h'
      exact absurd (List.mem_append_right bs List.mem_cons_self) h'

/-- What stands before the first separator, and what stands after it, can be read off. -/
lemma sep_append_inj {sep : Char} {xs xs' ys ys' : List Char} (h : sep ∉ xs) (h' : sep ∉ xs')
    (heq : xs ++ sep :: ys = xs' ++ sep :: ys') : xs = xs' ∧ ys = ys' := by
  have hreversed := congrArg List.reverse heq
  simp only [List.reverse_append, List.reverse_cons, List.append_assoc, List.singleton_append]
    at hreversed
  rw [← List.mem_reverse] at h h'
  obtain ⟨hys, hxs⟩ := append_sep_inj h h' hreversed
  exact ⟨List.reverse_inj.mp hxs, List.reverse_inj.mp hys⟩

/-- An unsigned integer prints to its digits. -/
lemma toList_toString_uint64 (n : UInt64) : (toString n).toList = Nat.toDigits 10 n.toNat :=
  Nat.toList_repr

lemma not_mem_toString_uint64 {c : Char} (h : c.isDigit = false) (n : UInt64) :
    c ∉ (toString n).toList := by
  rw [toList_toString_uint64]
  intro hmem
  have hdigit := Nat.isDigit_of_mem_toDigits (by omega) (by omega) hmem
  exact Bool.false_ne_true (h.symm.trans hdigit)

lemma toString_uint64_inj {n n' : UInt64} (h : (toString n).toList = (toString n').toList) :
    n = n' := by
  rw [toList_toString_uint64, toList_toString_uint64] at h
  have hscan := congrArg scanDigits h
  rw [scanDigits_toDigits, scanDigits_toDigits, Option.some.injEq] at hscan
  exact UInt64.toNat_inj.mp hscan

/-- A length is scanned back, unless it is beyond `int`. -/
lemma sscanInt_length (n : ℕ) :
    (sscanInt (toString n)).getD 0 = if n < 2 ^ 63 then Int64.ofInt n else 0 := by
  have hscan : scanInt (toString n).toList = some (n : Int) := scanInt_toString n
  rw [sscanInt, hscan, Option.bind_eq_bind, Option.bind_some]
  by_cases hn : n < 2 ^ 63
  · have hlow : -2 ^ 63 ≤ (n : Int) := le_trans (by norm_num) (Int.natCast_nonneg n)
    have hhigh : (n : Int) < 2 ^ 63 := by exact_mod_cast hn
    rw [if_pos hn, if_pos ⟨hlow, hhigh⟩, Option.pure_def, Option.getD_some]
  · have hhigh : ¬ (n : Int) < 2 ^ 63 := by exact_mod_cast hn
    rw [if_neg hn, if_neg (not_and_of_not_right _ hhigh), Option.getD_none]

end RoundTrip

end Go

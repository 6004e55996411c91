/-
HostedModules.Json.Token — the words of a JSON text.

A text is cut into tokens from the left.  The cut ends at the first place where
no token begins; what stands there is reported as one last token, so that a
reader meets faults in the order of the text.

* `Json.Token` — brackets, marks, strings, literals, and the two kinds of fault
* `Json.stringBody` — a string from behind its opening quote
* `Json.number` — the longest number at the head of a text: an integer, or with
  fraction or exponent a double
* `Json.tokens` — the tokens of a text
-/
import HostedModules.Number.Decimal
import HostedModules.Value

namespace HostedModules
namespace Json

/-- A word of a JSON text. -/
inductive Token where
  | openList
  | closeList
  | openRecord
  | closeRecord
  | comma
  | colon
  | string (s : String)
  /-- A number or one of the named values. -/
  | literal (v : Value)
  /-- An integer with more digits than are converted. -/
  | oversized
  /-- Something that is no token. -/
  | junk

/-! ## Strings -/

/-- The value of a hexadecimal digit. -/
def hexValue? (c : Char) : Option Nat :=
  if '0' ≤ c ∧ c ≤ '9' then some (c.toNat - '0'.toNat)
  else if 'a' ≤ c ∧ c ≤ 'f' then some (c.toNat - 'a'.toNat + 10)
  else if 'A' ≤ c ∧ c ≤ 'F' then some (c.toNat - 'A'.toNat + 10)
  else none

/-- The number written by four hexadecimal digits. -/
def hexFour? (a b c d : Char) : Option Nat := do
  let a ← hexValue? a
  let b ← hexValue? b
  let c ← hexValue? c
  let d ← hexValue? d
  pure (((a * 16 + b) * 16 + c) * 16 + d)

/-- The character behind a backslash that stands for another one. -/
def shortEscape? : Char → Option Char
  | '\x22' => some '\x22'
  | '\x5c' => some '\x5c'
  | '/' => some '/'
  | 'b' => some '\x08'
  | 'f' => some '\x0c'
  | 'n' => some '\n'
  | 'r' => some '\r'
  | 't' => some '\t'
  | _ => none

/-- The first half of a pair that codes one character beyond U+FFFF. -/
def isHighHalf (code : Nat) : Bool := 0xD800 ≤ code && code < 0xDC00

/-- The second half of such a pair. -/
def isLowHalf (code : Nat) : Bool := 0xDC00 ≤ code && code < 0xE000

/-- The character of a pair of halves. -/
def joinHalves (high low : Nat) : Char :=
  Char.ofNat (0x10000 + (high - 0xD800) * 0x400 + (low - 0xDC00))

/-- The character of a code that stands alone; a half without its partner is
replaced. -/
def lone (code : Nat) : Char :=
  if isHighHalf code || isLowHalf code then '\ufffd' else Char.ofNat code

/-- A string from behind its opening quote: its characters, and the text behind
its closing quote.

Characters below U+0020 must be escaped. -/
def stringBody : List Char → Option (List Char × List Char)
  | [] => none
  | '\x22' :: rest => some ([], rest)
  | '\x5c' :: 'u' :: a :: b :: c :: d :: '\x5c' :: 'u' :: e :: f :: g :: h :: rest =>
    match hexFour? a b c d, hexFour? e f g h with
    | some high, some low =>
      if isHighHalf high && isLowHalf low then
        (stringBody rest).map fun (cs, after) =>
          (joinHalves high low :: cs, after)
      else
        (stringBody ('\x5c' :: 'u' :: e :: f :: g :: h :: rest)).map
          fun (cs, after) =>
          (lone high :: cs, after)
    | _, _ => none
  | '\x5c' :: 'u' :: a :: b :: c :: d :: rest =>
    match hexFour? a b c d with
    | some code =>
        (stringBody rest).map fun (cs, after) => (lone code :: cs, after)
    | none => none
  | '\x5c' :: c :: rest =>
    match shortEscape? c with
    | some e => (stringBody rest).map fun (cs, after) => (e :: cs, after)
    | none => none
  | c :: rest =>
    if c = '\x5c' ∨ c.toNat < 0x20 then none
    else (stringBody rest).map fun (cs, after) => (c :: cs, after)

/-! ## Numbers and named values -/

/-- The whole part of a number and the text behind it: a zero, or digits of
which the first is not zero. -/
def wholePart : List Char → List Char × List Char
  | '0' :: rest => (['0'], rest)
  | cs => (cs.takeWhile Numeral.isDigit, cs.dropWhile Numeral.isDigit)

/-- The digits behind a dot and the text behind them.  A dot without digits is
no part of a number. -/
def fractionPart : List Char → List Char × List Char
  | '.' :: rest =>
    let digits := rest.takeWhile Numeral.isDigit
    if digits.isEmpty then ([], '.' :: rest)
      else (digits, rest.dropWhile Numeral.isDigit)
  | cs => ([], cs)

/-- The exponent behind its mark and the text behind it.  A mark without digits
is no part of a number. -/
def exponentPart : List Char → Option Int × List Char
  | [] => (none, [])
  | mark :: rest =>
    let (negative, body) := Numeral.splitSign rest
    let digits := body.takeWhile Numeral.isDigit
    if (mark = 'e' ∨ mark = 'E') ∧ !digits.isEmpty then
      (some (Numeral.signed negative (Numeral.ofDigits digits)),
        body.dropWhile Numeral.isDigit)
    else (none, mark :: rest)

/-- The token of a number in parts. -/
def numberToken (negative : Bool) (whole fraction : List Char)
    (exponent : Option Int) : Token :=
  if fraction.isEmpty && exponent.isNone then
    if Numeral.digitLimit < whole.length then .oversized
    else .literal (.int (Numeral.signed negative (Numeral.ofDigits whole)))
  else
    .literal (.double
      (Double.ofDecimal negative (Numeral.ofDigits (whole ++ fraction))
      (exponent.getD 0 - fraction.length)))

/-- The longest number at the head of a text without its sign, and the text
behind it. -/
def number (negative : Bool) (cs : List Char) : Token × List Char :=
  let (whole, tail) := wholePart cs
  if whole.isEmpty then (.junk, [])
  else
    let (fraction, tail) := fractionPart tail
    let (exponent, tail) := exponentPart tail
    (numberToken negative whole fraction exponent, tail)

/-- The named values, the undefined number and the infinities among them. -/
def namedValue? (name : String) : Option Value :=
  if name = "null" then some .null
  else if name = "true" then some (.bool true)
  else if name = "false" then some (.bool false)
  else if name = "NaN" then some (.double Double.undefined)
  else if name = "Infinity" then some (.double (Double.infinity false))
  else if name = "-Infinity" then some (.double (Double.infinity true))
  else none

/-- An ASCII letter. -/
def isLetter (c : Char) : Bool := ('a' ≤ c && c ≤ 'z') || ('A' ≤ c && c ≤ 'Z')

/-- The token of a word of letters. -/
def wordToken (cs : List Char) : Token :=
  match namedValue? (String.ofList cs) with
  | some value => .literal value
  | none => .junk

/-! ## The cut -/

/-- A character that separates tokens. -/
def isBlank (c : Char) : Bool := c = ' ' || c = '\t' || c = '\n' || c = '\r'

/-- The token of a character that is one by itself. -/
def mark? : Char → Option Token
  | '[' => some .openList
  | ']' => some .closeList
  | '\x7b' => some .openRecord
  | '\x7d' => some .closeRecord
  | ',' => some .comma
  | ':' => some .colon
  | _ => none

/-- A named value begins here: with a letter, or with a minus sign and a
letter. -/
def opensWord (c : Char) (rest : List Char) : Bool :=
  isLetter c || (c = '-' && (rest.head?.map isLetter).getD false)

/-- The token that begins with a character and the text behind it; a blank gives
no token. -/
def cut (c : Char) (rest : List Char) : Option Token × List Char :=
  if isBlank c then (none, rest)
  else
    match mark? c with
    | some token => (some token, rest)
    | none =>
      if c = '\x22' then
        match stringBody rest with
        | some (cs, after) => (some (.string (String.ofList cs)), after)
        | none => (some .junk, [])
      else if opensWord c rest then
        (some (wordToken (c :: rest.takeWhile isLetter)),
          rest.dropWhile isLetter)
      else if c = '-' then Prod.map some id (number true rest)
      else Prod.map some id (number false (c :: rest))

/-- What is left behind the recursive part of a string body. -/
theorem shorter_of_map {part : Option (List Char × List Char)} {c : Char}
    {body after : List Char} {n : Nat}
    (ih : ∀ {body after : List Char}, part = some (body, after) →
      after.length < n)
    (h : (part.map fun (cs, after) => (c :: cs, after)) = some (body, after)) :
    after.length < n := by
  obtain ⟨⟨cs, tail⟩, hp, he⟩ := Option.map_eq_some_iff.1 h
  simp only [Prod.mk.injEq] at he
  exact he.2 ▸ ih hp

/-- A string body leaves less text than it was given. -/
theorem stringBody_shorter {cs body after : List Char}
    (h : stringBody cs = some (body, after)) :
    after.length < cs.length := by
  fun_induction stringBody cs generalizing body after with
  | case1 => cases h
  | case2 rest =>
    simp only [Option.some.injEq, Prod.mk.injEq] at h
    exact h.2 ▸ Nat.lt_succ_self _
  | case3 a b c d e f g j rest high low _ _ _ ih =>
    have := shorter_of_map ih h
    simp only [List.length_cons]; omega
  | case4 a b c d e f g j rest high low _ _ _ ih =>
    have := shorter_of_map ih h
    simp only [List.length_cons] at this ⊢; omega
  | case5 => cases h
  | case6 a b c d rest _ code _ ih =>
    have := shorter_of_map ih h
    simp only [List.length_cons]; omega
  | case7 => cases h
  | case8 c rest _ _ e _ ih =>
    have := shorter_of_map ih h
    simp only [List.length_cons]; omega
  | case9 => cases h
  | case10 => cases h
  | case11 c rest _ _ _ _ _ ih =>
    have := shorter_of_map ih h
    simp only [List.length_cons]; omega

/-- A whole part and the text behind it are the text that was given. -/
theorem wholePart_append (cs : List Char) :
    (wholePart cs).1 ++ (wholePart cs).2 = cs := by
  unfold wholePart
  split
  · rfl
  · exact List.takeWhile_append_dropWhile

/-- A whole part takes at least one character, unless it is empty. -/
theorem wholePart_shorter {cs : List Char}
    (h : (wholePart cs).1.isEmpty = false) :
    (wholePart cs).2.length < cs.length := by
  have parts := congrArg List.length (wholePart_append cs)
  have := List.length_pos_iff.2 (List.isEmpty_eq_false_iff.1 h)
  rw [List.length_append] at parts
  omega

/-- A fraction leaves no more text than it was given. -/
theorem fractionPart_length (cs : List Char) :
    (fractionPart cs).2.length ≤ cs.length := by
  unfold fractionPart
  split
  · rename_i rest
    have := (List.dropWhile_suffix (l := rest) Numeral.isDigit).length_le
    dsimp only
    split
    · exact Nat.le_refl _
    · simp only [List.length_cons]; omega
  · exact Nat.le_refl _

/-- What follows a sign is no longer than what the sign was read from. -/
theorem splitSign_length (cs : List Char) :
    (Numeral.splitSign cs).2.length ≤ cs.length := by
  unfold Numeral.splitSign
  split <;> simp

/-- An exponent leaves no more text than it was given. -/
theorem exponentPart_length (cs : List Char) :
    (exponentPart cs).2.length ≤ cs.length := by
  unfold exponentPart
  split
  · exact Nat.le_refl _
  · rename_i mark rest
    have := splitSign_length rest
    have :=
      (List.dropWhile_suffix (l :=
        (Numeral.splitSign rest).2) Numeral.isDigit).length_le
    simp only
    split
    · simp only [List.length_cons]; omega
    · exact Nat.le_refl _

/-- A number leaves less text than it was given, or none at all. -/
theorem number_shorter (negative : Bool) (cs : List Char) :
    (number negative cs).2.length < cs.length ∨ (number negative cs).2 = [] := by
  unfold number
  simp only
  split
  · exact Or.inr rfl
  · rename_i h
    have := wholePart_shorter (Bool.eq_false_iff.2 h)
    have := fractionPart_length (wholePart cs).2
    have := exponentPart_length (fractionPart (wholePart cs).2).2
    left
    simp only
    omega

/-- Every cut leaves less text than it was given. -/
theorem cut_shorter (c : Char) (rest : List Char) :
    (cut c rest).2.length < (c :: rest).length := by
  have drop (p : Char → Bool) :
      (rest.dropWhile p).length < (c :: rest).length :=
    Nat.lt_succ_of_le (List.dropWhile_suffix p).length_le
  unfold cut
  split
  · exact Nat.lt_succ_self _
  split
  · exact Nat.lt_succ_self _
  split
  · split
    · rename_i h
      exact Nat.lt_succ_of_lt (stringBody_shorter h)
    · exact Nat.succ_pos _
  split
  · exact drop _
  split
  · rcases number_shorter true rest with h | h
    · exact Nat.lt_succ_of_lt h
    · simp [h]
  · rcases number_shorter false (c :: rest) with h | h
    · exact h
    · simp [h]

/-- The tokens of a text, up to the first fault. -/
def tokens (cs : List Char) : List Token :=
  match cs with
  | [] => []
  | c :: rest =>
    match (cut c rest).1 with
    | none => tokens (cut c rest).2
    | some .junk => [.junk]
    | some token => token :: tokens (cut c rest).2
termination_by cs.length
decreasing_by all_goals exact cut_shorter c rest

end Json
end HostedModules

import Resumable.Text.Graphic

/-!
# Quoted text

A text is quoted by writing it between double quotes, with five characters and the backslash
written as a backslash and one more character, every other hidden character written as its code
point in lower-case hexadecimal between braces, and all else left alone.  The writing can be read
back: `decode` takes the quoted form apart character by character, and `decode_encode` says that it
finds the text again, whichever characters are left alone.
-/

namespace Resumable.Text.Quoted

/-! ## Hexadecimal digits -/

/-- The lower-case hexadecimal digit of a number below sixteen. -/
def hexDigit (d : Nat) : Char :=
  if d < 10 then Char.ofNat (48 + d) else Char.ofNat (87 + d)

/-- The number that a lower-case hexadecimal digit stands for. -/
def hexValue? (c : Char) : Option Nat :=
  if 48 ≤ c.toNat ∧ c.toNat ≤ 57 then some (c.toNat - 48)
  else if 97 ≤ c.toNat ∧ c.toNat ≤ 102 then some (c.toNat - 87)
  else none

/-- The hexadecimal digits of a number, most significant first and without leading zeros. -/
def hexDigits (n : Nat) : List Char :=
  if n < 16 then [hexDigit n] else hexDigits (n / 16) ++ [hexDigit (n % 16)]

theorem hexValue?_hexDigit : ∀ d, d < 16 → hexValue? (hexDigit d) = some d := by decide

theorem hexDigit_ne_brace : ∀ d, d < 16 → hexDigit d ≠ '\x7d' := by decide

/-! ## Writing -/

/-- The second character of a two-character escape. -/
def shortEscape? (c : Char) : Option Char :=
  if c = '\x00' then some '0'
  else if c = '\t' then some 't'
  else if c = '\n' then some 'n'
  else if c = '\r' then some 'r'
  else if c = '"' then some '"'
  else if c = '\\' then some '\\'
  else none

/-- One character of a text as it stands between the quotes, where `shown` tells which characters
without a short escape are left alone. -/
def escape (shown : Char → Bool) (c : Char) : List Char :=
  match shortEscape? c with
  | some s => ['\\', s]
  | none =>
    if shown c then [c]
    else '\\' :: 'u' :: '\x7b' :: (hexDigits c.toNat ++ ['\x7d'])

def encode (shown : Char → Bool) (text : List Char) : List Char :=
  '"' :: (text.flatMap (escape shown) ++ ['"'])

/-- A text between quotes, with hidden characters escaped. -/
def quote (text : String) : String :=
  String.ofList (encode isShown text.toList)

/-! ## Reading back -/

/-- Where a reader stands between two characters of a quoted text. -/
inductive Place where
  | between
  | escaped
  /-- After the letter that announces a code point. -/
  | announced
  /-- Inside the braces, with the number read so far. -/
  | digits (value : Nat)

/-- The character whose short escape ends in the given one. -/
def shortEscaped? (s : Char) : Option Char :=
  if s = '0' then some '\x00'
  else if s = 't' then some '\t'
  else if s = 'n' then some '\n'
  else if s = 'r' then some '\r'
  else if s = '"' then some '"'
  else if s = '\\' then some '\\'
  else none

/-- Reads on from a place up to the closing quote, which must be the last character. -/
def decodeFrom : Place → List Char → Option (List Char)
  | _, [] => none
  | .between, c :: rest =>
    if c = '"' then (if rest.isEmpty then some [] else none)
    else if c = '\\' then decodeFrom .escaped rest
    else (decodeFrom .between rest).map (c :: ·)
  | .escaped, c :: rest =>
    match shortEscaped? c with
    | some d => (decodeFrom .between rest).map (d :: ·)
    | none => if c = 'u' then decodeFrom .announced rest else none
  | .announced, c :: rest =>
    if c = '\x7b' then decodeFrom (.digits 0) rest else none
  | .digits n, c :: rest =>
    if c = '\x7d' then (decodeFrom .between rest).map (Char.ofNat n :: ·)
    else
      match hexValue? c with
      | some d => decodeFrom (.digits (16 * n + d)) rest
      | none => none

/-- The text inside a quoted form, if it is one. -/
def decode : List Char → Option (List Char)
  | '"' :: rest => decodeFrom .between rest
  | _ => none

/-- The digits of a number, read on from a value, give the value moved up by their places. -/
theorem decodeFrom_hexDigits (n : Nat) (rest : List Char) :
    ∃ place, ∀ m, decodeFrom (.digits m) (hexDigits n ++ rest)
      = decodeFrom (.digits (place * m + n)) rest := by
  induction n using Nat.strongRecOn generalizing rest with
  | ind n ih =>
    rw [hexDigits]
    split
    · next h =>
      refine ⟨16, fun m => ?_⟩
      simp [decodeFrom, hexDigit_ne_brace n h, hexValue?_hexDigit n h]
    · next h =>
      obtain ⟨place, hplace⟩ := ih (n / 16) (by omega) (hexDigit (n % 16) :: rest)
      have hd : n % 16 < 16 := Nat.mod_lt _ (by decide)
      refine ⟨place * 16, fun m => ?_⟩
      rw [List.append_assoc, List.singleton_append, hplace]
      simp only [decodeFrom, hexDigit_ne_brace _ hd, hexValue?_hexDigit _ hd, if_false]
      congr 2
      have : 16 * (place * m + n / 16) = place * 16 * m + 16 * (n / 16) := by
        rw [Nat.mul_add, ← Nat.mul_assoc, Nat.mul_comm 16 place]
      omega

theorem shortEscaped?_of_shortEscape? {c s : Char} (h : shortEscape? c = some s) :
    shortEscaped? s = some c := by
  unfold shortEscape? at h
  repeat' split at h
  all_goals simp_all
  all_goals subst h; decide

/-- One escaped character is read back, whatever follows. -/
theorem decodeFrom_escape (shown : Char → Bool) (c : Char) (rest : List Char) :
    decodeFrom .between (escape shown c ++ rest)
      = (decodeFrom .between rest).map (c :: ·) := by
  unfold escape
  split
  · next s hs =>
    simp [decodeFrom, shortEscaped?_of_shortEscape? hs]
  · next hs =>
    have hq : c ≠ '"' := by rintro rfl; simp [shortEscape?] at hs
    have hb : c ≠ '\\' := by rintro rfl; simp [shortEscape?] at hs
    split
    · simp [decodeFrom, hq, hb]
    · obtain ⟨place, hplace⟩ := decodeFrom_hexDigits c.toNat ('\x7d' :: rest)
      have hu : shortEscaped? 'u' = none := by decide
      simp [decodeFrom, hu, hplace]

/-- **Quoting can be undone**, whichever characters are left alone. -/
theorem decode_encode (shown : Char → Bool) (text : List Char) :
    decode (encode shown text) = some text := by
  have h : decodeFrom .between (text.flatMap (escape shown) ++ ['"']) = some text := by
    induction text with
    | nil => simp [decodeFrom]
    | cons c text ih => simp [List.flatMap_cons, List.append_assoc, decodeFrom_escape, ih]
  simpa [decode, encode] using h

end Resumable.Text.Quoted

import Mathlib.Data.List.Forall2
import Resumable.Lifecycle

/-!
# What the refusal of a mode tells

A text is read as a mode if it is the mode's name.  Any other text is refused, and the message says
which text it was, because it quotes it.  What stands in quoted text for one character is given once
more as a relation (`Text.Quoted.Form`), which lists the short forms and takes the hexadecimal
digits from the library; quoted text is put together from such forms and from nothing else
(`Text.Quoted.written_iff`), and it can be read back (`Text.Quoted.unquote_quote`).  Hence
`refusal_tells_text`: the message of a refusal holds the text in this form, the text is read off it,
and refusals of different texts have different messages.
-/

namespace Resumable

namespace Text.Quoted

/-! ## What stands for a character -/

/-- The characters that are written as a backslash and one more character. -/
def shortForms : List (Char × Char) :=
  [('\x00', '0'), ('\t', 't'), ('\n', 'n'), ('\r', 'r'), ('"', '"'), ('\\', '\\')]

/-- What stands in quoted text for a character. -/
inductive Form (c : Char) : List Char → Prop where
  | short {s : Char} (listed : (c, s) ∈ shortForms) : Form c ['\\', s]
  | itself (unlisted : ∀ s, (c, s) ∉ shortForms) (shown : isShown c = true) : Form c [c]
  /-- A hidden character is written as its code point, without leading zeros. -/
  | codePoint (unlisted : ∀ s, (c, s) ∉ shortForms) (hidden : isShown c = false) :
      Form c ('\\' :: 'u' :: '\x7b' :: (Nat.toDigits 16 c.toNat ++ ['\x7d']))

theorem shortEscape?_eq_some_iff {c s : Char} :
    shortEscape? c = some s ↔ (c, s) ∈ shortForms := by
  constructor
  · intro h
    unfold shortEscape? at h
    repeat' split at h
    all_goals cases h <;> simp [shortForms, *]
  · intro h
    simp only [shortForms, List.mem_cons, Prod.mk.injEq, List.not_mem_nil, or_false] at h
    rcases h with ⟨rfl, rfl⟩ | ⟨rfl, rfl⟩ | ⟨rfl, rfl⟩ | ⟨rfl, rfl⟩ | ⟨rfl, rfl⟩ | ⟨rfl, rfl⟩
    all_goals rfl

theorem shortEscape?_eq_none_iff {c : Char} :
    shortEscape? c = none ↔ ∀ s, (c, s) ∉ shortForms := by
  simp only [Option.eq_none_iff_forall_ne_some, ne_eq, shortEscape?_eq_some_iff]

theorem hexDigit_eq_digitChar : ∀ d, d < 16 → hexDigit d = Nat.digitChar d := by decide

theorem hexDigits_eq_toDigits (n : Nat) : hexDigits n = Nat.toDigits 16 n := by
  induction n using Nat.strongRecOn with
  | ind n ih =>
    rw [hexDigits, Nat.toDigits_eq_if (by decide)]
    split
    · next small => rw [hexDigit_eq_digitChar n small]
    · next large =>
      rw [ih (n / 16) (by omega), hexDigit_eq_digitChar _ (Nat.mod_lt n (by decide))]

/-- Every character has one form. -/
theorem form_iff {c : Char} {w : List Char} : Form c w ↔ w = escape isShown c := by
  constructor
  · rintro (listed | ⟨unlisted, shown⟩ | ⟨unlisted, hidden⟩)
    · simp [escape, shortEscape?_eq_some_iff.mpr listed]
    · simp [escape, shortEscape?_eq_none_iff.mpr unlisted, shown]
    · simp [escape, shortEscape?_eq_none_iff.mpr unlisted, hidden, hexDigits_eq_toDigits]
  · rintro rfl
    unfold escape
    split
    · next s listed => exact .short (shortEscape?_eq_some_iff.mp listed)
    · next unlisted =>
      have unlisted := shortEscape?_eq_none_iff.mp unlisted
      split
      · next shown => exact .itself unlisted shown
      · next hidden =>
        rw [hexDigits_eq_toDigits]
        exact .codePoint unlisted (by simpa using hidden)

/-! ## Quoted text -/

/-- Between quotes, one after the other, stand the forms of the characters of a text. -/
def Written (text quoted : String) : Prop :=
  ∃ forms : List (List Char), List.Forall₂ Form text.toList forms ∧
    quoted.toList = '"' :: (forms.flatten ++ ['"'])

theorem forms_iff {text : List Char} {forms : List (List Char)} :
    List.Forall₂ Form text forms ↔ forms = text.map (escape isShown) := by
  have form_eq : Form = fun c w => escape isShown c = w := by
    funext c w
    exact propext (form_iff.trans eq_comm)
  rw [form_eq, ← List.forall₂_map_left_iff (R := Eq), List.forall₂_eq_eq_eq, eq_comm]

/-- **A text has one quoted form**, the one that quoting gives it. -/
theorem written_iff {text quoted : String} : Written text quoted ↔ quoted = quote text := by
  have quoted_eq : (quote text).toList =
      '"' :: ((text.toList.map (escape isShown)).flatten ++ ['"']) := by
    rw [quote, String.toList_ofList, encode, List.flatMap_def]
  simp only [Written, forms_iff, exists_eq_left, ← quoted_eq, String.toList_inj]

/-- The text inside a quoted form, if it is one. -/
def unquote (quoted : String) : Option String :=
  (decode quoted.toList).map String.ofList

theorem unquote_quote (text : String) : unquote (quote text) = some text := by
  simp [unquote, quote, decode_encode]

end Text.Quoted

/-! ## Refusals -/

namespace UnknownMode

/-- What the message of a refusal begins with. -/
def opening : String := "invalid resume kind: "

/-- The text that a message of a refusal is about, if it is one. -/
def told? (message : String) : Option String :=
  (opening.toList.isPrefixOf? message.toList).bind fun quoted =>
    Text.Quoted.unquote (String.ofList quoted)

/-- **A message tells which text was refused.** -/
theorem told?_message (e : UnknownMode) : told? e.message = some e.text := by
  have opened : opening.toList.isPrefixOf? e.message.toList =
      some (Text.Quoted.quote e.text).toList := by
    rw [List.isPrefixOf?_eq_some_iff_append_eq, ← String.toList_append]
    rfl
  simp only [told?, opened, Option.bind_some, String.ofList_toList, Text.Quoted.unquote_quote]

theorem text_eq_of_message_eq {d e : UnknownMode} (same : d.message = e.message) :
    d.text = e.text := by
  have told : some d.text = some e.text := by
    rw [← d.told?_message, same, e.told?_message]
  exact Option.some.inj told

end UnknownMode

theorem Mode.text_of_parse {s : String} {e : UnknownMode} (h : Mode.parse s = .error e) :
    e.text = s := by
  unfold Mode.parse at h
  split at h
  · cases h
  · cases h
    rfl

theorem Mode.exists_refusal {s : String} (unnamed : ∀ m : Mode, s ≠ m.name) :
    ∃ e, Mode.parse s = .error e := by
  cases h : Mode.parse s with
  | ok m => exact absurd (Mode.parse_eq_ok_iff.mp h) (unnamed m)
  | error e => exact ⟨e, rfl⟩

/-- **A text is read as the mode whose name it is, and the refusal of any other text tells the
text.**  After the fixed words, the message holds the text in quoted form; reading the message back
gives the text, whatever characters it has; and no other text is refused with the same message. -/
theorem refusal_tells_text (s : String) :
    (∀ m : Mode, Mode.parse s = .ok m ↔ s = m.name) ∧
    ((∀ m : Mode, s ≠ m.name) → ∃ e, Mode.parse s = .error e ∧
      (∃ quoted, Text.Quoted.Written s quoted ∧ e.message = "invalid resume kind: " ++ quoted) ∧
      UnknownMode.told? e.message = some s ∧
      ∀ (t : String) (d : UnknownMode), Mode.parse t = .error d →
        d.message = e.message → t = s) := by
  refine ⟨fun m => Mode.parse_eq_ok_iff, fun unnamed => ?_⟩
  obtain ⟨e, refused⟩ := Mode.exists_refusal unnamed
  obtain rfl := Mode.text_of_parse refused
  refine ⟨e, refused, ⟨_, Text.Quoted.written_iff.mpr rfl, rfl⟩, e.told?_message, ?_⟩
  intro t d refused' same
  rw [← Mode.text_of_parse refused']
  exact UnknownMode.text_eq_of_message_eq same

/-- A text that looks like an escape and then has the character that is escaped that way. -/
theorem refusal_tells_text_lookalike :
    let s := "next\\u\x7b301\x7d\u0301"
    (∀ m : Mode, s ≠ m.name) ∧
    ∃ e, Mode.parse s = .error e ∧
      e.message = "invalid resume kind: \"next\\\\u\x7b301\x7d\\u\x7b301\x7d\"" ∧
      UnknownMode.told? e.message = some s ∧
      ∀ (t : String) (d : UnknownMode), Mode.parse t = .error d →
        d.message = e.message → t = s := by
  intro s
  have unnamed : ∀ m : Mode, s ≠ m.name := by
    intro m
    cases m <;> decide
  have quoted_eq : Text.Quoted.quote s = "\"next\\\\u\x7b301\x7d\\u\x7b301\x7d\"" := by
    decide +kernel
  obtain ⟨e, refused, ⟨quoted, written, message⟩, told, unique⟩ :=
    (refusal_tells_text s).2 unnamed
  rw [Text.Quoted.written_iff.mp written, quoted_eq] at message
  exact ⟨unnamed, e, refused, message, told, unique⟩

end Resumable

import SshKnock.Core.Text
import SshKnock.Core.TextFields

/-!
# Printing what comes from outside

Bytes become text by replacing what is no UTF-8, and text is quoted with its
control characters escaped.  Texts of characters from the blank on, written one
line each, are read back as they were written.
-/

namespace SshKnock.Text

/-! ## Decoding -/

/-- What stands for bytes that are no UTF-8. -/
def replacementCharacter : Char := Char.ofNat 0xFFFD

/-- How many bytes a character has that starts with this byte; none does when
there are zero. -/
def utf8CharWidth (byte : UInt8) : ℕ :=
  if byte < 0x80 then 1
  else if byte < 0xC2 then 0
  else if byte < 0xE0 then 2
  else if byte < 0xF0 then 3
  else if byte < 0xF5 then 4
  else 0

def isContinuation (byte : UInt8) : Bool :=
  0x80 ≤ byte && byte < 0xC0

/-- The second byte must not make the character overlong, a surrogate or too
large. -/
def isSecondByte (first second : UInt8) : Bool :=
  isContinuation second &&
    (first ≠ 0xE0 || 0xA0 ≤ second) && (first ≠ 0xED || second < 0xA0) &&
    (first ≠ 0xF0 || 0x90 ≤ second) && (first ≠ 0xF4 || second < 0x90)

/-- Append the six bits of a continuation byte. -/
def continued (code : ℕ) (byte : UInt8) : ℕ :=
  code * 64 + byte.toNat % 64

/-- The character at the front of some bytes, and how many bytes after the first
belong to it; the replacement character stands for the longest part of one. -/
def decodeChar (first : UInt8) (rest : List UInt8) : Char × ℕ :=
  let second := rest.getD 0 0
  let third := rest.getD 1 0
  let fourth := rest.getD 2 0
  match utf8CharWidth first with
  | 1 => (Char.ofNat first.toNat, 0)
  | 2 =>
      if !isContinuation second then (replacementCharacter, 0)
      else (Char.ofNat (continued (first.toNat % 32) second), 1)
  | 3 =>
      if !isSecondByte first second then (replacementCharacter, 0)
      else if !isContinuation third then (replacementCharacter, 1)
      else
        (Char.ofNat (continued (continued (first.toNat % 16) second) third), 2)
  | 4 =>
      if !isSecondByte first second then (replacementCharacter, 0)
      else if !isContinuation third then (replacementCharacter, 1)
      else if !isContinuation fourth then (replacementCharacter, 2)
      else
        (Char.ofNat (continued (continued (continued (first.toNat % 8) second)
          third) fourth), 3)
  | _ => (replacementCharacter, 0)

/-- Decode after skipping the bytes of the character before. -/
def decodeFrom : ℕ → List UInt8 → List Char
  | _, [] => []
  | skipped + 1, _ :: rest => decodeFrom skipped rest
  | 0, first :: rest =>
      (decodeChar first rest).1 :: decodeFrom (decodeChar first rest).2 rest

def fromUtf8Lossy (bytes : List UInt8) : List Char :=
  decodeFrom 0 bytes

-- A euro sign, a truncated one and a byte that starts no character.
example : fromUtf8Lossy [0x61, 0xE2, 0x82, 0xAC, 0xE2, 0x82, 0x62, 0xFF] =
    ['a', '€', replacementCharacter, 'b', replacementCharacter] := by
  decide

/-! ## Quoting -/

/-- What the Unicode tables say of characters beyond ASCII. -/
structure CharTables where
  graphemeExtend : Char → Bool
  printable : Char → Bool

namespace CharTables

variable (tables : CharTables)

def isGraphemeExtended (char : Char) : Bool :=
  0x02FF < char.toNat && tables.graphemeExtend char

def isPrintable (char : Char) : Bool :=
  if char.toNat < 32 then false
  else if char.toNat < 127 then true
  else tables.printable char

def escapeUnicode (char : Char) : List Char :=
  ['\\', 'u', '\x7b'] ++ Nat.toDigits 16 char.toNat ++ ['\x7d']

def escapeDebug (char : Char) : List Char :=
  if char = '\x00' then ['\\', '0']
  else if char = '\t' then ['\\', 't']
  else if char = '\r' then ['\\', 'r']
  else if char = '\n' then ['\\', 'n']
  else if char = '\\' then ['\\', '\\']
  else if char = '"' then ['\\', '"']
  else if tables.isGraphemeExtended char then escapeUnicode char
  else if tables.isPrintable char then [char]
  else escapeUnicode char

/-- The text as it is printed for debugging. -/
def debug (text : List Char) : List Char :=
  '"' :: text.flatMap tables.escapeDebug ++ ['"']

def debugList (texts : List (List Char)) : List Char :=
  '[' :: [',', ' '].intercalate (texts.map tables.debug) ++ [']']

end CharTables

/-! ## Plain text -/

/-- All characters of the text lie beyond a code point. -/
def Above (code : ℕ) (text : List Char) : Prop :=
  ∀ char ∈ text, code < char.toNat

instance (code : ℕ) (text : List Char) : Decidable (Above code text) :=
  List.decidableBAll (fun char : Char => code < char.toNat) text

/-- No line breaks, tabs or other characters below the blank. -/
abbrev Plain (text : List Char) : Prop :=
  Above 31 text

/-- No blanks either. -/
abbrev Word (text : List Char) : Prop :=
  Above 32 text

section

variable {code : ℕ}

theorem above_append {front back : List Char} :
    Above code (front ++ back) ↔ Above code front ∧ Above code back :=
  List.forall_mem_append

theorem above_cons {char : Char} {text : List Char} :
    Above code (char :: text) ↔ code < char.toNat ∧ Above code text :=
  List.forall_mem_cons

theorem Above.of_le {larger : ℕ} {text : List Char} (habove : Above larger text)
    (hle : code ≤ larger) : Above code text :=
  fun char hchar => hle.trans_lt (habove char hchar)

theorem Above.notMem {text : List Char} (habove : Above code text)
    {char : Char} (hchar : char.toNat ≤ code) : char ∉ text :=
  fun hmem => absurd (habove char hmem) (by omega)

theorem Above.concat {front back : String} (hfront : Above code front.toList)
    (hback : Above code back.toList) : Above code (front ++ back).toList := by
  rw [String.toList_append]
  exact above_append.mpr ⟨hfront, hback⟩

theorem above_intercalate {separator : List Char} {texts : List (List Char)}
    (hseparator : Above code separator)
    (htexts : ∀ text ∈ texts, Above code text) :
    Above code (separator.intercalate texts) := by
  induction texts with
  | nil => simp [Above]
  | cons text texts ih =>
      obtain ⟨htext, htexts⟩ := List.forall_mem_cons.mp htexts
      cases texts with
      | nil => rwa [List.intercalate_singleton]
      | cons next texts =>
          rw [List.intercalate_cons_of_ne_nil (by simp), above_append,
            above_append]
          exact ⟨⟨htext, hseparator⟩, ih htexts⟩

end

theorem word_toDigits {base number : ℕ} (hbase : 1 < base)
    (hsmall : base ≤ 16) : Word (Nat.toDigits base number) := by
  have hdigits : ∀ digit : Fin 16, 32 < (Nat.digitChar digit).toNat := by
    decide
  intro char hchar
  obtain ⟨digit, hdigit, rfl⟩ :=
    TextFields.exists_digit_of_mem_toDigits hbase hchar
  exact hdigits ⟨digit, hdigit.trans_le hsmall⟩

theorem Word.plain {text : List Char} (hword : Word text) : Plain text :=
  hword.of_le (by decide)

theorem word_toString (number : ℕ) : Word (toString number).toList := by
  rw [Nat.toString_eq_ofList_toDigits, String.toList_ofList]
  exact word_toDigits (by decide) (by decide)

namespace CharTables

variable (tables : CharTables)

theorem plain_escapeUnicode (char : Char) : Plain (escapeUnicode char) :=
  have hdigits : Plain (Nat.toDigits 16 char.toNat) :=
    (word_toDigits (by decide) (by decide)).plain
  above_append.mpr ⟨above_append.mpr ⟨by decide, hdigits⟩, by decide⟩

theorem plain_escapeDebug (char : Char) : Plain (tables.escapeDebug char) := by
  rw [escapeDebug]
  split_ifs with _ _ _ _ _ _ _ hprintable
  iterate 6 decide
  · exact plain_escapeUnicode char
  · rw [isPrintable] at hprintable
    split at hprintable
    · cases hprintable
    · next hcontrol => exact List.forall_mem_singleton.mpr (by omega)
  · exact plain_escapeUnicode char

/-- Whatever a text holds, no character below the blank is printed. -/
theorem plain_debug (text : List Char) : Plain (tables.debug text) := by
  have hescaped : Plain (text.flatMap tables.escapeDebug) := by
    intro char hchar
    obtain ⟨escaped, -, hchar⟩ := List.mem_flatMap.mp hchar
    exact tables.plain_escapeDebug escaped char hchar
  exact above_append.mpr ⟨above_cons.mpr ⟨by decide, hescaped⟩, by decide⟩

theorem plain_debugList (texts : List (List Char)) :
    Plain (tables.debugList texts) := by
  have hquoted : ∀ text ∈ texts.map tables.debug, Plain text := by
    intro text htext
    obtain ⟨text, -, rfl⟩ := List.mem_map.mp htext
    exact tables.plain_debug text
  have hjoined := above_intercalate (show Plain [',', ' '] by decide) hquoted
  exact above_append.mpr ⟨above_cons.mpr ⟨by decide, hjoined⟩, by decide⟩

end CharTables

/-! ## Lines and fields -/

/-- Each text on a line of its own. -/
def unlines (texts : List (List Char)) : List Char :=
  texts.flatMap fun text => text ++ ['\n']

/-- Plain texts written one line each are read back. -/
theorem lines_unlines {texts : List (List Char)}
    (hplain : ∀ text ∈ texts, Plain text) : lines (unlines texts) = texts := by
  induction texts with
  | nil => rfl
  | cons text texts ih =>
      obtain ⟨htext, htexts⟩ := List.forall_mem_cons.mp hplain
      have hfeed : unlines (text :: texts) = text ++ '\n' :: unlines texts := by
        simp [unlines]
      rw [hfeed, lines_append _ (htext.notMem (by decide))
        (htext.notMem (by decide)), ih htexts]

/-- The word after a key, and what follows it after a blank. -/
def readField (key text : List Char) : Option (List Char × List Char) := do
  let rest ← text.dropPrefix? key
  some (rest.takeWhile (· ≠ ' '), (rest.dropWhile (· ≠ ' ')).drop 1)

theorem readField_append (key : List Char) {word : List Char}
    (hword : Word word) (rest : List Char) :
    readField key (key ++ (word ++ ' ' :: rest)) = some (word, rest) := by
  have hpass : ∀ char ∈ word, decide (char ≠ ' ') = true :=
    fun char hchar => decide_eq_true fun hblank =>
      hword.notMem (by decide) (hblank ▸ hchar)
  rw [readField, List.dropPrefix?_append_of_beq _ (beq_self_eq_true key),
    Option.bind_eq_bind, Option.bind_some, List.takeWhile_append_of_pos hpass,
    List.dropWhile_append_of_pos hpass]
  simp

end SshKnock.Text

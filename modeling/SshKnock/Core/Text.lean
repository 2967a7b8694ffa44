import Mathlib.Algebra.GroupWithZero.Nat
import Mathlib.Data.List.Infix

/-!
# Reading text

Lines, words and trimming as the standard string library defines them, on
lists of characters.  A line ends with a line feed that a carriage return may
precede; words are separated by characters with the Unicode property
`White_Space`.
-/

namespace SshKnock.Text

/-- The characters with the property `White_Space`. -/
def isWhitespace (char : Char) : Bool :=
  let code := char.toNat
  (9 ≤ code && code ≤ 13) || code = 0x20 || code = 0x85 || code = 0xA0 ||
    code = 0x1680 || (0x2000 ≤ code && code ≤ 0x200A) || code = 0x2028 ||
    code = 0x2029 || code = 0x202F || code = 0x205F || code = 0x3000

def isAsciiHexdigit (char : Char) : Bool :=
  let code := char.toNat
  (48 ≤ code && code ≤ 57) || (65 ≤ code && code ≤ 70) ||
    (97 ≤ code && code ≤ 102)

/-- The number of bytes of the text in UTF-8. -/
def byteLength (text : List Char) : ℕ :=
  (text.map Char.utf8Size).sum

def stripCarriageReturn (line : List Char) : List Char :=
  if line.getLast? = some '\r' then line.dropLast else line

/-- The lines of a text; a last line without a line feed is kept as it is
unless it is empty. -/
def lines (text : List Char) : List (List Char) :=
  let pieces := text.splitOnP (· = '\n')
  pieces.dropLast.map stripCarriageReturn ++
    pieces.getLast?.toList.filter (!·.isEmpty)

def trim (text : List Char) : List Char :=
  ((text.dropWhile isWhitespace).reverse.dropWhile isWhitespace).reverse

def splitWhitespace (text : List Char) : List (List Char) :=
  (text.splitOnP isWhitespace).filter (!·.isEmpty)

/-- Remove one occurrence of `first` from the front, if there is one. -/
def stripPrefix (first : Char) : List Char → List Char
  | [] => []
  | char :: rest => if char = first then rest else char :: rest

theorem isWhitespace_of_isAsciiHexdigit {char : Char}
    (hdigit : isAsciiHexdigit char = true) : isWhitespace char = false := by
  simp only [isAsciiHexdigit, isWhitespace, Bool.or_eq_true, Bool.and_eq_true,
    decide_eq_true_eq, Bool.or_eq_false_iff, Bool.and_eq_false_iff,
    decide_eq_false_iff_not] at hdigit ⊢
  omega

theorem noWhitespace_of_all {text : List Char}
    (hall : text.all (!isWhitespace ·) = true) :
    ∀ char ∈ text, isWhitespace char = false :=
  fun char hchar => by simpa using List.all_eq_true.mp hall char hchar

theorem stripCarriageReturn_of_notMem {line : List Char} (hline : '\r' ∉ line) :
    stripCarriageReturn line = line := by
  rw [stripCarriageReturn]
  split
  · next hlast => exact absurd (List.mem_of_getLast? hlast) hline
  · rfl

@[simp]
theorem lines_nil : lines [] = [] := rfl

/-- The first line of a text is what comes before its first line feed. -/
theorem lines_append {line : List Char} (rest : List Char)
    (hfeed : '\n' ∉ line) (hreturn : '\r' ∉ line) :
    lines (line ++ '\n' :: rest) = line :: lines rest := by
  have hpiece : line.splitOnP (· = '\n') = [line] := by
    apply List.splitOnP_eq_singleton
    intro char hchar
    exact decide_eq_false fun hsame => hfeed (hsame ▸ hchar)
  have hne := List.splitOnP_ne_nil (· = '\n') rest
  simp only [lines]
  rw [List.splitOnP_append_cons _ _ (by rfl), hpiece]
  simp only [List.singleton_append]
  rw [List.dropLast_cons_of_ne_nil hne, List.getLast?_cons_of_ne_nil hne,
    List.map_cons, stripCarriageReturn_of_notMem hreturn, List.cons_append]

/-- A text that starts and ends with other characters has nothing to trim. -/
theorem trim_eq_self {text : List Char}
    (hhead : ∀ char ∈ text.head?, isWhitespace char = false)
    (hlast : ∀ char ∈ text.getLast?, isWhitespace char = false) :
    trim text = text := by
  have hdrop : ∀ text : List Char,
      (∀ char ∈ text.head?, isWhitespace char = false) →
      text.dropWhile isWhitespace = text := by
    intro text hhead
    cases text with
    | nil => rfl
    | cons char rest =>
        exact List.dropWhile_cons_of_neg (by simp [hhead char rfl])
  rw [trim]
  rw [hdrop text hhead, hdrop text.reverse, List.reverse_reverse]
  simpa using hlast

/-- Two words with two blanks between them. -/
theorem splitWhitespace_pair {first second : List Char}
    (hfirst : ∀ char ∈ first, isWhitespace char = false) (hfirstNe : first ≠ [])
    (hsecond : ∀ char ∈ second, isWhitespace char = false)
    (hsecondNe : second ≠ []) :
    splitWhitespace (first ++ ' ' :: ' ' :: second) = [first, second] := by
  rw [splitWhitespace]
  rw [List.splitOnP_append_cons _ _ (by rfl),
    List.splitOnP_eq_singleton hfirst,
    List.splitOnP_cons_eq_if_modifyHead,
    if_pos (by rfl), List.splitOnP_eq_singleton hsecond]
  simp [hfirstNe, hsecondNe]

/-! ## Finding a text in another -/

/-- A pattern that does not contain the separator lies on one side of it. -/
theorem infix_append_cons_iff {separator : Char}
    {pattern front back : List Char} (hpattern : separator ∉ pattern) :
    pattern <:+: front ++ separator :: back ↔
      pattern <:+: front ∨ pattern <:+: back := by
  constructor
  · rintro ⟨before, after, htext⟩
    rcases List.append_eq_append_iff.mp htext with
      ⟨rest, hfront, _⟩ | ⟨rest, hbefore, hback⟩
    · exact Or.inl ⟨before, rest, hfront.symm⟩
    cases rest with
    | nil =>
        rw [List.append_nil] at hbefore
        exact Or.inl ⟨before, [], by rw [List.append_nil, hbefore]⟩
    | cons first rest =>
        obtain ⟨rfl, rfl⟩ := List.cons.inj hback
        rw [List.append_cons] at hbefore
        rcases List.append_eq_append_iff.mp hbefore with
          ⟨part, hfront, hrest⟩ | ⟨part, _, hrest⟩
        · rcases List.eq_nil_or_concat part with rfl | ⟨part, last, rfl⟩
          · rw [List.nil_append] at hrest
            exact Or.inr (hrest ▸ List.infix_append_left)
          · rw [List.concat_eq_append, ← List.append_assoc] at hfront
            obtain ⟨_, hlast⟩ := List.append_inj' hfront rfl
            exact absurd (hrest ▸ by simp [← hlast]) hpattern
        · exact Or.inr ⟨part, after, by rw [hrest]; rfl⟩
  · rintro (hfront | hback)
    · exact hfront.trans List.infix_append_left
    · exact hback.trans ⟨front ++ [separator], [], by simp⟩

/-- A pattern around a separator begins before the first separator of a text
and is split by it, or lies behind it. -/
theorem infix_around_iff {separator : Char} {key start front back : List Char}
    (hkey : separator ∉ key) (hfront : separator ∉ front) :
    key ++ separator :: start <:+: front ++ separator :: back ↔
      key <:+ front ∧ start <+: back ∨
        key ++ separator :: start <:+: back := by
  constructor
  · rintro ⟨before, after, htext⟩
    have hsplit : (before ++ key) ++ separator :: (start ++ after) =
        front ++ separator :: back := by
      rw [← htext]
      simp
    have htogether : before ++ key = front → start ++ after = back →
        key <:+ front ∧ start <+: back := fun hbefore hafter =>
      ⟨⟨before, hbefore⟩, ⟨after, hafter⟩⟩
    rcases List.append_eq_append_iff.mp hsplit with
      ⟨rest, hrest, hback⟩ | ⟨rest, hrest, hback⟩
    · cases rest with
      | nil =>
          rw [List.append_nil] at hrest
          exact Or.inl (htogether hrest.symm (List.cons.inj hback).2)
      | cons first rest =>
          obtain ⟨rfl, -⟩ := List.cons.inj hback
          exact absurd (by rw [hrest]; simp) hfront
    cases rest with
    | nil =>
        rw [List.append_nil] at hrest
        exact Or.inl (htogether hrest (List.cons.inj hback).2.symm)
    | cons first rest =>
        obtain ⟨rfl, rfl⟩ := List.cons.inj hback
        rcases List.append_eq_append_iff.mp hrest with
          ⟨part, _, hpart⟩ | ⟨part, _, hpart⟩
        · exact absurd (by rw [hpart]; simp) hkey
        cases part with
        | nil => exact absurd (by rw [← List.nil_append key, ← hpart]; simp) hkey
        | cons char part =>
            obtain ⟨-, rfl⟩ := List.cons.inj hpart
            exact Or.inr ⟨part, after, by simp⟩
  · rintro (⟨⟨before, rfl⟩, ⟨after, rfl⟩⟩ | hback)
    · exact ⟨before, after, by simp⟩
    · exact hback.trans ⟨front ++ [separator], [], by simp⟩

/-- A pattern without the separator lies in one of the joined fields. -/
theorem infix_intercalate_iff {separator : Char} {pattern : List Char}
    (hne : pattern ≠ []) (hpattern : separator ∉ pattern)
    (fields : List (List Char)) :
    pattern <:+: [separator].intercalate fields ↔
      ∃ field ∈ fields, pattern <:+: field := by
  induction fields with
  | nil => simp [List.intercalate, hne]
  | cons field fields ih =>
      cases fields with
      | nil => simp
      | cons next fields =>
          rw [List.intercalate_cons_of_ne_nil (by simp), List.append_assoc,
            List.singleton_append, infix_append_cons_iff hpattern, ih,
            List.exists_mem_cons_iff _ field]

section

variable {pattern : List Char} (hne : pattern ≠ [])
include hne

theorem infix_stripCarriageReturn_iff (hpattern : '\r' ∉ pattern)
    (line : List Char) :
    pattern <:+: stripCarriageReturn line ↔ pattern <:+: line := by
  rw [stripCarriageReturn]
  split
  · next hlast =>
      have hline : line = line.dropLast ++ '\r' :: [] :=
        (List.dropLast_append_getLast? '\r' hlast).symm
      conv_rhs => rw [hline, infix_append_cons_iff hpattern]
      simp [hne]
  · rfl

/-- A pattern without line breaks lies in one of the lines. -/
theorem infix_lines_iff (hfeed : '\n' ∉ pattern) (hreturn : '\r' ∉ pattern)
    (text : List Char) :
    (∃ line ∈ lines text, pattern <:+: line) ↔ pattern <:+: text := by
  have hpieces : pattern <:+: text ↔
      ∃ piece ∈ text.splitOnP (· = '\n'), pattern <:+: piece := by
    rw [← infix_intercalate_iff hne hfeed]
    have hpieces : text.splitOnP (· = '\n') = text.splitOn '\n' := by
      rw [List.splitOn_eq_splitOnP]
      rfl
    rw [hpieces, List.intercalate_splitOn]
  obtain ⟨front, last, hsplit⟩ := (List.eq_nil_or_concat'
    (text.splitOnP (· = '\n'))).resolve_left (List.splitOnP_ne_nil _ _)
  rw [hpieces]
  simp only [lines, hsplit, List.dropLast_concat, List.getLast?_concat,
    Option.toList_some, List.mem_append, List.mem_map, List.mem_filter,
    List.mem_singleton, or_and_right, exists_or, exists_exists_and_eq_and,
    infix_stripCarriageReturn_iff hne hreturn, exists_eq_left]
  apply or_congr_right
  constructor
  · rintro ⟨_, ⟨rfl, -⟩, hlast⟩
    exact hlast
  · intro hlast
    refine ⟨last, ⟨rfl, ?_⟩, hlast⟩
    rw [Bool.not_eq_true', List.isEmpty_eq_false_iff]
    exact fun hnil => hne (List.infix_nil.mp (hnil ▸ hlast))

variable (hpattern : ∀ char ∈ pattern, isWhitespace char = false)
include hpattern

theorem infix_dropWhile_iff (text : List Char) :
    pattern <:+: text.dropWhile isWhitespace ↔ pattern <:+: text := by
  induction text with
  | nil => rfl
  | cons char text ih =>
      cases hchar : isWhitespace char with
      | false => rw [List.dropWhile_cons_of_neg (by simp [hchar])]
      | true =>
          have hnotMem : char ∉ pattern := fun hmem => by
            rw [hpattern char hmem] at hchar
            cases hchar
          rw [List.dropWhile_cons_of_pos hchar, ih, ← List.nil_append (char :: text),
            infix_append_cons_iff hnotMem]
          simp [hne]

/-- A pattern without blanks survives trimming. -/
theorem infix_trim_iff (text : List Char) :
    pattern <:+: trim text ↔ pattern <:+: text := by
  have hreverse : ∀ text : List Char,
      pattern <:+: (text.reverse.dropWhile isWhitespace).reverse ↔
        pattern <:+: text := by
    intro text
    rw [← List.reverse_infix, List.reverse_reverse,
      infix_dropWhile_iff (by simpa using hne) (by simpa using hpattern),
      List.reverse_infix]
  rw [trim, hreverse, infix_dropWhile_iff hne hpattern]

end

/-! ## Fields -/

/-- The pieces of a text hold what is not a separator. -/
theorem exists_mem_splitOnP_iff (separates : Char → Bool) (text : List Char)
    (char : Char) :
    (∃ piece ∈ text.splitOnP separates, char ∈ piece) ↔
      char ∈ text ∧ separates char = false := by
  induction text with
  | nil => simp
  | cons first text ih =>
      rw [List.splitOnP_cons_eq_if_modifyHead]
      cases hfirst : separates first with
      | true =>
          rw [if_pos rfl, List.exists_mem_cons_iff, ih, List.mem_cons]
          constructor
          · rintro (hnil | hrest)
            · cases hnil
            · exact ⟨Or.inr hrest.1, hrest.2⟩
          · rintro ⟨rfl | hrest, hpart⟩
            · rw [hfirst] at hpart
              cases hpart
            · exact Or.inr ⟨hrest, hpart⟩
      | false =>
          rw [if_neg Bool.false_ne_true]
          obtain ⟨piece, pieces, hpieces⟩ :=
            List.exists_cons_of_ne_nil (List.splitOnP_ne_nil separates text)
          rw [hpieces, List.exists_mem_cons_iff] at ih
          rw [hpieces, List.modifyHead_cons, List.exists_mem_cons_iff,
            List.mem_cons, List.mem_cons, or_assoc, ih, or_and_right]
          apply or_congr_left
          constructor
          · rintro rfl
            exact ⟨rfl, hfirst⟩
          · exact And.left

/-- A text without fields is blank. -/
theorem splitWhitespace_eq_nil_iff (text : List Char) :
    splitWhitespace text = [] ↔ ∀ char ∈ text, isWhitespace char = true := by
  have hpieces : splitWhitespace text = [] ↔
      ¬∃ char, ∃ piece ∈ text.splitOnP isWhitespace, char ∈ piece := by
    rw [splitWhitespace, List.filter_eq_nil_iff]
    constructor
    · rintro hblank ⟨char, piece, hpiece, hchar⟩
      apply hblank piece hpiece
      rw [Bool.not_eq_true', List.isEmpty_eq_false_iff]
      exact List.ne_nil_of_mem hchar
    · intro hnone piece hpiece
      cases piece with
      | nil => simp
      | cons char piece =>
          exact absurd ⟨char, _, hpiece, List.mem_cons_self⟩ hnone
  rw [hpieces, not_exists]
  apply forall_congr'
  intro char
  rw [exists_mem_splitOnP_iff, not_and, Bool.not_eq_false]

theorem splitWhitespace_dropWhile (text : List Char) :
    splitWhitespace (text.dropWhile isWhitespace) = splitWhitespace text := by
  induction text with
  | nil => rfl
  | cons char text ih =>
      cases hchar : isWhitespace char with
      | false => rw [List.dropWhile_cons_of_neg (by simp [hchar])]
      | true =>
          rw [List.dropWhile_cons_of_pos hchar, ih, splitWhitespace,
            splitWhitespace, List.splitOnP_cons_eq_if_modifyHead,
            if_pos hchar, List.filter_cons_of_neg (by simp)]

theorem splitWhitespace_reverse_dropWhile (text : List Char) :
    splitWhitespace (text.dropWhile isWhitespace).reverse =
      splitWhitespace text.reverse := by
  induction text with
  | nil => rfl
  | cons char text ih =>
      cases hchar : isWhitespace char with
      | false => rw [List.dropWhile_cons_of_neg (by simp [hchar])]
      | true =>
          rw [List.dropWhile_cons_of_pos hchar, ih, List.reverse_cons,
            splitWhitespace, splitWhitespace,
            List.splitOnP_append_cons _ _ hchar, List.splitOnP_nil,
            List.filter_append, List.filter_singleton]
          simp

/-- Blanks around a text separate nothing. -/
theorem splitWhitespace_trim (text : List Char) :
    splitWhitespace (trim text) = splitWhitespace text := by
  rw [trim]
  rw [splitWhitespace_reverse_dropWhile, List.reverse_reverse,
    splitWhitespace_dropWhile]

/-- A hexadecimal digit is a single byte. -/
theorem byteLength_of_isAsciiHexdigit {text : List Char}
    (hdigits : ∀ char ∈ text, isAsciiHexdigit char = true) :
    byteLength text = text.length := by
  have hsize : ∀ char ∈ text, char.utf8Size = 1 := by
    intro char hchar
    have hdigit := hdigits char hchar
    rw [Char.utf8Size_eq_one_iff, UInt32.le_iff_toNat_le]
    simp only [isAsciiHexdigit, Bool.or_eq_true, Bool.and_eq_true,
      decide_eq_true_eq] at hdigit
    have hcode : char.toNat ≤ 127 := by omega
    exact hcode
  rw [byteLength, List.map_congr_left hsize, List.map_const',
    List.sum_replicate_nat, Nat.mul_one]

end SshKnock.Text

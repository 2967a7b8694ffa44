import SshKnock.Update.Install

/-!
# Which package a distribution gets

The package type should follow from the keys `ID` and `ID_LIKE` of the
os-release file.  The updater looks for a dozen texts anywhere in the file
instead.  Where nothing but the two assignments in force shows one of these
texts, quotes alone decide whether the tests see the identity.
-/

namespace SshKnock

open SshKnock.Text

/-! ## The identity of a distribution -/

def doubleQuote : Char := Char.ofNat 34
def singleQuote : Char := Char.ofNat 39

def idKey : List Char := ['I', 'D']
def idLikeKey : List Char := ['I', 'D', '_', 'L', 'I', 'K', 'E']

/-- What a line assigns to the key, if it does. -/
def assigned (key line : List Char) : Option (List Char) :=
  if key ++ ['='] <+: line then some (line.drop (key.length + 1)) else none

/-- The value without the quotes around it. -/
def unquote : List Char → List Char
  | [] => []
  | quote :: rest =>
      if (quote = doubleQuote ∨ quote = singleQuote) ∧
          rest.getLast? = some quote then rest.dropLast
      else quote :: rest

def quoted (text : List Char) : List Char :=
  doubleQuote :: (text ++ [doubleQuote])

def osReleaseLines (osRelease : List Char) : List (List Char) :=
  (lines osRelease).map trim

/-- What is assigned to a key, with any quotes: the last assignment is in
force. -/
def assignedValue (key osRelease : List Char) : Option (List Char) :=
  ((osReleaseLines osRelease).filterMap (assigned key)).getLast?

def osReleaseValue (key osRelease : List Char) : Option (List Char) :=
  (assignedValue key osRelease).map unquote

structure Identity where
  id : Option (List Char)
  idLike : Option (List Char)
  deriving DecidableEq

def identity (osRelease : String) : Identity :=
  { id := osReleaseValue idKey osRelease.toList
    idLike := osReleaseValue idLikeKey osRelease.toList }

/-- The distributions that take the one and the other package. -/
def rpmNames : List String := ["centos", "fedora", "rhel", "rocky", "almalinux"]
def debNames : List String := ["debian", "ubuntu"]

def startsWithAny (names : List String) (value : Option (List Char)) : Prop :=
  ∃ text ∈ value, ∃ name ∈ names, name.toList <+: text

instance (names : List String) (value : Option (List Char)) :
    Decidable (startsWithAny names value) :=
  inferInstanceAs (Decidable (∃ text ∈ value, _))

/-- The identity asks for this package, as far as the tests look at it. -/
def Identity.IsRpm (identity : Identity) : Prop :=
  startsWithAny ["rhel"] identity.idLike ∨ startsWithAny rpmNames identity.id

def Identity.IsDeb (identity : Identity) : Prop :=
  startsWithAny ["debian"] identity.idLike ∨ startsWithAny debNames identity.id

instance (identity : Identity) : Decidable identity.IsRpm :=
  inferInstanceAs (Decidable (_ ∨ _))

instance (identity : Identity) : Decidable identity.IsDeb :=
  inferInstanceAs (Decidable (_ ∨ _))

/-! ## The literal tests -/

def rpmPatterns : List String :=
  ["ID_LIKE=rhel", "ID_LIKE=\"rhel", "ID=centos", "ID=fedora", "ID=rhel",
    "ID=rocky", "ID=almalinux"]

def debPatterns : List String :=
  ["ID_LIKE=debian", "ID_LIKE=\"debian", "ID=debian", "ID=ubuntu"]

/-- The text contains one of the patterns somewhere. -/
def Shows (patterns : List String) (osRelease : String) : Prop :=
  ∃ pattern ∈ patterns, containsText osRelease pattern = true

instance (patterns : List String) (osRelease : String) :
    Decidable (Shows patterns osRelease) :=
  inferInstanceAs (Decidable (∃ pattern ∈ patterns, _))

/-- The tests for a package: the start of the one key, bare or after a double
quote, and of the other key. -/
def patternsFor (like : String) (names : List String) : List String :=
  ("ID_LIKE=" ++ like) :: ("ID_LIKE=\"" ++ like) :: names.map ("ID=" ++ ·)

theorem rpmPatterns_eq : rpmPatterns = patternsFor "rhel" rpmNames := by
  decide

theorem debPatterns_eq : debPatterns = patternsFor "debian" debNames := by
  decide

theorem detectPackageExtension_eq (osRelease : String) :
    detectPackageExtension osRelease =
      if Shows rpmPatterns osRelease then .ok "rpm"
      else if Shows debPatterns osRelease then .ok "deb"
      else .error
        "unsupported Linux distribution for automatic package selection" := by
  have hany : ∀ patterns : List String,
      patterns.any (containsText osRelease) = true ↔
        Shows patterns osRelease := fun _ => List.any_eq_true
  rw [detectPackageExtension]
  exact if_congr (hany rpmPatterns) rfl (if_congr (hany debPatterns) rfl rfl)

/-- What the tests would answer if they looked at the identity alone. -/
def Identity.packageExtension (identity : Identity) : Except Error String :=
  if identity.IsRpm then .ok "rpm"
  else if identity.IsDeb then .ok "deb"
  else .error "unsupported Linux distribution for automatic package selection"

theorem packageExtension_rpm {identity : Identity} {name : String}
    (hname : name ∈ rpmNames) (hid : identity.id = some name.toList) :
    identity.packageExtension = .ok "rpm" := by
  have hrpm : identity.IsRpm :=
    Or.inr ⟨name.toList, hid, name, hname, List.prefix_refl _⟩
  rw [Identity.packageExtension, if_pos hrpm]

theorem packageExtension_deb {identity : Identity} {name : String}
    (hname : name ∈ debNames) (hid : identity.id = some name.toList)
    (hlike : ∀ text ∈ identity.idLike, ¬"rhel".toList <:+: text) :
    identity.packageExtension = .ok "deb" := by
  have hdeb : identity.IsDeb :=
    Or.inr ⟨name.toList, hid, name, hname, List.prefix_refl _⟩
  have hdistinct : ∀ name ∈ debNames, ∀ other ∈ rpmNames,
      ¬other.toList <+: name.toList := by decide
  have hrpm : ¬identity.IsRpm := by
    rintro (⟨text, htext, pattern, hpattern, hbegins⟩ |
      ⟨text, htext, other, hmem, hbegins⟩)
    · rw [List.mem_singleton.mp hpattern] at hbegins
      exact hlike text htext hbegins.isInfix
    · rw [hid, Option.mem_some_iff] at htext
      exact hdistinct name hname other hmem (htext ▸ hbegins)
  rw [Identity.packageExtension, if_neg hrpm, if_pos hdeb]

/-! ## Legible texts -/

/-- The assignments in force, as lines. -/
def assignments (osRelease : List Char) : List (List Char) :=
  [idKey, idLikeKey].filterMap fun key =>
    (assignedValue key osRelease).map fun value => key ++ '=' :: value

/-- What is not the start of an assignment in force: the other lines, and the
values themselves. -/
def elsewhere (osRelease : List Char) : List (List Char) :=
  (osReleaseLines osRelease).filter (· ∉ assignments osRelease) ++
    [idKey, idLikeKey].filterMap (assignedValue · osRelease)

/-- Nothing but the assignments in force shows one of the texts, and a double
quote in front of the second value is closed. -/
structure Undistracted (osRelease : String) : Prop where
  nothing_else : ∀ piece ∈ elsewhere osRelease.toList,
    ∀ pattern ∈ rpmPatterns ++ debPatterns, ¬pattern.toList <:+: piece
  closed : ∀ value ∈ assignedValue idLikeKey osRelease.toList,
    value.head? = some doubleQuote → value = quoted (unquote value)

/-- Quotes do not hide the names: `ID` starts with one of them without quotes,
or `ID_LIKE` with the family, without quotes or after a double quote. -/
def Unhidden (like : String) (names : List String) (osRelease : String) :
    Prop :=
  startsWithAny names (assignedValue idKey osRelease.toList) ∨
    startsWithAny [like, "\"" ++ like]
      (assignedValue idLikeKey osRelease.toList)

instance (like : String) (names : List String) (osRelease : String) :
    Decidable (Unhidden like names osRelease) :=
  inferInstanceAs (Decidable (_ ∨ _))

/-- Nothing distracts the tests, and quotes do not hide the package that the
identity asks for. -/
structure Legible (osRelease : String) : Prop
    extends Undistracted osRelease where
  rpm_unhidden : (identity osRelease).IsRpm →
    Unhidden "rhel" rpmNames osRelease
  deb_unhidden : ¬(identity osRelease).IsRpm → (identity osRelease).IsDeb →
    Unhidden "debian" debNames osRelease

theorem undistracted_iff (osRelease : String) :
    Undistracted osRelease ↔
      (∀ piece ∈ elsewhere osRelease.toList,
        ∀ pattern ∈ rpmPatterns ++ debPatterns, ¬pattern.toList <:+: piece) ∧
      ∀ value ∈ assignedValue idLikeKey osRelease.toList,
        value.head? = some doubleQuote → value = quoted (unquote value) :=
  ⟨fun ⟨hnothing, hclosed⟩ => ⟨hnothing, hclosed⟩,
    fun ⟨hnothing, hclosed⟩ => ⟨hnothing, hclosed⟩⟩

instance (osRelease : String) : Decidable (Undistracted osRelease) :=
  decidable_of_iff' _ (undistracted_iff osRelease)

theorem legible_iff (osRelease : String) :
    Legible osRelease ↔
      Undistracted osRelease ∧
        ((identity osRelease).IsRpm → Unhidden "rhel" rpmNames osRelease) ∧
        (¬(identity osRelease).IsRpm → (identity osRelease).IsDeb →
          Unhidden "debian" debNames osRelease) :=
  ⟨fun ⟨hundistracted, hrpm, hdeb⟩ => ⟨hundistracted, hrpm, hdeb⟩,
    fun ⟨hundistracted, hrpm, hdeb⟩ => ⟨hundistracted, hrpm, hdeb⟩⟩

instance (osRelease : String) : Decidable (Legible osRelease) :=
  decidable_of_iff' _ (legible_iff osRelease)

/-! ### What the tests meet -/

theorem assigned_eq_some_iff {key line value : List Char} :
    assigned key line = some value ↔ line = key ++ '=' :: value := by
  rw [assigned]
  constructor
  · intro hassigned
    split at hassigned
    · next hbegins =>
        obtain ⟨rest, rfl⟩ := hbegins
        have hdrop : (key ++ ['='] ++ rest).drop (key.length + 1) = rest := by
          simp
        rw [hdrop] at hassigned
        obtain rfl := Option.some.inj hassigned
        simp
    · cases hassigned
  · rintro rfl
    have hbegins : key ++ ['='] <+: key ++ '=' :: value := ⟨value, by simp⟩
    have hdrop : (key ++ '=' :: value).drop (key.length + 1) = value := by simp
    rw [if_pos hbegins, hdrop]

/-- An assignment in force is one of the lines. -/
theorem mem_of_assignedValue {key value osRelease : List Char}
    (hvalue : assignedValue key osRelease = some value) :
    key ++ '=' :: value ∈ osReleaseLines osRelease := by
  obtain ⟨line, hline, hassigned⟩ :=
    List.mem_filterMap.mp (List.mem_of_getLast? hvalue)
  exact assigned_eq_some_iff.mp hassigned ▸ hline

theorem mem_assignments_iff {line osRelease : List Char} :
    line ∈ assignments osRelease ↔
      ∃ key ∈ [idKey, idLikeKey], ∃ value,
        assignedValue key osRelease = some value ∧
          key ++ '=' :: value = line := by
  simp only [assignments, List.mem_filterMap, Option.map_eq_some_iff]

/-- No key ends in another one. -/
theorem key_eq_of_suffix {key other : List Char}
    (hkey : key ∈ [idKey, idLikeKey]) (hother : other ∈ [idKey, idLikeKey])
    (hsuffix : key <:+ other) : key = other := by
  simp only [List.mem_cons, List.not_mem_nil, or_false] at hkey hother
  rcases hkey with rfl | rfl <;> rcases hother with rfl | rfl
  · rfl
  · exact absurd hsuffix (by decide)
  · exact absurd hsuffix (by decide)
  · rfl

/-- A test is met by the start of an assignment in force or elsewhere. -/
theorem infix_osRelease_iff (osRelease : List Char) {key start : List Char}
    (hkey : key ∈ [idKey, idLikeKey])
    (hstart : ∀ char ∈ start, isWhitespace char = false) :
    key ++ '=' :: start <:+: osRelease ↔
      (∃ value ∈ assignedValue key osRelease, start <+: value) ∨
        ∃ piece ∈ elsewhere osRelease, key ++ '=' :: start <:+: piece := by
  have hkeys : ∀ key ∈ [idKey, idLikeKey],
      '=' ∉ key ∧ (key ++ ['=']).all (!isWhitespace ·) = true := by decide
  have hpattern : ∀ char ∈ key ++ '=' :: start, isWhitespace char = false := by
    rw [List.append_cons]
    exact List.forall_mem_append.mpr
      ⟨noWhitespace_of_all (hkeys key hkey).2, hstart⟩
  have hclean : ∀ char, isWhitespace char = true →
      char ∉ key ++ '=' :: start := by
    intro char hchar hmem
    rw [hpattern char hmem] at hchar
    cases hchar
  have hne : key ++ '=' :: start ≠ [] := by simp
  have hlines : key ++ '=' :: start <:+: osRelease ↔
      ∃ line ∈ osReleaseLines osRelease, key ++ '=' :: start <:+: line := by
    rw [← infix_lines_iff hne (hclean _ (by decide)) (hclean _ (by decide))]
    simp only [osReleaseLines, List.mem_map, exists_exists_and_eq_and,
      infix_trim_iff hne hpattern]
  rw [hlines]
  constructor
  · rintro ⟨line, hline, hshown⟩
    by_cases hforce : line ∈ assignments osRelease
    · obtain ⟨other, hother, value, hvalue, rfl⟩ :=
        mem_assignments_iff.mp hforce
      rcases (infix_around_iff (hkeys key hkey).1 (hkeys other hother).1).mp
        hshown with ⟨hsuffix, hbegins⟩ | hinside
      · rw [key_eq_of_suffix hkey hother hsuffix]
        exact Or.inl ⟨value, hvalue, hbegins⟩
      · exact Or.inr ⟨value, List.mem_append_right _
          (List.mem_filterMap.mpr ⟨other, hother, hvalue⟩), hinside⟩
    · exact Or.inr ⟨line, List.mem_append_left _
        (List.mem_filter.mpr ⟨hline, decide_eq_true hforce⟩), hshown⟩
  · rintro (⟨value, hvalue, rest, rfl⟩ | ⟨piece, hpiece, hshown⟩)
    · exact ⟨_, mem_of_assignedValue hvalue, [], rest, by simp⟩
    · rcases List.mem_append.mp hpiece with hother | hinside
      · exact ⟨piece, (List.mem_filter.mp hother).1, hshown⟩
      · obtain ⟨other, -, hvalue⟩ := List.mem_filterMap.mp hinside
        exact ⟨_, mem_of_assignedValue hvalue,
          hshown.trans ⟨other ++ ['='], [], by simp⟩⟩

/-- The tests for a package, key by key. -/
theorem exists_mem_patternsFor_iff (like : String) (names : List String)
    (text : List Char) :
    (∃ pattern ∈ patternsFor like names, pattern.toList <:+: text) ↔
      (∃ name ∈ names, idKey ++ '=' :: name.toList <:+: text) ∨
        ∃ start ∈ [like, "\"" ++ like],
          idLikeKey ++ '=' :: start.toList <:+: text := by
  have hid : ∀ name : String,
      ("ID=" ++ name).toList = idKey ++ '=' :: name.toList :=
    fun _ => String.toList_append
  have hlike : ("ID_LIKE=" ++ like).toList = idLikeKey ++ '=' :: like.toList :=
    String.toList_append
  have hquoted : ("ID_LIKE=\"" ++ like).toList =
      idLikeKey ++ '=' :: ("\"" ++ like).toList := by
    rw [String.toList_append, String.toList_append]
    rfl
  simp only [patternsFor, List.exists_mem_cons_iff, List.mem_map,
    exists_exists_and_eq_and, List.not_mem_nil, false_and, exists_false,
    or_false, hid, hlike, hquoted]
  rw [← or_assoc, or_comm]

/-- The tests for a package see its names in the assignments in force, unless
quotes hide them, or something elsewhere. -/
theorem shows_patternsFor_iff (osRelease : String) {like : String}
    {names : List String}
    (hlike : ∀ start ∈ [like, "\"" ++ like],
      start.toList.all (!isWhitespace ·) = true)
    (hnames : ∀ name ∈ names, name.toList.all (!isWhitespace ·) = true) :
    Shows (patternsFor like names) osRelease ↔
      Unhidden like names osRelease ∨
        ∃ piece ∈ elsewhere osRelease.toList,
          ∃ pattern ∈ patternsFor like names, pattern.toList <:+: piece := by
  have hstarts : ∀ {key : List Char} {starts : List String},
      key ∈ [idKey, idLikeKey] →
      (∀ start ∈ starts, start.toList.all (!isWhitespace ·) = true) →
        ((∃ start ∈ starts,
            key ++ '=' :: start.toList <:+: osRelease.toList) ↔
          startsWithAny starts (assignedValue key osRelease.toList) ∨
            ∃ piece ∈ elsewhere osRelease.toList, ∃ start ∈ starts,
              key ++ '=' :: start.toList <:+: piece) := by
    intro key starts hkey hclean
    constructor
    · rintro ⟨start, hstart, hshown⟩
      rcases (infix_osRelease_iff _ hkey
          (noWhitespace_of_all (hclean start hstart))).mp hshown with
        ⟨value, hvalue, hbegins⟩ | ⟨piece, hpiece, hinside⟩
      · exact Or.inl ⟨value, hvalue, start, hstart, hbegins⟩
      · exact Or.inr ⟨piece, hpiece, start, hstart, hinside⟩
    · rintro (⟨value, hvalue, start, hstart, hbegins⟩ |
        ⟨piece, hpiece, start, hstart, hinside⟩)
      · exact ⟨start, hstart, (infix_osRelease_iff _ hkey
          (noWhitespace_of_all (hclean start hstart))).mpr
            (Or.inl ⟨value, hvalue, hbegins⟩)⟩
      · exact ⟨start, hstart, (infix_osRelease_iff _ hkey
          (noWhitespace_of_all (hclean start hstart))).mpr
            (Or.inr ⟨piece, hpiece, hinside⟩)⟩
  have hshows : Shows (patternsFor like names) osRelease ↔
      ∃ pattern ∈ patternsFor like names,
        pattern.toList <:+: osRelease.toList := by
    simp only [Shows, containsText, decide_eq_true_eq]
  rw [hshows, exists_mem_patternsFor_iff, hstarts List.mem_cons_self hnames,
    hstarts (List.mem_cons_of_mem _ List.mem_cons_self) hlike, or_or_or_comm]
  apply or_congr_right
  rw [← exists_or]
  apply exists_congr
  intro piece
  rw [← and_or_left, exists_mem_patternsFor_iff]

/-- Where nothing distracts the tests, they see what quotes do not hide. -/
theorem Undistracted.shows_iff {osRelease : String}
    (hundistracted : Undistracted osRelease) :
    (Shows rpmPatterns osRelease ↔ Unhidden "rhel" rpmNames osRelease) ∧
      (Shows debPatterns osRelease ↔
        Unhidden "debian" debNames osRelease) := by
  have hnothing := hundistracted.nothing_else
  rw [rpmPatterns_eq, debPatterns_eq] at *
  rw [shows_patternsFor_iff osRelease (by decide) (by decide),
    shows_patternsFor_iff osRelease (by decide) (by decide)]
  constructor <;> apply or_iff_left <;>
    rintro ⟨piece, hpiece, pattern, hpattern, hshown⟩
  · exact hnothing piece hpiece pattern (List.mem_append_left _ hpattern) hshown
  · exact hnothing piece hpiece pattern (List.mem_append_right _ hpattern)
      hshown

theorem unquote_quoted (text : List Char) :
    unquote (quoted text) = text := by
  rw [quoted, unquote, if_pos ⟨Or.inl rfl, List.getLast?_concat⟩,
    List.dropLast_concat]

/-- A quoted value starts like the value itself. -/
theorem prefix_quoted_iff {start text : List Char}
    (hstart : doubleQuote ∉ start) :
    doubleQuote :: start <+: quoted text ↔ start <+: text := by
  rw [quoted, List.cons_prefix_cons, and_iff_right rfl,
    List.prefix_concat_iff]
  constructor
  · rintro (rfl | hbegins)
    · exact absurd (by simp) hstart
    · exact hbegins
  · exact Or.inr

/-- Some character comes first, and it is no quote. -/
def startsBare (start : List Char) : Bool :=
  start.head?.any fun first => first != doubleQuote && first != singleQuote

/-- A value that starts with another character than a quote has no quotes
around it. -/
theorem unquote_of_begins {start value : List Char}
    (hstart : startsBare start = true)
    (hbegins : start <+: value) : unquote value = value := by
  obtain ⟨first, hfirst, hbare⟩ := (Option.any_eq_true _ _).mp hstart
  simp only [Bool.and_eq_true, bne_iff_ne] at hbare
  obtain ⟨hdouble, hsingle⟩ := hbare
  obtain ⟨rest, rfl⟩ := List.head?_eq_some_iff.mp hfirst
  obtain ⟨after, rfl⟩ := hbegins
  rw [List.cons_append, unquote, if_neg]
  rintro ⟨hquote | hquote, -⟩
  · exact hdouble hquote
  · exact hsingle hquote

/-- What quotes do not hide is part of the identity. -/
theorem Undistracted.identity_of_unhidden {osRelease like : String}
    {names : List String} (hundistracted : Undistracted osRelease)
    (hlike : startsBare like.toList = true)
    (hclean : doubleQuote ∉ like.toList)
    (hnames : ∀ name ∈ names, startsBare name.toList = true)
    (hunhidden : Unhidden like names osRelease) :
    startsWithAny [like] (identity osRelease).idLike ∨
      startsWithAny names (identity osRelease).id := by
  rcases hunhidden with ⟨value, hvalue, name, hname, hbegins⟩ |
    ⟨value, hvalue, start, hstart, hbegins⟩
  · have hbare := unquote_of_begins (hnames name hname) hbegins
    exact Or.inr ⟨value, Option.map_eq_some_iff.mpr ⟨value, hvalue, hbare⟩,
      name, hname, hbegins⟩
  · have hlikes : like.toList <+: unquote value := by
      simp only [List.mem_cons, List.not_mem_nil, or_false] at hstart
      rcases hstart with rfl | rfl
      · rwa [unquote_of_begins hlike hbegins]
      · have hquote : ("\"" ++ like).toList = doubleQuote :: like.toList :=
          String.toList_append
        rw [hquote] at hbegins
        have hopen : value.head? = some doubleQuote := by
          obtain ⟨rest, rfl⟩ := hbegins
          rfl
        have hclosed := hundistracted.closed value hvalue hopen
        rw [hclosed] at hbegins
        exact (prefix_quoted_iff hclean).mp hbegins
    exact Or.inl ⟨unquote value, Option.map_eq_some_iff.mpr
      ⟨value, hvalue, rfl⟩, like, List.mem_singleton_self _, hlikes⟩

/-- Where nothing distracts the tests, they answer for the identity exactly on a
legible text. -/
theorem Undistracted.detects_iff {osRelease : String}
    (hundistracted : Undistracted osRelease) :
    detectPackageExtension osRelease = (identity osRelease).packageExtension ↔
      Legible osRelease := by
  have hshows := hundistracted.shows_iff
  have hrpm : Unhidden "rhel" rpmNames osRelease →
      (identity osRelease).IsRpm :=
    hundistracted.identity_of_unhidden (by decide) (by decide) (by decide)
  have hdeb : Unhidden "debian" debNames osRelease →
      (identity osRelease).IsDeb :=
    hundistracted.identity_of_unhidden (by decide) (by decide) (by decide)
  rw [detectPackageExtension_eq, Identity.packageExtension, legible_iff,
    and_iff_right hundistracted]
  simp only [hshows.1, hshows.2]
  by_cases hisRpm : (identity osRelease).IsRpm <;>
    by_cases hisDeb : (identity osRelease).IsDeb <;>
      by_cases hshownRpm : Unhidden "rhel" rpmNames osRelease <;>
        by_cases hshownDeb : Unhidden "debian" debNames osRelease <;>
          simp_all

/-! ## Every identity has a legible text -/

/-- Lower-case letters, digits and `.`, `_`, `-`. -/
def isIdentifierChar (char : Char) : Bool :=
  let code := char.toNat
  (97 ≤ code && code ≤ 122) || (48 ≤ code && code ≤ 57) || code = 46 ||
    code = 95 || code = 45

/-- The identity is an identifier and a list of identifiers. -/
structure Identity.Legal (identity : Identity) : Prop where
  id_legal : ∀ text ∈ identity.id, ∀ char ∈ text,
    isIdentifierChar char = true
  idLike_legal : ∀ text ∈ identity.idLike, ∀ char ∈ text,
    isIdentifierChar char = true ∨ char = ' '

def idLine (text : List Char) : List Char :=
  idKey ++ '=' :: text

def idLikeLine (text : List Char) : List Char :=
  idLikeKey ++ '=' :: quoted text

/-- The identity written down plainly: the first key without quotes, the
second one in double quotes. -/
def Identity.plainLines (identity : Identity) : List (List Char) :=
  identity.id.toList.map idLine ++ identity.idLike.toList.map idLikeLine

def Identity.plainText (identity : Identity) : String :=
  String.ofList (identity.plainLines.flatMap (· ++ ['\n']))

/-- Lines without line breaks are read back. -/
theorem lines_flatMap {entries : List (List Char)}
    (hentries : ∀ line ∈ entries, '\n' ∉ line ∧ '\r' ∉ line) :
    lines (entries.flatMap (· ++ ['\n'])) = entries := by
  induction entries with
  | nil => rfl
  | cons line entries ih =>
      obtain ⟨hline, hrest⟩ := List.forall_mem_cons.mp hentries
      rw [List.flatMap_cons, List.append_assoc, List.singleton_append,
        lines_append _ hline.1 hline.2, ih hrest]

theorem not_mem_of_legal {separator : Char} {text : List Char}
    (hseparator : isIdentifierChar separator = false ∧ separator ≠ ' ')
    (hlegal : ∀ char ∈ text, isIdentifierChar char = true ∨ char = ' ') :
    separator ∉ text := by
  intro hmem
  rcases hlegal separator hmem with hidentifier | hblank
  · rw [hseparator.1] at hidentifier
    cases hidentifier
  · exact hseparator.2 hblank

theorem notMem_quoted {char : Char} {text : List Char}
    (hquote : char ≠ doubleQuote) (htext : char ∉ text) :
    char ∉ quoted text := by
  simp [quoted, hquote, htext]

theorem isWhitespace_of_isIdentifierChar {char : Char}
    (hchar : isIdentifierChar char = true) : isWhitespace char = false := by
  simp only [isIdentifierChar, isWhitespace, Bool.or_eq_true, Bool.and_eq_true,
    decide_eq_true_eq, Bool.or_eq_false_iff, Bool.and_eq_false_iff,
    decide_eq_false_iff_not] at hchar ⊢
  omega

theorem notMem_assignment {char : Char} {key value : List Char}
    (hkey : char ∉ key ++ ['=']) (hvalue : char ∉ value) :
    char ∉ key ++ '=' :: value := by
  rw [List.append_cons, List.mem_append, not_or]
  exact ⟨hkey, hvalue⟩

section Plain

variable {identity : Identity}

theorem Identity.Legal.equals_notMem (hlegal : identity.Legal) :
    (∀ text ∈ identity.id, '=' ∉ text) ∧
      ∀ text ∈ identity.idLike, '=' ∉ text :=
  ⟨fun text htext => not_mem_of_legal (by decide) fun char hchar =>
      Or.inl (hlegal.id_legal text htext char hchar),
    fun text htext => not_mem_of_legal (by decide)
      (hlegal.idLike_legal text htext)⟩

theorem notMem_plainLines (hlegal : identity.Legal) {char : Char}
    (hchar : isIdentifierChar char = false ∧ char ≠ ' ')
    (hid : char ∉ idKey ++ ['=']) (hidLike : char ∉ idLikeKey ++ ['='])
    (hquote : char ≠ doubleQuote) :
    ∀ line ∈ identity.plainLines, char ∉ line := by
  intro line hline
  rw [Identity.plainLines, List.mem_append, List.mem_map, List.mem_map]
    at hline
  rcases hline with ⟨text, htext, rfl⟩ | ⟨text, htext, rfl⟩
  · exact notMem_assignment hid (not_mem_of_legal hchar fun other hother =>
      Or.inl (hlegal.id_legal text (Option.mem_toList.mp htext) other hother))
  · exact notMem_assignment hidLike (notMem_quoted hquote
      (not_mem_of_legal hchar
        (hlegal.idLike_legal text (Option.mem_toList.mp htext))))

theorem lines_plainText (hlegal : identity.Legal) :
    lines identity.plainText.toList = identity.plainLines := by
  rw [Identity.plainText, String.toList_ofList]
  apply lines_flatMap
  intro line hline
  exact ⟨notMem_plainLines hlegal (by decide) (by decide) (by decide)
      (by decide) line hline,
    notMem_plainLines hlegal (by decide) (by decide) (by decide)
      (by decide) line hline⟩

theorem trim_idLine {text : List Char}
    (htext : ∀ char ∈ text, isIdentifierChar char = true) :
    trim (idLine text) = idLine text := by
  have hkey : ∀ char ∈ idKey ++ ['='], isWhitespace char = false := by
    simp [idKey, isWhitespace]
  have hline : ∀ char ∈ idLine text, isWhitespace char = false := by
    intro char hchar
    rw [idLine, List.append_cons, List.mem_append] at hchar
    rcases hchar with hmem | hvalue
    · exact hkey char hmem
    · exact isWhitespace_of_isIdentifierChar (htext char hvalue)
  exact trim_eq_self (fun char hchar => hline char (List.mem_of_mem_head? hchar))
    fun char hchar => hline char (List.mem_of_getLast? hchar)

theorem getLast?_quoted (key text : List Char) :
    (key ++ '=' :: quoted text).getLast? = some doubleQuote := by
  rw [quoted, ← List.cons_append, ← List.cons_append, ← List.append_assoc,
    List.getLast?_concat]

theorem trim_idLikeLine (text : List Char) :
    trim (idLikeLine text) = idLikeLine text := by
  apply trim_eq_self
  · rintro _ ⟨⟩
    decide
  · intro char hchar
    rw [idLikeLine, getLast?_quoted, Option.mem_some_iff] at hchar
    rw [← hchar]
    decide

theorem assigned_append (key value : List Char) :
    assigned key (key ++ '=' :: value) = some value :=
  assigned_eq_some_iff.mpr rfl

theorem assigned_idKey_idLikeLine (text : List Char) :
    assigned idKey (idLikeLine text) = none :=
  if_neg fun hbegins => by simp [idLikeLine, idKey, idLikeKey] at hbegins

theorem assigned_idLikeKey_idLine (text : List Char) :
    assigned idLikeKey (idLine text) = none :=
  if_neg fun hbegins => by simp [idLine, idKey, idLikeKey] at hbegins

theorem unquote_bare {text : List Char}
    (htext : ∀ char ∈ text, isIdentifierChar char = true) :
    unquote text = text := by
  cases text with
  | nil => rfl
  | cons first rest =>
      rw [unquote, if_neg]
      rintro ⟨hquote | hquote, _⟩ <;>
        exact absurd (htext first List.mem_cons_self) (by rw [hquote]; decide)

theorem map_trim_plainLines (hlegal : identity.Legal) :
    identity.plainLines.map trim = identity.plainLines := by
  rw [List.map_congr_left (g := id), List.map_id]
  intro line hline
  rw [Identity.plainLines, List.mem_append, List.mem_map, List.mem_map]
    at hline
  rcases hline with ⟨text, htext, rfl⟩ | ⟨text, _, rfl⟩
  · exact trim_idLine (hlegal.id_legal text (Option.mem_toList.mp htext))
  · exact trim_idLikeLine text

theorem osReleaseLines_plainText (hlegal : identity.Legal) :
    osReleaseLines identity.plainText.toList = identity.plainLines := by
  rw [osReleaseLines, lines_plainText hlegal, map_trim_plainLines hlegal]

theorem assignedValue_plainText (hlegal : identity.Legal) :
    assignedValue idKey identity.plainText.toList = identity.id ∧
      assignedValue idLikeKey identity.plainText.toList =
        identity.idLike.map quoted := by
  rw [assignedValue, assignedValue, osReleaseLines_plainText hlegal]
  obtain ⟨id, idLike⟩ := identity
  constructor
  · cases id <;> cases idLike <;>
      simp [Identity.plainLines, assigned_idKey_idLikeLine, idLine,
        assigned_append]
  · cases id <;> cases idLike <;>
      simp [Identity.plainLines, assigned_idLikeKey_idLine, idLikeLine,
        assigned_append]

/-- A plain text is read as the identity it was written from. -/
theorem identity_plainText (hlegal : identity.Legal) :
    SshKnock.identity identity.plainText = identity := by
  have hbare : ∀ text ∈ identity.id, unquote text = text := fun text htext =>
    unquote_bare (hlegal.id_legal text htext)
  obtain ⟨hid, hidLike⟩ := assignedValue_plainText hlegal
  rw [SshKnock.identity, osReleaseValue, osReleaseValue, hid, hidLike]
  obtain ⟨id, idLike⟩ := identity
  cases id <;> cases idLike <;> simp_all [unquote_quoted]

/-- A plain text is nothing but the assignments in force. -/
theorem elsewhere_plainText (hlegal : identity.Legal) :
    ∀ piece ∈ elsewhere identity.plainText.toList, '=' ∉ piece := by
  obtain ⟨hid, hidLike⟩ := assignedValue_plainText hlegal
  intro piece hpiece
  rcases List.mem_append.mp hpiece with hother | hvalue
  · rw [osReleaseLines_plainText hlegal, List.mem_filter,
      decide_eq_true_eq, mem_assignments_iff] at hother
    refine absurd ?_ hother.2
    have hline := hother.1
    rw [Identity.plainLines, List.mem_append, List.mem_map, List.mem_map]
      at hline
    rcases hline with ⟨text, htext, rfl⟩ | ⟨text, htext, rfl⟩
    · exact ⟨idKey, List.mem_cons_self, text,
        hid.trans (Option.mem_toList.mp htext), rfl⟩
    · refine ⟨idLikeKey, List.mem_cons_of_mem _ List.mem_cons_self,
        quoted text, hidLike.trans ?_, rfl⟩
      rw [Option.mem_toList.mp htext]
      rfl
  · obtain ⟨key, hkey, hassigned⟩ := List.mem_filterMap.mp hvalue
    simp only [List.mem_cons, List.not_mem_nil, or_false] at hkey
    rcases hkey with rfl | rfl
    · exact hlegal.equals_notMem.1 piece (hid.symm.trans hassigned)
    · obtain ⟨text, htext, rfl⟩ :=
        Option.map_eq_some_iff.mp (hidLike.symm.trans hassigned)
      exact notMem_quoted (by decide) (hlegal.equals_notMem.2 text htext)

theorem legible_plainText (hlegal : identity.Legal) :
    Legible identity.plainText := by
  have hread := identity_plainText hlegal
  obtain ⟨hid, hidLike⟩ := assignedValue_plainText hlegal
  have hunhidden : ∀ {like : String} {names : List String},
      startsWithAny [like] identity.idLike ∨
          startsWithAny names identity.id →
        Unhidden like names identity.plainText := by
    rintro like names (⟨text, htext, start, hstart, hbegins⟩ | hnames)
    · rw [List.mem_singleton.mp hstart] at hbegins
      refine Or.inr ⟨quoted text, ?_, "\"" ++ like,
        List.mem_cons_of_mem _ List.mem_cons_self, ?_⟩
      · rw [hidLike, htext]
        rfl
      · rw [String.toList_append]
        exact List.cons_prefix_cons.mpr
          ⟨rfl, hbegins.trans (List.prefix_append _ _)⟩
    · exact Or.inl (hid ▸ hnames)
  have hequals : ∀ pattern ∈ rpmPatterns ++ debPatterns,
      '=' ∈ pattern.toList := by decide
  refine ⟨⟨?_, ?_⟩, ?_, ?_⟩
  · intro piece hpiece pattern hpattern hshown
    exact elsewhere_plainText hlegal piece hpiece
      (hshown.subset (hequals pattern hpattern))
  · rintro value hvalue -
    rw [hidLike] at hvalue
    obtain ⟨text, -, rfl⟩ := Option.map_eq_some_iff.mp hvalue
    rw [unquote_quoted]
  · rw [hread]
    exact hunhidden
  · rw [hread]
    exact fun _ => hunhidden

end Plain

/-! ## Where the package follows the identity -/

/-- The text gets the same package as every legible text of its identity, and
the named distributions get theirs. -/
structure FollowsIdentity (osRelease : String) : Prop where
  same : ∀ other, Legible other → identity other = identity osRelease →
    detectPackageExtension other = detectPackageExtension osRelease
  rpm : ∀ name ∈ rpmNames, (identity osRelease).id = some name.toList →
    detectPackageExtension osRelease = .ok "rpm"
  deb : ∀ name ∈ debNames, (identity osRelease).id = some name.toList →
    (∀ text ∈ (identity osRelease).idLike, ¬"rhel".toList <:+: text) →
      detectPackageExtension osRelease = .ok "deb"

theorem Legible.detects {osRelease : String} (hlegible : Legible osRelease) :
    detectPackageExtension osRelease =
      (identity osRelease).packageExtension :=
  hlegible.toUndistracted.detects_iff.mpr hlegible

/-- From every legible text the package follows the identity, and where nothing
but the assignments in force shows one of the texts, from no other. -/
theorem package_follows_identity_iff (osRelease : String) :
    (Legible osRelease → FollowsIdentity osRelease) ∧
      ((identity osRelease).Legal → Undistracted osRelease →
        (FollowsIdentity osRelease ↔ Legible osRelease)) := by
  have hfollows : Legible osRelease → FollowsIdentity osRelease := by
    intro hlegible
    refine ⟨?_, ?_, ?_⟩
    · intro other hother hsame
      rw [hother.detects, hlegible.detects, hsame]
    · intro name hname hid
      rw [hlegible.detects, packageExtension_rpm hname hid]
    · intro name hname hid hlike
      rw [hlegible.detects, packageExtension_deb hname hid hlike]
  refine ⟨hfollows, fun hlegal hundistracted => ⟨fun hfollowed => ?_, hfollows⟩⟩
  have hplain := legible_plainText hlegal
  have hread := identity_plainText hlegal
  have hdetects := hfollowed.same _ hplain hread
  rw [hplain.detects, hread] at hdetects
  exact hundistracted.detects_iff.mp hdetects.symm

/-- The quoted form that such files use hides the identity. -/
def quotedRelease : String := "ID=\"rhel\"\nID_LIKE=\"fedora\"\n"
def bareRelease : String := "ID=rhel\nID_LIKE=fedora\n"

/-- The package follows the identity from the bare text only. -/
theorem package_follows_identity_iff_quoted :
    FollowsIdentity bareRelease ∧ ¬FollowsIdentity quotedRelease := by
  have hlegal : (identity quotedRelease).Legal := by
    have hidentity : identity quotedRelease =
        ⟨some "rhel".toList, some "fedora".toList⟩ := by decide +kernel
    rw [hidentity]
    constructor <;> rintro _ ⟨⟩
    · exact List.all_eq_true.mp (by decide)
    · exact fun char hchar =>
        Or.inl (List.all_eq_true.mp (by decide) char hchar)
  exact ⟨(package_follows_identity_iff bareRelease).1 (by decide +kernel),
    fun hfollows => absurd (((package_follows_identity_iff quotedRelease).2
      hlegal (by decide +kernel)).mp hfollows) (by decide +kernel)⟩

/-- Both texts say `rhel`, and only the bare one gets its package. -/
theorem quoted_identity_unsupported :
    identity bareRelease = identity quotedRelease ∧
      (identity quotedRelease).id = some "rhel".toList ∧
      detectPackageExtension bareRelease = .ok "rpm" ∧
      detectPackageExtension quotedRelease = .error
        "unsupported Linux distribution for automatic package selection" := by
  decide +kernel

/-- A key that ends in `ID` misleads the updater. -/
example : (identity "ID=debian\nVARIANT_ID=centos\n").id =
      some "debian".toList ∧
    detectPackageExtension "ID=debian\nVARIANT_ID=centos\n" = .ok "rpm" := by
  decide +kernel

end SshKnock

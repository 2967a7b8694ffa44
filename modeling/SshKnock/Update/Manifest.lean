import SshKnock.Config
import SshKnock.Core.Text

/-!
# The checksum manifest

The updater looks up the digest of the package it has chosen by the package's
name.  It accepts exactly the manifests in which every line with words has two
of them and the name occurs once, next to a proper digest.
-/

namespace SshKnock

open SshKnock.Text

def validateSha256Hex (value : List Char) : Except Error Unit :=
  bailIf (byteLength value ≠ 64 ∨ ¬value.all isAsciiHexdigit)
    "checksum manifest contains an invalid sha256 digest"

/-- The loop over the lines; `matchedDigest` is the digest found so far. -/
def matchLines (packageName : String) (matchedDigest : Option (List Char)) :
    List (List Char) → Except Error (Option (List Char))
  | [] => .ok matchedDigest
  | line :: lines =>
      let trimmed := trim line
      if trimmed.isEmpty then matchLines packageName matchedDigest lines
      else
        match splitWhitespace trimmed with
        | [] => matchLines packageName matchedDigest lines
        | [digest, name] =>
            if stripPrefix '*' name = packageName.toList then do
              validateSha256Hex digest
              if matchedDigest.isSome then
                .error s!"checksum manifest contains duplicate entries for {packageName}"
              else matchLines packageName (some digest) lines
            else matchLines packageName matchedDigest lines
        | _ => .error "checksum manifest contains a malformed line"

def expectedDigestFromManifest (manifest : List Char) (packageName : String) :
    Except Error (List Char) := do
  match ← matchLines packageName none (lines manifest) with
  | some digest => .ok digest
  | none => .error s!"checksum manifest does not contain {packageName}"

/-- A manifest whose names all differ from the package's has no digest for
it. -/
theorem matchLines_eq_none {packageName : String} {entries : List (List Char)}
    (hentries : ∀ line ∈ entries, ∃ digest name,
      trim line ≠ [] ∧ splitWhitespace (trim line) = [digest, name] ∧
        stripPrefix '*' name ≠ packageName.toList) :
    matchLines packageName none entries = .ok none := by
  induction entries with
  | nil => rfl
  | cons line entries ih =>
      obtain ⟨hline, hrest⟩ := List.forall_mem_cons.mp hentries
      obtain ⟨digest, name, hne, hwords, hname⟩ := hline
      rw [matchLines, if_neg (by simpa using hne), hwords]
      simp only [if_neg hname]
      exact ih hrest

/-! ## The grammar -/

/-- A line that is not blank is a digest and a name. -/
def WellFormed (line : List Char) : Prop :=
  (∃ char ∈ line, isWhitespace char = false) →
    (splitWhitespace line).length = 2

/-- The line gives this digest to the package. -/
def Names (packageName : String) (line digest : List Char) : Prop :=
  ∃ name, splitWhitespace line = [digest, name] ∧
    stripPrefix '*' name = packageName.toList

def IsSha256Hex (digest : List Char) : Prop :=
  digest.length = 64 ∧ ∀ char ∈ digest, isAsciiHexdigit char = true

/-- The manifest is in its grammar and gives the package exactly one
digest. -/
structure Determines (manifest : List Char) (packageName : String)
    (digest : List Char) : Prop where
  wellFormed : ∀ line ∈ lines manifest, WellFormed line
  single : ∃ before line after, lines manifest = before ++ line :: after ∧
    Names packageName line digest ∧
    ∀ other ∈ before ++ after, ∀ otherDigest,
      ¬Names packageName other otherDigest
  hex : IsSha256Hex digest

theorem validateSha256Hex_eq_ok_iff (digest : List Char) :
    validateSha256Hex digest = .ok () ↔ IsSha256Hex digest := by
  rw [validateSha256Hex, bailIf_eq_ok, not_or, not_not, not_not,
    List.all_eq_true]
  constructor
  · rintro ⟨hlength, hdigits⟩
    exact ⟨byteLength_of_isAsciiHexdigit hdigits ▸ hlength, hdigits⟩
  · rintro ⟨hlength, hdigits⟩
    exact ⟨(byteLength_of_isAsciiHexdigit hdigits).trans hlength, hdigits⟩

theorem wellFormed_iff (line : List Char) :
    WellFormed line ↔
      splitWhitespace line = [] ∨ (splitWhitespace line).length = 2 := by
  have hblank : splitWhitespace line = [] ↔
      ¬∃ char ∈ line, isWhitespace char = false := by
    rw [splitWhitespace_eq_nil_iff]
    simp
  rw [WellFormed, hblank, or_iff_not_imp_left, not_not]

/-- The digest a line gives to the package. -/
def namedDigest (packageName : String) (line : List Char) :
    Option (List Char) :=
  match splitWhitespace line with
  | [digest, name] =>
      if stripPrefix '*' name = packageName.toList then some digest else none
  | _ => none

theorem namedDigest_eq_some_iff (packageName : String)
    (line digest : List Char) :
    namedDigest packageName line = some digest ↔
      Names packageName line digest := by
  rw [namedDigest, Names]
  split
  · next found name hfields =>
      rw [hfields]
      split
      · next hname => simp [hname]
      · next hname => simp [hname]
  · next hfields =>
      constructor
      · rintro ⟨⟩
      · rintro ⟨name, hname, _⟩
        exact absurd hname (hfields digest name)

/-- One line of the loop; the line need not be trimmed to be read. -/
theorem matchLines_cons (packageName : String)
    (matchedDigest : Option (List Char)) (line : List Char)
    (entries : List (List Char)) :
    matchLines packageName matchedDigest (line :: entries) =
      match splitWhitespace line with
      | [] => matchLines packageName matchedDigest entries
      | [digest, name] =>
          if stripPrefix '*' name = packageName.toList then do
            validateSha256Hex digest
            if matchedDigest.isSome then
              .error s!"checksum manifest contains duplicate entries for {packageName}"
            else matchLines packageName (some digest) entries
          else matchLines packageName matchedDigest entries
      | _ => .error "checksum manifest contains a malformed line" := by
  rw [matchLines, splitWhitespace_trim]
  split
  · next hempty =>
      have hblank : splitWhitespace line = [] := by
        rw [← splitWhitespace_trim, List.isEmpty_iff.mp hempty]
        rfl
      rw [hblank]
  · rfl

/-- The loop succeeds exactly when every line is well formed and no digest
follows another one. -/
theorem matchLines_eq_ok_iff (packageName : String)
    (matchedDigest result : Option (List Char))
    (entries : List (List Char)) :
    matchLines packageName matchedDigest entries = .ok result ↔
      (∀ line ∈ entries, WellFormed line) ∧
        (∀ digest ∈ entries.filterMap (namedDigest packageName),
          IsSha256Hex digest) ∧
        matchedDigest.toList ++ entries.filterMap (namedDigest packageName) =
          result.toList := by
  induction entries generalizing matchedDigest with
  | nil =>
      rw [matchLines, List.filterMap_nil, List.append_nil, Except.ok.injEq]
      cases matchedDigest <;> cases result <;> simp
  | cons line entries ih =>
      rw [matchLines_cons, List.forall_mem_cons, wellFormed_iff]
      split
      · next hfields =>
          have hnone : namedDigest packageName line = none := by
            rw [namedDigest, hfields]
          rw [ih, List.filterMap_cons_none hnone, hfields]
          simp
      · next digest name hfields =>
          rw [hfields]
          simp only [List.length_cons, List.length_nil, reduceCtorEq,
            false_or, true_and]
          split
          · next hname =>
              have hsome : namedDigest packageName line = some digest :=
                (namedDigest_eq_some_iff _ _ _).mpr ⟨name, hfields, hname⟩
              rw [check_bind_eq_ok, validateSha256Hex_eq_ok_iff,
                List.filterMap_cons_some hsome, List.forall_mem_cons]
              cases matchedDigest with
              | some earlier =>
                  -- A second digest for the package is an error here, and one
                  -- digest too many for the result.
                  cases result <;> simp
              | none =>
                  rw [Option.isSome_none, if_neg Bool.false_ne_true, ih]
                  simp only [Option.toList_some, Option.toList_none,
                    List.singleton_append, List.nil_append]
                  tauto
          · next hname =>
              have hnone : namedDigest packageName line = none := by
                rw [namedDigest, hfields]
                exact if_neg hname
              rw [ih, List.filterMap_cons_none hnone]
      · next hnone hpair =>
          have hfields : ¬(splitWhitespace line = [] ∨
              (splitWhitespace line).length = 2) := by
            rintro (hempty | htwo)
            · exact hnone hempty
            · obtain ⟨digest, name, hfound⟩ := List.length_eq_two.mp htwo
              exact hpair digest name hfound
          simp [hfields]

/-- The loop keeps a single digest exactly when one line gives it. -/
theorem filterMap_namedDigest_eq_singleton_iff (packageName : String)
    (entries : List (List Char)) (digest : List Char) :
    entries.filterMap (namedDigest packageName) = [digest] ↔
      ∃ before line after, entries = before ++ line :: after ∧
        Names packageName line digest ∧
        ∀ other ∈ before ++ after, ∀ otherDigest,
          ¬Names packageName other otherDigest := by
  have hnone : ∀ line, namedDigest packageName line = none ↔
      ∀ digest, ¬Names packageName line digest := by
    intro line
    rw [Option.eq_none_iff_forall_ne_some]
    simp only [ne_eq, namedDigest_eq_some_iff]
  rw [List.filterMap_eq_cons_iff]
  simp only [List.filterMap_eq_nil_iff, hnone, namedDigest_eq_some_iff,
    List.forall_mem_append]
  constructor
  · rintro ⟨before, line, after, hentries, hbefore, hline, hafter⟩
    exact ⟨before, line, after, hentries, hline, hbefore, hafter⟩
  · rintro ⟨before, line, after, hentries, hline, hbefore, hafter⟩
    exact ⟨before, line, after, hentries, hbefore, hline, hafter⟩

/-- The lookup returns a digest exactly when the manifest determines it, and
fails on every other text. -/
theorem expectedDigestFromManifest_eq_ok_iff (manifest : List Char)
    (packageName : String) :
    (∀ digest, expectedDigestFromManifest manifest packageName = .ok digest ↔
        Determines manifest packageName digest) ∧
      ((¬∃ digest, Determines manifest packageName digest) →
        ∃ message, expectedDigestFromManifest manifest packageName =
          .error message) := by
  have hlookup : ∀ digest,
      expectedDigestFromManifest manifest packageName = .ok digest ↔
        Determines manifest packageName digest := by
    intro digest
    have hmatched : expectedDigestFromManifest manifest packageName =
        .ok digest ↔
          matchLines packageName none (lines manifest) = .ok (some digest) := by
      rw [expectedDigestFromManifest]
      cases matchLines packageName none (lines manifest) with
      | error message => simp [bind, Except.bind]
      | ok found => cases found <;> simp [bind, Except.bind]
    rw [hmatched, matchLines_eq_ok_iff, Option.toList_none, List.nil_append,
      Option.toList_some]
    constructor
    · rintro ⟨hlines, hhex, hsingle⟩
      have hmem : digest ∈
          (lines manifest).filterMap (namedDigest packageName) :=
        hsingle ▸ List.mem_singleton_self digest
      exact ⟨hlines, (filterMap_namedDigest_eq_singleton_iff _ _ _).mp hsingle,
        hhex digest hmem⟩
    · intro hdetermines
      have hsingle := (filterMap_namedDigest_eq_singleton_iff _ _ _).mpr
        hdetermines.single
      refine ⟨hdetermines.wellFormed, fun found hfound => ?_, hsingle⟩
      rw [hsingle, List.mem_singleton] at hfound
      exact hfound ▸ hdetermines.hex
  refine ⟨hlookup, fun hnone => ?_⟩
  cases hresult : expectedDigestFromManifest manifest packageName with
  | error message => exact ⟨message, rfl⟩
  | ok digest => exact absurd ⟨digest, (hlookup digest).mp hresult⟩ hnone

end SshKnock

import Mathlib.Data.List.TakeWhile
import SshKnock.Update.Manifest

/-!
# The published release and the updater

The release workflow writes the manifest with the package paths as it lists
them, while the packages are published under their base names.  The updater
looks for the base name and never finds it.
-/

namespace SshKnock

open SshKnock.Text

structure ReleaseAsset where
  name : String
  browserDownloadUrl : String

structure GitHubRelease where
  tagName : String
  assets : List ReleaseAsset

def packageArchNames (extension arch : String) : Except Error (List String) :=
  match extension, arch with
  | "deb", "amd64" => .ok ["amd64"]
  | "deb", "arm64" => .ok ["arm64"]
  | "rpm", "amd64" => .ok ["x86_64"]
  | "rpm", "arm64" => .ok ["aarch64", "arm64"]
  | _, _ => .error "unsupported package architecture mapping"

def selectReleaseAsset (release : GitHubRelease) (extension arch : String) :
    Except Error ReleaseAsset := do
  let archNames ← packageArchNames extension arch
  let suffix := "." ++ extension
  let asset? := release.assets.find? fun asset =>
    decide (suffix.toList <:+ asset.name.toList) &&
      archNames.any fun archName =>
        decide (archName.toList <:+: asset.name.toList)
  match asset? with
  | some asset => .ok asset
  | none =>
      let names := ", ".intercalate archNames
      .error s!"release does not contain a .{extension} package for any of: {names}"

/-! ## The release workflow -/

/-- The four packages, by package format and architecture. -/
inductive Package where
  | debAmd64
  | rpmAmd64
  | debArm64
  | rpmArm64
  deriving DecidableEq

/-- The packages in the order in which the workflow lists them. -/
def packages : List Package :=
  [.debAmd64, .rpmAmd64, .debArm64, .rpmArm64]

namespace Package

def extension : Package → String
  | .debAmd64 | .debArm64 => "deb"
  | .rpmAmd64 | .rpmArm64 => "rpm"

def arch : Package → String
  | .debAmd64 | .rpmAmd64 => "amd64"
  | .debArm64 | .rpmArm64 => "arm64"

/-- What stands before and after the version in the package's path. -/
def pathParts : Package → String × String
  | .debAmd64 => ("dist/amd64/debian/sshknockd_", "-1_amd64.deb")
  | .rpmAmd64 => ("dist/amd64/generate-rpm/sshknockd-", "-1.x86_64.rpm")
  | .debArm64 => ("dist/arm64/debian/sshknockd_", "-1_arm64.deb")
  | .rpmArm64 => ("dist/arm64/generate-rpm/sshknockd-", "-1.aarch64.rpm")

def path (version : List Char) (package : Package) : List Char :=
  package.pathParts.1.toList ++ version ++ package.pathParts.2.toList

end Package

/-- A release version; no shell would take one with blanks in it. -/
structure Version where
  chars : List Char
  no_whitespace : ∀ char ∈ chars, isWhitespace char = false

/-- A digest as `sha256sum` prints it. -/
structure Sha256Hex where
  chars : List Char
  length_eq : chars.length = 64
  digits : ∀ char ∈ chars, isAsciiHexdigit char = true

/-- One line of `sha256sum`: the digest, two blanks and the path as given. -/
def manifestLine (digest : Sha256Hex) (path : List Char) : List Char :=
  digest.chars ++ ' ' :: ' ' :: path

/-- The manifest that the workflow signs and publishes. -/
def releaseManifest (version : Version) (digest : Package → Sha256Hex) :
    List Char :=
  packages.flatMap fun package =>
    manifestLine (digest package) (package.path version.chars) ++ ['\n']

/-- What follows the last slash. -/
def baseName (path : List Char) : List Char :=
  (path.reverse.takeWhile (· ≠ '/')).reverse

/-- The paths that the workflow publishes. -/
def publishedPaths (version : Version) : List (List Char) :=
  packages.map (·.path version.chars) ++
    ["dist/SHA256SUMS".toList, "dist/SHA256SUMS.sig".toList]

/-- A release whose assets carry the base names, in any order. -/
structure PublishedRelease (version : Version) extends GitHubRelease where
  published : (assets.map (·.name.toList)).Perm
    ((publishedPaths version).map baseName)

/-- The updater picks the package built for its architecture and finds its
digest in the manifest. -/
def UpdaterAgrees (version : Version) (digest : Package → Sha256Hex)
    (release : GitHubRelease) (package : Package) : Prop :=
  ∃ asset,
    selectReleaseAsset release package.extension package.arch = .ok asset ∧
      asset.name.toList = baseName (package.path version.chars) ∧
      expectedDigestFromManifest (releaseManifest version digest) asset.name =
        .ok (digest package).chars

namespace Package

theorem path_noWhitespace (version : Version) (package : Package) :
    ∀ char ∈ package.path version.chars, isWhitespace char = false := by
  have hparts : ∀ char ∈ package.pathParts.1.toList ++
      package.pathParts.2.toList, isWhitespace char = false := by
    apply noWhitespace_of_all
    cases package <;> decide
  intro char hchar
  simp only [path, List.mem_append] at hchar hparts
  rcases hchar with (hbefore | hversion) | hafter
  · exact hparts char (Or.inl hbefore)
  · exact version.no_whitespace char hversion
  · exact hparts char (Or.inr hafter)

theorem path_eq_cons (version : List Char) (package : Package) :
    ∃ rest, package.path version = 'd' :: rest ∧ '/' ∈ rest := by
  cases package <;>
    exact ⟨_, rfl, List.mem_append_left _ (List.mem_append_left _ (by decide))⟩

end Package

theorem slash_notMem_baseName (path : List Char) : '/' ∉ baseName path := by
  rw [baseName]
  rw [List.mem_reverse]
  intro hslash
  exact absurd (List.mem_takeWhile_imp hslash) (by simp)

theorem Sha256Hex.noWhitespace (digest : Sha256Hex) :
    ∀ char ∈ digest.chars, isWhitespace char = false :=
  fun char hchar => isWhitespace_of_isAsciiHexdigit (digest.digits char hchar)

theorem Sha256Hex.chars_ne_nil (digest : Sha256Hex) : digest.chars ≠ [] :=
  List.ne_nil_of_length_pos (by rw [digest.length_eq]; decide)

section ManifestLine

variable (digest : Sha256Hex) (version : Version) (package : Package)

theorem whitespace_of_mem_manifestLine {char : Char}
    (hchar : char ∈ manifestLine digest (package.path version.chars))
    (hwhitespace : isWhitespace char = true) : char = ' ' := by
  simp only [manifestLine, List.mem_append, List.mem_cons] at hchar
  rcases hchar with hdigest | rfl | rfl | hpath
  · rw [digest.noWhitespace char hdigest] at hwhitespace
    cases hwhitespace
  · rfl
  · rfl
  · rw [package.path_noWhitespace version char hpath] at hwhitespace
    cases hwhitespace

theorem trim_manifestLine :
    trim (manifestLine digest (package.path version.chars)) =
      manifestLine digest (package.path version.chars) := by
  obtain ⟨rest, hpath, -⟩ := package.path_eq_cons version.chars
  have hpathNe : package.path version.chars ≠ [] := by simp [hpath]
  apply trim_eq_self
  · intro char hhead
    rw [manifestLine, List.head?_append_of_ne_nil _ digest.chars_ne_nil] at hhead
    exact digest.noWhitespace char (List.mem_of_head? hhead)
  · intro char hlast
    rw [manifestLine, List.getLast?_append_of_ne_nil _ (by simp),
      List.getLast?_cons_of_ne_nil (by simp),
      List.getLast?_cons_of_ne_nil hpathNe] at hlast
    exact package.path_noWhitespace version char (List.mem_of_getLast? hlast)

theorem splitWhitespace_manifestLine :
    splitWhitespace (manifestLine digest (package.path version.chars)) =
      [digest.chars, package.path version.chars] := by
  obtain ⟨rest, hpath, -⟩ := package.path_eq_cons version.chars
  exact splitWhitespace_pair digest.noWhitespace digest.chars_ne_nil
    (package.path_noWhitespace version) (by simp [hpath])

end ManifestLine

theorem lines_releaseManifest (version : Version)
    (digest : Package → Sha256Hex) :
    lines (releaseManifest version digest) =
      packages.map fun package =>
        manifestLine (digest package) (package.path version.chars) := by
  have hline : ∀ package rest,
      lines (manifestLine (digest package) (package.path version.chars) ++
        '\n' :: rest) =
        manifestLine (digest package) (package.path version.chars) ::
          lines rest := by
    intro package rest
    apply lines_append
    · intro hfeed
      cases whitespace_of_mem_manifestLine _ version package hfeed rfl
    · intro hreturn
      cases whitespace_of_mem_manifestLine _ version package hreturn rfl
  simp only [releaseManifest, packages, List.flatMap_cons, List.flatMap_nil,
    List.append_assoc, List.singleton_append, List.append_nil, hline,
    List.map_cons, List.map_nil, lines_nil]

/-- No published name occurs in the manifest: names there are paths. -/
theorem expectedDigest_of_baseName (version : Version)
    (digest : Package → Sha256Hex) (packageName : String)
    (hname : '/' ∉ packageName.toList) :
    expectedDigestFromManifest (releaseManifest version digest) packageName =
      .error s!"checksum manifest does not contain {packageName}" := by
  have hnone : matchLines packageName none
      (lines (releaseManifest version digest)) = .ok none := by
    apply matchLines_eq_none
    rw [lines_releaseManifest]
    intro line hline
    obtain ⟨package, -, rfl⟩ := List.mem_map.mp hline
    obtain ⟨rest, hpath, hslash⟩ := package.path_eq_cons version.chars
    refine ⟨(digest package).chars, package.path version.chars, ?_, ?_, ?_⟩
    · rw [trim_manifestLine]
      simp [manifestLine]
    · rw [trim_manifestLine, splitWhitespace_manifestLine]
    · intro hsame
      rw [hpath] at hsame
      exact hname (hsame ▸ List.mem_cons_of_mem _ hslash)
  rw [expectedDigestFromManifest, hnone]
  rfl

/-- Whatever the version, the package contents and the order of the assets,
the updater finds no digest for any of the four packages. -/
theorem updater_never_agrees (version : Version)
    (sha256 : List UInt8 → Sha256Hex) (contents : Package → List UInt8)
    (release : PublishedRelease version) (package : Package) :
    ¬UpdaterAgrees version (fun package => sha256 (contents package))
      release.toGitHubRelease package := by
  rintro ⟨asset, -, hname, hdigest⟩
  rw [expectedDigest_of_baseName _ _ _
    (hname ▸ slash_notMem_baseName _)] at hdigest
  cases hdigest

/-- The version that the sources carry. -/
def version024 : Version where
  chars := "0.2.4".toList
  no_whitespace := noWhitespace_of_all (by decide)

def zeroDigest : Sha256Hex where
  chars := List.replicate 64 '0'
  length_eq := rfl
  digits := List.all_eq_true.mp (by decide)

/-- The release as the workflow uploads it. -/
def release024 : PublishedRelease version024 where
  tagName := "v0.2.4"
  assets := ((publishedPaths version024).map baseName).map fun name =>
    ⟨String.ofList name, "https://example.invalid/" ++ String.ofList name⟩
  published := .of_eq (by decide)

/-- The right package is chosen and its digest is not found. -/
theorem updater_disagrees_on_release :
    (selectReleaseAsset release024.toGitHubRelease "deb" "amd64").map
        (·.name) = .ok "sshknockd_0.2.4-1_amd64.deb" ∧
      expectedDigestFromManifest
          (releaseManifest version024 fun _ => zeroDigest)
          "sshknockd_0.2.4-1_amd64.deb" =
        .error ("checksum manifest does not contain " ++
          "sshknockd_0.2.4-1_amd64.deb") ∧
      ¬UpdaterAgrees version024 (fun _ => zeroDigest)
        release024.toGitHubRelease .debAmd64 := by
  refine ⟨by decide, ?_, ?_⟩
  · rw [expectedDigest_of_baseName _ _ _ (by decide)]
    rfl
  · rintro ⟨asset, -, hname, hdigest⟩
    rw [expectedDigest_of_baseName _ _ _
      (hname ▸ slash_notMem_baseName _)] at hdigest
    cases hdigest

end SshKnock

import SshKnock.Core.Fallible
import SshKnock.Firewall.Commands
import SshKnock.Update.Release

/-!
# The updater

The updater downloads the latest release into a private directory, checks the
package against the signed manifest, installs it and restarts the service.  The
machine it runs on may answer every step in any way; what a download leaves in
the directory stays there until it is read.
-/

namespace SshKnock

open Fallible SshKnock.Text

abbrev Bytes := List UInt8

/-- What the updater relies on: its process, the architecture it is built for,
the JSON parser, the signature scheme and the hash function. -/
structure Platform (Key Signature : Type) where
  processId : ℕ
  arch : String
  parseRelease : Bytes → Option GitHubRelease
  keyFromBytes : Bytes → Option Key
  signatureFromSlice : Bytes → Option Signature
  verifyStrict : Key → Bytes → Signature → Bool
  sha256 : Bytes → Bytes

/-- What a download ends with: nothing when curl does not start, or whether it
succeeds; and the file it leaves, if any. -/
structure Download where
  status : Option Bool
  written : Option Bytes

/-- The machine.  A command answers nothing when it does not start. -/
class UpdateHost (H : Type) where
  fetch : H → Option (Bool × Bytes) × H
  readOsRelease : H → Option String × H
  removeDir : String → H → H
  createDir : String → H → Bool × H
  download : String → String → H → Download × H
  readable : String → H → Bool × H
  execute : CommandSpec → H → Option Bool × H

/-- What the updater does to the machine. -/
inductive Effect where
  | fetch (reply : Option (Bool × Bytes))
  | removeDir (path : String)
  | createDir (path : String) (created : Bool)
  | download (url path : String) (reply : Download)
  | execute (command : CommandSpec) (reply : Option Bool)

/-- The machine, the files in the staging directory and what has been done. -/
structure Updater (H : Type) where
  host : H
  files : String → Option Bytes
  effects : List Effect

abbrev UpdateM (H : Type) := Fallible (Updater H) Error

def currentVersion : String := "0.2.4"

def checksumManifest : String := "SHA256SUMS"

def checksumSignature : String := "SHA256SUMS.sig"

def releaseSigningPublicKey : Bytes :=
  [0x5a, 0x2a, 0x99, 0xc1, 0x95, 0xe6, 0xeb, 0x89, 0xfb, 0xe9, 0x0c, 0xbf,
    0x05, 0x19, 0x41, 0xa2, 0x98, 0xaa, 0x75, 0xc4, 0x21, 0xf8, 0x44, 0xbb,
    0xab, 0x86, 0xd7, 0x98, 0x04, 0x7d, 0x34, 0xbe]

/-! ## Pure steps -/

def containsText (text pattern : String) : Bool :=
  decide (pattern.toList <:+: text.toList)

def detectPackageExtension (osRelease : String) : Except Error String :=
  if ["ID_LIKE=rhel", "ID_LIKE=\"rhel", "ID=centos", "ID=fedora", "ID=rhel",
      "ID=rocky", "ID=almalinux"].any (containsText osRelease) then
    .ok "rpm"
  else if ["ID_LIKE=debian", "ID_LIKE=\"debian", "ID=debian",
      "ID=ubuntu"].any (containsText osRelease) then
    .ok "deb"
  else .error "unsupported Linux distribution for automatic package selection"

def detectArchitecture : String → Except Error String
  | "x86_64" => .ok "amd64"
  | "aarch64" => .ok "arm64"
  | _ => .error "unsupported CPU architecture for automatic package selection"

def selectNamedReleaseAsset (release : GitHubRelease) (name : String) :
    Except Error ReleaseAsset :=
  match release.assets.find? fun asset => asset.name = name with
  | some asset => .ok asset
  | none => .error s!"release does not contain required asset {name}"

def IsHttps (url : String) : Prop :=
  "https://".toList <+: url.toList

instance (url : String) : Decidable (IsHttps url) :=
  inferInstanceAs (Decidable (_ <+: _))

def ensureHttpsUrl (url : String) : Except Error Unit :=
  bailIf (¬IsHttps url) "release asset download URL must use HTTPS"

/-- Two lowercase digits for each byte. -/
def lowerHex (bytes : Bytes) : List Char :=
  bytes.flatMap fun byte =>
    [Nat.digitChar (byte.toNat / 16), Nat.digitChar (byte.toNat % 16)]

def equalIgnoringAsciiCase (left right : List Char) : Bool :=
  left.map Char.toLower = right.map Char.toLower

theorem map_toLower_lowerHex (bytes : Bytes) :
    (lowerHex bytes).map Char.toLower = lowerHex bytes := by
  have hdigit : ∀ digit : Fin 16,
      (Nat.digitChar digit).toLower = Nat.digitChar digit := by decide
  rw [lowerHex, List.map_flatMap]
  congr 1
  funext byte
  have hhigh := hdigit ⟨byte.toNat / 16,
    Nat.div_lt_of_lt_mul byte.toNat_lt⟩
  have hlow := hdigit ⟨byte.toNat % 16, Nat.mod_lt _ (by decide)⟩
  rw [List.map_cons, List.map_cons, List.map_nil, hhigh, hlow]

/-- A digest is compared with small digits. -/
theorem equalIgnoringAsciiCase_lowerHex_iff (bytes : Bytes)
    (digest : List Char) :
    equalIgnoringAsciiCase (lowerHex bytes) digest = true ↔
      digest.map Char.toLower = lowerHex bytes := by
  rw [equalIgnoringAsciiCase, decide_eq_true_eq, map_toLower_lowerHex]
  exact eq_comm

section

variable {Key Signature : Type} (platform : Platform Key Signature)

def verifyManifestSignature (manifest signature : Bytes) : Except Error Unit :=
  match platform.keyFromBytes releaseSigningPublicKey with
  | none => .error "release signing public key is invalid"
  | some verifyingKey =>
      match platform.signatureFromSlice signature with
      | none => .error "release checksum signature is invalid"
      | some signature =>
          if platform.verifyStrict verifyingKey manifest signature then .ok ()
          else .error "release checksum signature verification failed"

end

def installCommand (packagePath extension : String) :
    Except Error CommandSpec :=
  match extension with
  | "deb" => .ok { program := "dpkg", args := ["-i", packagePath] }
  | "rpm" => .ok { program := "rpm", args := ["-Uvh", packagePath] }
  | _ => .error "unsupported package extension"

def restartCommand : CommandSpec :=
  { program := "systemctl", args := ["restart", "sshknockd"] }

/-- A file in the staging directory. -/
def stagingPath (stagingDir name : String) : String :=
  stagingDir ++ "/" ++ name

def packagePath (stagingDir extension : String) : String :=
  stagingPath stagingDir ("sshknockd-update." ++ extension)

/-! ## Steps on the machine -/

namespace Updater

variable {H : Type} [UpdateHost H]

/-- The updater before it has done anything. -/
def idle (host : H) : Updater H :=
  { host, files := fun _ => none, effects := [] }

/-- Do something to the machine and note what. -/
def act {α : Type} (operate : H → α × H) (effect : α → Effect)
    (files : α → (String → Option Bytes) → String → Option Bytes) :
    UpdateM H α :=
  ExceptT.mk fun updater =>
    let (reply, host) := operate updater.host
    (.ok reply,
      { host, files := files reply updater.files
        effects := updater.effects ++ [effect reply] })

/-- Look at the machine without changing it. -/
def ask {α : Type} (operate : H → α × H) : UpdateM H α :=
  ExceptT.mk fun updater =>
    let (reply, host) := operate updater.host
    (.ok reply, { updater with host })

def fetch : UpdateM H (Option (Bool × Bytes)) :=
  act UpdateHost.fetch .fetch fun _ files => files

def removeDir (path : String) : UpdateM H Unit :=
  act (fun host => ((), UpdateHost.removeDir path host))
    (fun _ => .removeDir path) fun _ _ _ => none

def createDir (path : String) : UpdateM H Bool :=
  act (UpdateHost.createDir path) (.createDir path) fun _ files => files

def download (url path : String) : UpdateM H Download :=
  act (UpdateHost.download url path) (.download url path)
    fun reply files => Function.update files path reply.written

def execute (command : CommandSpec) : UpdateM H (Option Bool) :=
  act (UpdateHost.execute command) (.execute command) fun _ files => files

/-- The contents of a file, which has to exist and to be readable. -/
def read (path : String) (context : Error) : UpdateM H Bytes := do
  let readable ← ask (UpdateHost.readable path)
  let updater ← get
  orThrow context (if readable then updater.files path else none)

end Updater

section

open Updater

variable {H Key Signature : Type} [UpdateHost H]
  (platform : Platform Key Signature)

def fetchLatestRelease : UpdateM H GitHubRelease := do
  match ← fetch with
  | none => throw "failed to execute curl"
  | some (false, _) =>
      throw "curl failed to fetch the latest GitHub release"
  | some (true, stdout) =>
      orThrow "failed to parse GitHub release response"
        (platform.parseRelease stdout)

def createPrivateStagingDir : UpdateM H String := do
  let stagingDir := s!"/tmp/sshknockd-staging-{platform.processId}"
  removeDir stagingDir
  if ← createDir stagingDir then pure stagingDir
  else throw s!"failed to create private staging directory {stagingDir}"

def downloadPackage (url path : String) : UpdateM H Unit := do
  ofExcept (ensureHttpsUrl url)
  let reply ← download url path
  match reply.status with
  | none => throw "failed to execute curl"
  | some false => throw "curl failed to download update package"
  | some true => pure ()

def verifyPackageAgainstSignedManifest (asset : ReleaseAsset)
    (packagePath manifestPath signaturePath : String) : UpdateM H Unit := do
  let manifest ←
    read manifestPath s!"failed to read checksum manifest {manifestPath}"
  let signature ←
    read signaturePath s!"failed to read checksum signature {signaturePath}"
  ofExcept (verifyManifestSignature platform manifest signature)
  let manifest ← orThrow "checksum manifest is not valid UTF-8"
    (String.fromUTF8? ⟨manifest.toArray⟩)
  let expectedHash ←
    ofExcept (expectedDigestFromManifest manifest.toList asset.name)
  let package ←
    read packagePath s!"failed to read downloaded package {packagePath}"
  let actualHash := lowerHex (platform.sha256 package)
  if equalIgnoringAsciiCase actualHash expectedHash then pure ()
  else
    let expected := String.ofList expectedHash
    let actual := String.ofList actualHash
    throw s!"downloaded package digest mismatch for {asset.name}: expected sha256:{expected}, got sha256:{actual}"

def installPackage (packagePath extension : String) : UpdateM H Unit := do
  let command ← ofExcept (installCommand packagePath extension)
  match ← execute command with
  | none => throw "failed to execute package installer"
  | some false => throw "package installer exited unsuccessfully"
  | some true => pure ()

def restartService : UpdateM H Unit := do
  match ← execute restartCommand with
  | none => throw "failed to execute systemctl"
  | some false =>
      throw "systemctl restart sshknockd exited unsuccessfully"
  | some true => pure ()

def stageVerifyAndInstall (asset manifestAsset signatureAsset : ReleaseAsset)
    (extension stagingDir : String) : UpdateM H Unit := do
  let packagePath := packagePath stagingDir extension
  let manifestPath := stagingPath stagingDir "SHA256SUMS"
  let signaturePath := stagingPath stagingDir "SHA256SUMS.sig"
  downloadPackage asset.browserDownloadUrl packagePath
  downloadPackage manifestAsset.browserDownloadUrl manifestPath
  downloadPackage signatureAsset.browserDownloadUrl signaturePath
  verifyPackageAgainstSignedManifest platform asset packagePath manifestPath
    signaturePath
  installPackage packagePath extension

/-- Stage, verify and install; the staging directory is removed whether that
succeeds or not. -/
def updateToRelease (release : GitHubRelease) : UpdateM H Unit := do
  let osRelease ← orThrow "failed to read /etc/os-release"
    (← ask UpdateHost.readOsRelease)
  let extension ← ofExcept (detectPackageExtension osRelease)
  let arch ← ofExcept (detectArchitecture platform.arch)
  let asset ← ofExcept (selectReleaseAsset release extension arch)
  let manifestAsset ←
    ofExcept (selectNamedReleaseAsset release checksumManifest)
  let signatureAsset ←
    ofExcept (selectNamedReleaseAsset release checksumSignature)
  let stagingDir ← createPrivateStagingDir platform
  let result ← attempt (stageVerifyAndInstall platform asset manifestAsset
    signatureAsset extension stagingDir)
  removeDir stagingDir
  ofExcept result
  restartService

def updateFromLatestRelease : UpdateM H Unit := do
  let release ← fetchLatestRelease platform
  let latestVersion := release.tagName.toList.dropWhile (· = 'v')
  if latestVersion = currentVersion.toList then pure ()
  else updateToRelease platform release

end

end SshKnock

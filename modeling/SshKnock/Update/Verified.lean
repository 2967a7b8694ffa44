import SshKnock.Core.Journal
import SshKnock.Update.Install

/-!
# Only a verified package is installed

Whatever the machine answers, the package installer runs only on a package
whose digest the signed manifest names, the service is restarted only after a
successful installation, and the staging directory is removed on every path.
-/

namespace SshKnock

open Fallible Updater

namespace CommandSpec

def IsInstaller (command : CommandSpec) : Prop :=
  command.program = "dpkg" ∨ command.program = "rpm"

def IsRestart (command : CommandSpec) : Prop :=
  command.program = "systemctl"

end CommandSpec

/-- A staging directory that was created has to be removed. -/
def Effect.answer? : Effect → Option Effect
  | .createDir path true => some (.removeDir path)
  | _ => none

variable {H Key Signature : Type} (platform : Platform Key Signature)

/-- The signature is one of the manifest under the embedded key, and the
manifest names the digest of the package, in capital or small digits. -/
structure Trusted (packageName : String) (package manifest signature : Bytes) :
    Prop where
  signed : ∃ verifyingKey verified,
    platform.keyFromBytes releaseSigningPublicKey = some verifyingKey ∧
      platform.signatureFromSlice signature = some verified ∧
      platform.verifyStrict verifyingKey manifest verified = true
  named : ∃ text digest,
    String.fromUTF8? ⟨manifest.toArray⟩ = some text ∧
      expectedDigestFromManifest text.toList packageName = .ok digest ∧
      digest.map Char.toLower = lowerHex (platform.sha256 package)

/-- Everything that was done before the installer is run: the release was
fetched, and its package, manifest and signature were downloaded over HTTPS
into a fresh directory and found trustworthy. -/
inductive Verified : List Effect → CommandSpec → Prop where
  | intro {stdout : Bytes} {release : GitHubRelease}
      {extension arch stagingDir : String}
      {asset manifestAsset signatureAsset : ReleaseAsset}
      {package manifest signature : Bytes} {command : CommandSpec}
      (hparsed : platform.parseRelease stdout = some release)
      (hasset : selectReleaseAsset release extension arch = .ok asset)
      (hmanifest : selectNamedReleaseAsset release checksumManifest =
        .ok manifestAsset)
      (hsignature : selectNamedReleaseAsset release checksumSignature =
        .ok signatureAsset)
      (hhttps : IsHttps asset.browserDownloadUrl ∧
        IsHttps manifestAsset.browserDownloadUrl ∧
        IsHttps signatureAsset.browserDownloadUrl)
      (htrusted : Trusted platform asset.name package manifest signature)
      (hcommand : installCommand (packagePath stagingDir extension) extension =
        .ok command) :
      Verified
        [.fetch (some (true, stdout)), .removeDir stagingDir,
          .createDir stagingDir true,
          .download asset.browserDownloadUrl (packagePath stagingDir extension)
            ⟨some true, some package⟩,
          .download manifestAsset.browserDownloadUrl
            (stagingPath stagingDir "SHA256SUMS") ⟨some true, some manifest⟩,
          .download signatureAsset.browserDownloadUrl
            (stagingPath stagingDir "SHA256SUMS.sig")
            ⟨some true, some signature⟩] command

/-- What has to come before an effect. -/
structure Allowed (before : List Effect) (effect : Effect) : Prop where
  installs : ∀ command reply, effect = .execute command reply →
    command.IsInstaller → Verified platform before command
  restarts : ∀ command reply, effect = .execute command reply →
    command.IsRestart → ∃ install : CommandSpec, install.IsInstaller ∧
      .execute install (some true) ∈ before

/-- Every effect was allowed, and what the effects call for has been done
except for what is still owed. -/
structure Sound (owed effects : List Effect) : Prop where
  justified : Journal.Justified (Allowed platform) effects
  settled : Journal.Settled Effect.answer? owed effects

variable {platform} {owed still effects : List Effect} {effect : Effect}

theorem sound_nil : Sound platform owed [] :=
  ⟨Journal.justified_nil, Journal.settled_nil⟩

theorem Sound.append (hsound : Sound platform owed effects)
    (hallowed : Allowed platform effects effect)
    (howed : ∀ answer ∈ owed, answer = effect ∨ answer ∈ still)
    (hnew : ∀ answer, effect.answer? = some answer → answer ∈ still) :
    Sound platform still (effects ++ [effect]) :=
  ⟨hsound.justified.append hallowed, hsound.settled.append howed hnew⟩

/-- What is not a command is always allowed. -/
theorem allowed_of_not_execute
    (hother : ∀ command reply, effect ≠ .execute command reply) :
    Allowed platform effects effect :=
  ⟨fun command reply heq => absurd heq (hother command reply),
    fun command reply heq => absurd heq (hother command reply)⟩

/-- Something else is done while the same is owed. -/
theorem Sound.append_same (hsound : Sound platform owed effects)
    (hallowed : Allowed platform effects effect)
    (hanswer : effect.answer? = none) :
    Sound platform owed (effects ++ [effect]) :=
  hsound.append hallowed (fun _ howed => Or.inr howed)
    fun answer hnew => by rw [hanswer] at hnew; cases hnew

namespace Updater

variable {files : String → Option Bytes}

/-- The updater has done exactly this and the directory holds these files. -/
structure At (effects : List Effect) (files : String → Option Bytes)
    (updater : Updater H) : Prop where
  effects_eq : updater.effects = effects
  files_eq : updater.files = files

/-- What has been done so far is sound. -/
def Safe (platform : Platform Key Signature) (owed : List Effect)
    (updater : Updater H) : Prop :=
  Sound platform owed updater.effects

theorem At.safe {updater : Updater H} (hat : At effects files updater)
    (hsound : Sound platform owed effects) : Safe platform owed updater := by
  rw [Safe, hat.effects_eq]
  exact hsound

variable {failed : Updater H → Prop} {α : Type}

theorem triple_act (operate : H → α × H) (noted : α → Effect)
    (change : α → (String → Option Bytes) → String → Option Bytes) :
    Triple (At effects files) (act operate noted change)
      (fun reply => At (effects ++ [noted reply]) (change reply files))
      failed := by
  intro updater hat
  exact ⟨congrArg (· ++ [_]) hat.effects_eq, congrArg _ hat.files_eq⟩

theorem triple_ask (operate : H → α × H) :
    Triple (At effects files) (ask operate) (fun _ => At effects files)
      failed :=
  fun _ hat => ⟨hat.effects_eq, hat.files_eq⟩

variable [UpdateHost H]

theorem triple_read (hsound : Sound platform owed effects) (path : String)
    (context : Error) :
    Triple (At effects files) (read path context : UpdateM H Bytes)
      (fun content updater => At effects files updater ∧
        files path = some content)
      (Safe platform owed) := by
  apply Triple.bind (triple_ask _)
  intro readable updater hat
  have hfound : Triple (At effects files)
      (orThrow context (if readable then updater.files path else none) :
        UpdateM H Bytes)
      (fun content found => At effects files found ∧
        (if readable then updater.files path else none) = some content)
      (Safe platform owed) :=
    Triple.orThrow fun _ hsame => hsame.safe hsound
  refine (hfound.imp_returned fun content found hcontent => ?_) updater hat
  obtain ⟨hsame, hcontent⟩ := hcontent
  split at hcontent
  · rw [hat.files_eq] at hcontent
    exact ⟨hsame, hcontent⟩
  · cases hcontent

theorem triple_createDir (path : String) :
    Triple (At effects files) (createDir path : UpdateM H Bool)
      (fun created => At (effects ++ [.createDir path created]) files)
      failed :=
  triple_act _ _ _

theorem triple_removeDir (path : String) :
    Triple (At effects files) (removeDir path : UpdateM H Unit)
      (fun _ => At (effects ++ [.removeDir path]) fun _ => none) failed :=
  triple_act _ _ _

theorem triple_download (url path : String) :
    Triple (At effects files) (download url path : UpdateM H Download)
      (fun reply => At (effects ++ [.download url path reply])
        (Function.update files path reply.written)) failed :=
  triple_act _ _ _

theorem triple_execute (command : CommandSpec) :
    Triple (At effects files) (execute command : UpdateM H (Option Bool))
      (fun reply => At (effects ++ [.execute command reply]) files) failed :=
  triple_act _ _ _

theorem triple_fetch :
    Triple (At effects files) (fetch : UpdateM H (Option (Bool × Bytes)))
      (fun reply => At (effects ++ [.fetch reply]) files) failed :=
  triple_act _ _ _

end Updater

section

variable [UpdateHost H] {files : String → Option Bytes}

theorem Sound.fetch (hsound : Sound platform owed effects)
    (reply : Option (Bool × Bytes)) :
    Sound platform owed (effects ++ [.fetch reply]) :=
  hsound.append_same (allowed_of_not_execute fun _ _ => by simp) rfl

/-- A directory may be removed at any time. -/
theorem Sound.removeStale (hsound : Sound platform owed effects)
    (path : String) :
    Sound platform owed (effects ++ [.removeDir path]) :=
  hsound.append_same (allowed_of_not_execute fun _ _ => by simp) rfl

theorem Sound.download (hsound : Sound platform owed effects)
    (url path : String) (reply : Download) :
    Sound platform owed (effects ++ [.download url path reply]) :=
  hsound.append_same (allowed_of_not_execute fun _ _ => by simp) rfl

theorem triple_fetchLatestRelease (hsound : Sound platform owed effects) :
    Triple (At effects files)
      (fetchLatestRelease platform : UpdateM H GitHubRelease)
      (fun release updater => ∃ stdout,
        At (effects ++ [.fetch (some (true, stdout))]) files updater ∧
          platform.parseRelease stdout = some release)
      (Safe platform owed) := by
  apply Triple.bind triple_fetch
  intro reply
  have hsafe : ∀ updater : Updater H,
      At (effects ++ [.fetch reply]) files updater →
        Safe platform owed updater :=
    fun _ hat => hat.safe (hsound.fetch reply)
  match reply, hsafe with
  | none, hsafe => exact Triple.throw hsafe
  | some (false, _), hsafe => exact Triple.throw hsafe
  | some (true, stdout), hsafe =>
      exact (Triple.orThrow hsafe).imp_returned
        fun release updater hparsed => ⟨stdout, hparsed⟩

/-- A download that succeeds was made over HTTPS. -/
theorem triple_downloadPackage (hsound : Sound platform owed effects)
    (url path : String) :
    Triple (At effects files) (downloadPackage url path : UpdateM H Unit)
      (fun _ updater => ∃ written, At
        (effects ++ [.download url path ⟨some true, written⟩])
        (Function.update files path written) updater ∧ IsHttps url)
      (Safe platform owed) := by
  apply Triple.ofExcept_bind fun _ hat => hat.safe hsound
  intro _ hhttps
  rw [ensureHttpsUrl, bailIf_eq_ok, not_not] at hhttps
  apply Triple.bind (triple_download url path)
  rintro ⟨status, written⟩
  have hsafe : ∀ updater : Updater H,
      At (effects ++ [.download url path ⟨status, written⟩])
        (Function.update files path written) updater →
        Safe platform owed updater :=
    fun _ hat => hat.safe (hsound.download url path _)
  match status, hsafe with
  | none, hsafe => exact Triple.throw hsafe
  | some false, hsafe => exact Triple.throw hsafe
  | some true, hsafe =>
      exact Triple.pure fun updater hat => ⟨written, hat, hhttps⟩

theorem verifyManifestSignature_eq_ok {manifest signature : Bytes}
    (hverified : verifyManifestSignature platform manifest signature = .ok ()) :
    ∃ verifyingKey verified,
      platform.keyFromBytes releaseSigningPublicKey = some verifyingKey ∧
        platform.signatureFromSlice signature = some verified ∧
        platform.verifyStrict verifyingKey manifest verified = true := by
  rw [verifyManifestSignature] at hverified
  split at hverified
  · cases hverified
  next verifyingKey hkey =>
  split at hverified
  · cases hverified
  next verified hsignature =>
  split at hverified
  · next hstrict => exact ⟨verifyingKey, verified, hkey, hsignature, hstrict⟩
  · cases hverified

/-- The check succeeds only on trustworthy files. -/
theorem triple_verify (hsound : Sound platform owed effects)
    (asset : ReleaseAsset) (package manifest signature : String) :
    Triple (At effects files)
      (verifyPackageAgainstSignedManifest platform asset package manifest
        signature : UpdateM H Unit)
      (fun _ updater => ∃ packageBytes manifestBytes signatureBytes,
        At effects files updater ∧ files package = some packageBytes ∧
          files manifest = some manifestBytes ∧
          files signature = some signatureBytes ∧
          Trusted platform asset.name packageBytes manifestBytes
            signatureBytes)
      (Safe platform owed) := by
  have hsafe : ∀ updater : Updater H, At effects files updater →
      Safe platform owed updater := fun _ hat => hat.safe hsound
  apply Triple.bind (triple_read hsound manifest _)
  intro manifestBytes
  apply Triple.assuming
  intro hmanifest
  apply Triple.bind (triple_read hsound signature _)
  intro signatureBytes
  apply Triple.assuming
  intro hsignature
  apply Triple.ofExcept_bind hsafe
  intro _ hverified
  apply Triple.orThrow_bind hsafe
  intro text htext
  apply Triple.ofExcept_bind hsafe
  intro digest hdigest
  apply Triple.bind (triple_read hsound package _)
  intro packageBytes
  apply Triple.assuming
  intro hpackage
  dsimp only
  split
  · next hequal =>
      apply Triple.pure
      intro updater hat
      exact ⟨packageBytes, manifestBytes, signatureBytes, hat, hpackage,
        hmanifest, hsignature, verifyManifestSignature_eq_ok hverified, text,
        digest, htext, hdigest,
        (equalIgnoringAsciiCase_lowerHex_iff _ _).mp hequal⟩
  · exact Triple.throw hsafe

theorem isInstaller_of_installCommand {packagePath extension : String}
    {command : CommandSpec}
    (hcommand : installCommand packagePath extension = .ok command) :
    command.IsInstaller ∧ ¬command.IsRestart := by
  simp only [installCommand] at hcommand
  split at hcommand
  · cases hcommand
    exact ⟨Or.inl rfl, by simp [CommandSpec.IsRestart]⟩
  · cases hcommand
    exact ⟨Or.inr rfl, by simp [CommandSpec.IsRestart]⟩
  · cases hcommand

/-- The installer is run after everything it has to wait for. -/
theorem Sound.install (hsound : Sound platform owed effects)
    {packagePath extension : String} {command : CommandSpec}
    (hcommand : installCommand packagePath extension = .ok command)
    (hverified : Verified platform effects command) (reply : Option Bool) :
    Sound platform owed (effects ++ [.execute command reply]) := by
  refine hsound.append_same ⟨?_, ?_⟩ rfl
  · rintro other otherReply heq -
    obtain ⟨rfl, rfl⟩ := Effect.execute.inj heq
    exact hverified
  · intro other otherReply heq hrestart
    obtain ⟨rfl, rfl⟩ := Effect.execute.inj heq
    exact absurd hrestart (isInstaller_of_installCommand hcommand).2

/-- The service may be restarted after an installation that succeeded. -/
theorem Sound.restart (hsound : Sound platform owed effects)
    {install : CommandSpec} (hinstaller : install.IsInstaller)
    (hinstalled : .execute install (some true) ∈ effects)
    (reply : Option Bool) :
    Sound platform owed (effects ++ [.execute restartCommand reply]) := by
  refine hsound.append_same ⟨?_, ?_⟩ rfl
  · intro other otherReply heq hother
    obtain ⟨rfl, rfl⟩ := Effect.execute.inj heq
    exact absurd hother (by simp [CommandSpec.IsInstaller, restartCommand])
  · intro other otherReply heq _
    exact ⟨install, hinstaller, hinstalled⟩

/-- The effects are sound and an installation has succeeded. -/
structure Installed (platform : Platform Key Signature) (owed : List Effect)
    (effects : List Effect) : Prop where
  sound : Sound platform owed effects
  installed : ∃ command : CommandSpec, command.IsInstaller ∧
    .execute command (some true) ∈ effects

theorem triple_installPackage (hsound : Sound platform owed effects)
    {path extension : String}
    (hverified : ∀ command, installCommand path extension = .ok command →
      Verified platform effects command) :
    Triple (At effects files) (installPackage path extension : UpdateM H Unit)
      (fun _ updater => Installed platform owed updater.effects)
      (Safe platform owed) := by
  apply Triple.ofExcept_bind fun _ hat => hat.safe hsound
  intro command hcommand
  have hverified := hverified command hcommand
  apply Triple.bind (triple_execute command)
  intro reply
  have hinstall := hsound.install hcommand hverified reply
  match reply, hinstall with
  | none, hinstall => exact Triple.throw fun _ hat => hat.safe hinstall
  | some false, hinstall => exact Triple.throw fun _ hat => hat.safe hinstall
  | some true, hinstall =>
      apply Triple.pure
      intro updater hat
      rw [hat.effects_eq]
      exact ⟨hinstall, command, (isInstaller_of_installCommand hcommand).1,
        List.mem_append_right _ (List.mem_singleton_self _)⟩

theorem triple_restartService (hsound : Sound platform owed effects)
    {install : CommandSpec} (hinstaller : install.IsInstaller)
    (hinstalled : .execute install (some true) ∈ effects) :
    Triple (At effects files) (restartService : UpdateM H Unit)
      (fun _ => Safe platform owed) (Safe platform owed) := by
  apply Triple.bind (triple_execute restartCommand)
  intro reply
  have hrestart := hsound.restart hinstaller hinstalled reply
  match reply, hrestart with
  | none, hrestart => exact Triple.throw fun _ hat => hat.safe hrestart
  | some false, hrestart => exact Triple.throw fun _ hat => hat.safe hrestart
  | some true, hrestart => exact Triple.pure fun _ hat => hat.safe hrestart

/-! ## The staging directory -/

theorem stagingPath_ne (stagingDir : String) {left right : String}
    (hne : left ≠ right) :
    stagingPath stagingDir left ≠ stagingPath stagingDir right := by
  intro heq
  have hlists := congrArg String.toList heq
  simp only [stagingPath, String.toList_append, List.append_assoc,
    List.append_cancel_left_eq] at hlists
  exact hne (String.toList_injective hlists)

theorem package_ne (extension : String) {name : String}
    (hname : name.toList.head? = some 'S') :
    "sshknockd-update." ++ extension ≠ name := by
  rintro rfl
  rw [String.toList_append] at hname
  cases hname

/-- What was done before the downloads start. -/
def staged (stdout : Bytes) (stagingDir : String) : List Effect :=
  [.fetch (some (true, stdout)), .removeDir stagingDir,
    .createDir stagingDir true]

/-- The installer is reached only with verified files. -/
theorem triple_stageVerifyAndInstall {stdout : Bytes} {release : GitHubRelease}
    {extension arch stagingDir : String}
    {asset manifestAsset signatureAsset : ReleaseAsset}
    (hsound : Sound platform owed (staged stdout stagingDir))
    (hparsed : platform.parseRelease stdout = some release)
    (hasset : selectReleaseAsset release extension arch = .ok asset)
    (hmanifest : selectNamedReleaseAsset release checksumManifest =
      .ok manifestAsset)
    (hsignature : selectNamedReleaseAsset release checksumSignature =
      .ok signatureAsset) :
    Triple (At (staged stdout stagingDir) files)
      (stageVerifyAndInstall platform asset manifestAsset signatureAsset
        extension stagingDir : UpdateM H Unit)
      (fun _ updater => Installed platform owed updater.effects)
      (Safe platform owed) := by
  have hpackageManifest : packagePath stagingDir extension ≠
      stagingPath stagingDir "SHA256SUMS" :=
    stagingPath_ne stagingDir (package_ne extension rfl)
  have hpackageSignature : packagePath stagingDir extension ≠
      stagingPath stagingDir "SHA256SUMS.sig" :=
    stagingPath_ne stagingDir (package_ne extension rfl)
  have hmanifestSignature : stagingPath stagingDir "SHA256SUMS" ≠
      stagingPath stagingDir "SHA256SUMS.sig" :=
    stagingPath_ne stagingDir (by decide)
  apply Triple.bind (triple_downloadPackage hsound _ _)
  intro _
  apply Triple.of_exists
  intro package
  apply Triple.assuming
  intro hpackageHttps
  have hsound := hsound.download asset.browserDownloadUrl
    (packagePath stagingDir extension) ⟨some true, package⟩
  apply Triple.bind (triple_downloadPackage hsound _ _)
  intro _
  apply Triple.of_exists
  intro manifest
  apply Triple.assuming
  intro hmanifestHttps
  have hsound := hsound.download manifestAsset.browserDownloadUrl
    (stagingPath stagingDir "SHA256SUMS") ⟨some true, manifest⟩
  apply Triple.bind (triple_downloadPackage hsound _ _)
  intro _
  apply Triple.of_exists
  intro signature
  apply Triple.assuming
  intro hsignatureHttps
  have hsound := hsound.download signatureAsset.browserDownloadUrl
    (stagingPath stagingDir "SHA256SUMS.sig") ⟨some true, signature⟩
  apply Triple.bind (triple_verify hsound asset _ _ _)
  intro _
  apply Triple.of_exists
  intro packageBytes
  apply Triple.of_exists
  intro manifestBytes
  apply Triple.of_exists
  intro signatureBytes
  apply Triple.assuming
  rintro ⟨hpackage, hmanifestRead, hsignatureRead, htrusted⟩
  rw [Function.update_of_ne hpackageSignature,
    Function.update_of_ne hpackageManifest, Function.update_self] at hpackage
  rw [Function.update_of_ne hmanifestSignature,
    Function.update_self] at hmanifestRead
  rw [Function.update_self] at hsignatureRead
  subst hpackage hmanifestRead hsignatureRead
  apply triple_installPackage hsound
  intro command hcommand
  exact .intro hparsed hasset hmanifest hsignature
    ⟨hpackageHttps, hmanifestHttps, hsignatureHttps⟩ htrusted hcommand

/-- Removing the directory settles what its creation called for. -/
theorem Sound.remove {path : String}
    (hsound : Sound platform [.removeDir path] effects) :
    Sound platform [] (effects ++ [.removeDir path]) :=
  hsound.append (allowed_of_not_execute fun _ _ => by simp)
    (fun _ howed => Or.inl (List.mem_singleton.mp howed))
    fun _ hnew => by cases hnew

theorem triple_createPrivateStagingDir {stdout : Bytes}
    (hsound : Sound platform [] [.fetch (some (true, stdout))]) :
    Triple (At [.fetch (some (true, stdout))] files)
      (createPrivateStagingDir platform : UpdateM H String)
      (fun stagingDir updater => (∃ files,
        At (staged stdout stagingDir) files updater) ∧
          Sound platform [.removeDir stagingDir] (staged stdout stagingDir))
      (Safe platform []) := by
  apply Triple.bind (triple_removeDir _)
  intro _
  apply Triple.bind (triple_createDir _)
  have hremoved := hsound.removeStale
    s!"/tmp/sshknockd-staging-{platform.processId}"
  intro created
  cases created with
  | false =>
      exact Triple.throw fun _ hat => hat.safe (hremoved.append_same
        (allowed_of_not_execute fun _ _ => by simp) rfl)
  | true =>
      apply Triple.pure
      intro updater hat
      refine ⟨⟨_, hat⟩, hremoved.append
        (allowed_of_not_execute fun _ _ => by simp)
        (fun _ howed => by cases howed) ?_⟩
      intro answer hanswer
      cases hanswer
      exact List.mem_singleton_self _

theorem triple_updateToRelease {stdout : Bytes} {release : GitHubRelease}
    (hsound : Sound platform [] [.fetch (some (true, stdout))])
    (hparsed : platform.parseRelease stdout = some release) :
    Triple (At [.fetch (some (true, stdout))] files)
      (updateToRelease platform release : UpdateM H Unit)
      (fun _ => Safe platform []) (Safe platform []) := by
  have hsafe : ∀ updater : Updater H,
      At [.fetch (some (true, stdout))] files updater →
        Safe platform [] updater := fun _ hat => hat.safe hsound
  apply Triple.bind (triple_ask _)
  intro osRelease?
  apply Triple.orThrow_bind hsafe
  intro osRelease _
  apply Triple.ofExcept_bind hsafe
  intro extension _
  apply Triple.ofExcept_bind hsafe
  intro arch _
  apply Triple.ofExcept_bind hsafe
  intro asset hasset
  apply Triple.ofExcept_bind hsafe
  intro manifestAsset hmanifest
  apply Triple.ofExcept_bind hsafe
  intro signatureAsset hsignature
  apply Triple.bind (triple_createPrivateStagingDir hsound)
  intro stagingDir
  apply Triple.assuming
  intro hstaged
  apply Triple.of_exists
  intro stagedFiles
  apply Triple.bind (Triple.attempt (triple_stageVerifyAndInstall hstaged
    hparsed hasset hmanifest hsignature))
  intro result updater hresult
  -- The removal is attempted on what either ending leaves behind.
  have hended : Sound platform [.removeDir stagingDir] updater.effects := by
    cases result with
    | error error => exact hresult
    | ok value => exact hresult.sound
  have hremoved := hended.remove
  refine Triple.bind (triple_removeDir stagingDir) (fun _ => ?_) updater
    ⟨rfl, rfl⟩
  cases result with
  | error error =>
      exact Triple.throw_bind fun _ hat => hat.safe hremoved
  | ok value =>
      obtain ⟨-, install, hinstaller, hinstalled⟩ := hresult
      exact triple_restartService hremoved hinstaller
        (List.mem_append_left _ hinstalled)

theorem triple_updateFromLatestRelease :
    Triple (At [] files)
      (updateFromLatestRelease platform : UpdateM H Unit)
      (fun _ => Safe platform []) (Safe platform []) := by
  apply Triple.bind (triple_fetchLatestRelease sound_nil)
  intro release
  apply Triple.of_exists
  intro stdout
  apply Triple.assuming
  intro hparsed
  have hsound : Sound platform [] [.fetch (some (true, stdout))] :=
    sound_nil.fetch (some (true, stdout))
  dsimp only
  split
  · exact Triple.pure fun _ hat => hat.safe hsound
  · exact triple_updateToRelease hsound hparsed

/-- What one update does to the machine, in order. -/
def updateEffects (platform : Platform Key Signature) (host : H) :
    List Effect :=
  (perform (updateFromLatestRelease platform) (idle host)).2.effects

theorem sound_updateEffects (platform : Platform Key Signature) (host : H) :
    Sound platform [] (updateEffects platform host) := by
  have htriple : Triple (At [] fun _ => none)
      (updateFromLatestRelease platform : UpdateM H Unit)
      (fun _ => Safe platform []) (Safe platform []) :=
    triple_updateFromLatestRelease
  have hended := htriple (idle host) ⟨rfl, rfl⟩
  rw [updateEffects]
  generalize perform (updateFromLatestRelease platform) (idle host) = run
    at hended ⊢
  obtain ⟨_ | _, updater⟩ := run <;> exact hended

/-- The updater does to the machine only what the effects before it allow, and
leaves no staging directory behind. -/
theorem installs_only_verified (platform : Platform Key Signature) (host : H) :
    (∀ before command reply after,
      updateEffects platform host = before ++ .execute command reply :: after →
        command.IsInstaller → Verified platform before command) ∧
    (∀ before command reply after,
      updateEffects platform host = before ++ .execute command reply :: after →
        command.IsRestart → ∃ install : CommandSpec, install.IsInstaller ∧
          .execute install (some true) ∈ before) ∧
    ∀ before stagingDir after,
      updateEffects platform host =
          before ++ .createDir stagingDir true :: after →
        .removeDir stagingDir ∈ after := by
  have hsound := sound_updateEffects platform host
  refine ⟨?_, ?_, ?_⟩
  · intro before command reply after hsplit
    have hallowed := hsound.justified before _ after hsplit
    exact hallowed.installs command reply rfl
  · intro before command reply after hsplit
    have hallowed := hsound.justified before _ after hsplit
    exact hallowed.restarts command reply rfl
  · intro before stagingDir after hsplit
    exact hsound.settled.answered hsplit rfl

end

/-! ## An update that goes through -/

/-- A machine on which every step succeeds and every file is the manifest. -/
structure ObligingMachine where

def zeroManifest : Bytes :=
  (List.replicate 64 '0' ++ "  sshknockd_amd64.deb\n".toList).map
    fun char => UInt8.ofNat char.toNat

instance : UpdateHost ObligingMachine where
  fetch host := (some (true, []), host)
  readOsRelease host := (some "ID=debian", host)
  removeDir _ host := host
  createDir _ host := (true, host)
  download _ _ host := (⟨some true, some zeroManifest⟩, host)
  readable _ host := (true, host)
  execute _ host := (some true, host)

/-- A platform that trusts every signature. -/
def trustingPlatform : Platform Unit Unit where
  processId := 7
  arch := "x86_64"
  parseRelease _ := some ⟨"v0.3.0",
    ["sshknockd_amd64.deb", checksumManifest, checksumSignature].map
      fun name => ⟨name, "https://example.invalid/" ++ name⟩⟩
  keyFromBytes _ := some ()
  signatureFromSlice _ := some ()
  verifyStrict _ _ _ := true
  sha256 _ := List.replicate 32 0

/-- The program that an effect runs. -/
def Effect.program? : Effect → Option String
  | .execute command _ => some command.program
  | _ => none

/-- The package is installed and the service restarted. -/
example :
    (updateEffects trustingPlatform ObligingMachine.mk).filterMap
      Effect.program? = ["dpkg", "systemctl"] := by
  decide +kernel

end SshKnock

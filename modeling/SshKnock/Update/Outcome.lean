import SshKnock.Update.Verified

/-!
# What an update reports

An update reports success exactly when the running version is the latest or
when all of it was done: a verified package was installed, the staging
directory removed and the service restarted.  An update that fails has
installed nothing, or it did all of this and only the restart failed.
-/

namespace SshKnock

open Fallible Updater

variable {H Key Signature : Type}

/-- The release is of the version that is running. -/
def GitHubRelease.IsCurrent (release : GitHubRelease) : Prop :=
  release.tagName.toList.dropWhile (· = 'v') = currentVersion.toList

/-- The effects of an update that leaves nothing to do. -/
inductive Completed (platform : Platform Key Signature) :
    List Effect → Prop where
  | current {stdout : Bytes} {release : GitHubRelease}
      (hparsed : platform.parseRelease stdout = some release)
      (hcurrent : release.IsCurrent) :
      Completed platform [.fetch (some (true, stdout))]
  | updated {stdout : Bytes} {release : GitHubRelease} {stagingDir : String}
      {before : List Effect} {command : CommandSpec}
      (hparsed : platform.parseRelease stdout = some release)
      (hnewer : ¬release.IsCurrent)
      (hfetched : before.head? = some (.fetch (some (true, stdout))))
      (hstaged : .createDir stagingDir true ∈ before)
      (hverified : Verified platform before command) :
      Completed platform (before ++ [.execute command (some true),
        .removeDir stagingDir, .execute restartCommand (some true)])

/-! ## Before the installer -/

/-- No command has been executed since the first effect, and all of this has
been done. -/
structure Preparing (first : Effect) (done effects : List Effect) : Prop where
  head_eq : effects.head? = some first
  no_command : ∀ command reply, .execute command reply ∉ effects
  has_done : ∀ effect ∈ done, effect ∈ effects

/-- No installation has succeeded. -/
structure Uninstalled (first : Effect) (effects : List Effect) : Prop where
  head_eq : effects.head? = some first
  not_installed : ∀ command, .execute command (some true) ∉ effects

/-- After the preparation a package was installed. -/
def JustInstalled (first : Effect) (done effects : List Effect) : Prop :=
  ∃ before command, Preparing first done before ∧
    CommandSpec.IsInstaller command ∧
      effects = before ++ [.execute command (some true)]

variable {first effect : Effect} {done effects : List Effect}

theorem head?_append_of_some {front back : List Effect}
    (hfront : front.head? = some first) :
    (front ++ back).head? = some first := by
  rw [List.head?_append, hfront, Option.some_or]

theorem Preparing.append (hpreparing : Preparing first done effects)
    (hother : ∀ command reply, effect ≠ .execute command reply) :
    Preparing first done (effects ++ [effect]) where
  head_eq := head?_append_of_some hpreparing.head_eq
  no_command command reply hmem := by
    rcases List.mem_append.mp hmem with hmem | hmem
    · exact hpreparing.no_command command reply hmem
    · exact hother command reply (List.mem_singleton.mp hmem).symm
  has_done other hother :=
    List.mem_append_left _ (hpreparing.has_done other hother)

theorem Preparing.uninstalled (hpreparing : Preparing first done effects) :
    Uninstalled first effects :=
  ⟨hpreparing.head_eq, fun command => hpreparing.no_command command _⟩

/-- What does not succeed installs nothing. -/
theorem Uninstalled.append (huninstalled : Uninstalled first effects)
    (hother : ∀ command, effect ≠ .execute command (some true)) :
    Uninstalled first (effects ++ [effect]) where
  head_eq := head?_append_of_some huninstalled.head_eq
  not_installed command hmem := by
    rcases List.mem_append.mp hmem with hmem | hmem
    · exact huninstalled.not_installed command hmem
    · exact hother command (List.mem_singleton.mp hmem).symm

section

/-- The updater is still preparing. -/
abbrev Prepares (first : Effect) (done : List Effect) (updater : Updater H) :
    Prop :=
  Preparing first done updater.effects

abbrev InstallsNothing (first : Effect) (updater : Updater H) : Prop :=
  Uninstalled first updater.effects

theorem prepares_act {α : Type} {operate : H → α × H} {noted : α → Effect}
    {change : α → (String → Option Bytes) → String → Option Bytes}
    (hnoted : ∀ reply command answer, noted reply ≠ .execute command answer) :
    Keeps (Prepares first done) (act operate noted change) :=
  fun _ hprepares => hprepares.append (hnoted _)

variable [UpdateHost H]

theorem prepares_read (path : String) (context : Error) :
    Keeps (Prepares first done) (read path context : UpdateM H Bytes) := by
  refine Keeps.bind (fun _ hprepares => hprepares) fun readable => ?_
  intro updater hprepares
  exact Keeps.orThrow context _ updater hprepares

theorem prepares_downloadPackage (url path : String) :
    Keeps (Prepares first done)
      (downloadPackage url path : UpdateM H Unit) := by
  apply Triple.ofExcept_bind fun _ hprepares => hprepares
  intro _ _
  apply Keeps.bind (prepares_act fun _ _ _ => by simp)
  rintro ⟨_ | _ | _, written⟩
  · exact Keeps.throw _
  · exact Keeps.throw _
  · exact Keeps.pure _

variable (platform : Platform Key Signature)

theorem prepares_verify (asset : ReleaseAsset)
    (package manifest signature : String) :
    Keeps (Prepares first done)
      (verifyPackageAgainstSignedManifest platform asset package manifest
        signature : UpdateM H Unit) := by
  apply Keeps.bind (prepares_read manifest _)
  intro manifestBytes
  apply Keeps.bind (prepares_read signature _)
  intro signatureBytes
  apply Triple.ofExcept_bind fun _ hprepares => hprepares
  intro _ _
  apply Triple.orThrow_bind fun _ hprepares => hprepares
  intro text _
  apply Triple.ofExcept_bind fun _ hprepares => hprepares
  intro digest _
  apply Keeps.bind (prepares_read package _)
  intro packageBytes
  dsimp only
  split
  · exact Keeps.pure _
  · exact Keeps.throw _

/-- The installer is the first command, and it may fail. -/
theorem installs_installPackage (path extension : String) :
    Triple (Prepares first done)
      (installPackage path extension : UpdateM H Unit)
      (fun _ updater => JustInstalled first done updater.effects)
      (InstallsNothing first) := by
  apply Triple.ofExcept_bind fun _ hprepares => hprepares.uninstalled
  intro command hcommand
  have hinstaller := (isInstaller_of_installCommand hcommand).1
  have hexecute : Triple (Prepares first done)
      (execute command : UpdateM H (Option Bool))
      (fun reply updater => ∃ before, Preparing first done before ∧
        updater.effects = before ++ [.execute command reply])
      (InstallsNothing first) :=
    fun updater hprepares => ⟨updater.effects, hprepares, rfl⟩
  apply Triple.bind hexecute
  have hfailed : ∀ reply, reply ≠ some true → ∀ updater : Updater H,
      (∃ before, Preparing first done before ∧
        updater.effects = before ++ [.execute command reply]) →
      InstallsNothing first updater := by
    rintro reply hreply updater ⟨before, hbefore, heffects⟩
    rw [InstallsNothing, heffects]
    apply hbefore.uninstalled.append
    intro other heq
    exact hreply (Effect.execute.inj heq).2
  rintro (_ | _ | _)
  · exact Triple.throw (hfailed _ (by simp))
  · exact Triple.throw (hfailed _ (by simp))
  · apply Triple.pure
    rintro updater ⟨before, hbefore, heffects⟩
    exact ⟨before, command, hbefore, hinstaller, heffects⟩

theorem installs_stageVerifyAndInstall
    (asset manifestAsset signatureAsset : ReleaseAsset)
    (extension stagingDir : String) :
    Triple (Prepares first done)
      (stageVerifyAndInstall platform asset manifestAsset signatureAsset
        extension stagingDir : UpdateM H Unit)
      (fun _ updater => JustInstalled first done updater.effects)
      (InstallsNothing first) := by
  have hdownload : ∀ url path, Triple (Prepares first done)
      (downloadPackage url path : UpdateM H Unit)
      (fun _ => Prepares first done) (InstallsNothing first) :=
    fun url path => (prepares_downloadPackage url path).imp_failed
      fun _ hprepares => hprepares.uninstalled
  apply Triple.bind (hdownload _ _)
  intro _
  apply Triple.bind (hdownload _ _)
  intro _
  apply Triple.bind (hdownload _ _)
  intro _
  apply Triple.bind ((prepares_verify platform asset _ _ _).imp_failed
    fun _ hprepares => hprepares.uninstalled)
  intro _
  exact installs_installPackage _ _

/-! ## Around the installation -/

/-- What has just been done has been done. -/
theorem Preparing.append_done (hpreparing : Preparing first done effects)
    (hother : ∀ command reply, effect ≠ .execute command reply) :
    Preparing first (effect :: done) (effects ++ [effect]) where
  head_eq := (hpreparing.append hother).head_eq
  no_command := (hpreparing.append hother).no_command
  has_done := List.forall_mem_cons.mpr
    ⟨List.mem_append_right _ (List.mem_singleton_self _),
      (hpreparing.append hother).has_done⟩

theorem prepares_createPrivateStagingDir :
    Triple (Prepares first done)
      (createPrivateStagingDir platform : UpdateM H String)
      (fun stagingDir => Prepares first (.createDir stagingDir true :: done))
      (Prepares first done) := by
  apply Triple.bind (prepares_act fun _ _ _ => by simp)
  intro _
  have hcreate : Triple (Prepares first done)
      (createDir s!"/tmp/sshknockd-staging-{platform.processId}" :
        UpdateM H Bool)
      (fun created => Prepares first
        (.createDir s!"/tmp/sshknockd-staging-{platform.processId}" created ::
          done))
      (Prepares first done) :=
    fun _ hprepares => hprepares.append_done fun _ _ => by simp
  apply Triple.bind hcreate
  intro created
  cases created with
  | false =>
      apply Triple.throw
      intro updater hprepares
      exact ⟨hprepares.head_eq, hprepares.no_command, fun other hother =>
        hprepares.has_done other (List.mem_cons_of_mem _ hother)⟩
  | true => exact Triple.pure fun _ hprepares => hprepares

theorem ends_restartService :
    Triple (fun updater : Updater H => updater.effects = effects)
      (restartService : UpdateM H Unit)
      (fun _ updater => updater.effects =
        effects ++ [.execute restartCommand (some true)])
      (fun updater => ∃ reply, reply ≠ some true ∧
        updater.effects = effects ++ [.execute restartCommand reply]) := by
  have hexecute : Triple (fun updater : Updater H => updater.effects = effects)
      (execute restartCommand : UpdateM H (Option Bool))
      (fun reply updater => updater.effects =
        effects ++ [.execute restartCommand reply])
      (fun updater => ∃ reply, reply ≠ some true ∧
        updater.effects = effects ++ [.execute restartCommand reply]) :=
    fun _ hbefore => congrArg (· ++ [_]) hbefore
  apply Triple.bind hexecute
  rintro (_ | _ | _)
  · exact Triple.throw fun _ hended => ⟨none, by simp, hended⟩
  · exact Triple.throw fun _ hended => ⟨some false, by simp, hended⟩
  · exact Triple.pure fun _ hended => hended

/-- A package was installed, the staging directory removed and the restart
tried, with this reply. -/
def Restarted (first : Effect) (reply : Option Bool) (effects : List Effect) :
    Prop :=
  ∃ before command stagingDir,
    Preparing first [.createDir stagingDir true] before ∧
      CommandSpec.IsInstaller command ∧
      effects = before ++ [.execute command (some true),
        .removeDir stagingDir, .execute restartCommand reply]

theorem Restarted.head_eq {reply : Option Bool}
    (hrestarted : Restarted first reply effects) :
    effects.head? = some first := by
  obtain ⟨before, command, stagingDir, hbefore, -, rfl⟩ := hrestarted
  exact head?_append_of_some hbefore.head_eq

/-- Nothing was installed, or only the restart failed. -/
def Stopped (first : Effect) (effects : List Effect) : Prop :=
  Uninstalled first effects ∨
    ∃ reply, reply ≠ some true ∧ Restarted first reply effects

theorem Stopped.head_eq (hstopped : Stopped first effects) :
    effects.head? = some first :=
  hstopped.elim Uninstalled.head_eq fun ⟨_, _, hrestarted⟩ =>
    hrestarted.head_eq

theorem ends_updateToRelease (release : GitHubRelease) :
    Triple (Prepares first [])
      (updateToRelease platform release : UpdateM H Unit)
      (fun _ updater => Restarted first (some true) updater.effects)
      (fun updater => Stopped first updater.effects) := by
  have hstopped : ∀ updater : Updater H, Prepares first [] updater →
      Stopped first updater.effects :=
    fun _ hprepares => Or.inl hprepares.uninstalled
  have hask : Triple (Prepares first [])
      (ask UpdateHost.readOsRelease : UpdateM H (Option String))
      (fun _ => Prepares first [])
      (fun updater => Stopped first updater.effects) :=
    fun _ hprepares => hprepares
  apply Triple.bind hask
  intro osRelease?
  apply Triple.orThrow_bind hstopped
  intro osRelease _
  apply Triple.ofExcept_bind hstopped
  intro extension _
  apply Triple.ofExcept_bind hstopped
  intro arch _
  apply Triple.ofExcept_bind hstopped
  intro asset _
  apply Triple.ofExcept_bind hstopped
  intro manifestAsset _
  apply Triple.ofExcept_bind hstopped
  intro signatureAsset _
  apply Triple.bind ((prepares_createPrivateStagingDir platform).imp_failed
    hstopped)
  intro stagingDir
  apply Triple.bind (Triple.attempt (installs_stageVerifyAndInstall platform
    asset manifestAsset signatureAsset extension stagingDir))
  rintro (error | _)
  · have hremove : Triple (InstallsNothing first)
        (removeDir stagingDir : UpdateM H Unit)
        (fun _ => InstallsNothing first)
        (fun updater => Stopped first updater.effects) :=
      fun _ huninstalled => huninstalled.append fun _ => by simp
    exact Triple.bind hremove fun _ =>
      Triple.throw_bind fun _ huninstalled => Or.inl huninstalled
  · apply Triple.of_exists
    intro before
    apply Triple.of_exists
    intro command
    rintro updater ⟨hbefore, hinstaller, heffects⟩
    have hremove : Triple
        (fun updater : Updater H =>
          updater.effects = before ++ [.execute command (some true)])
        (removeDir stagingDir : UpdateM H Unit)
        (fun _ updater => updater.effects =
          before ++ [.execute command (some true)] ++ [.removeDir stagingDir])
        (fun updater => Stopped first updater.effects) :=
      fun _ hended => congrArg (· ++ [_]) hended
    refine Triple.bind hremove (fun _ => ?_) updater heffects
    have hrestarted : ∀ reply (updater : Updater H), updater.effects =
        before ++ [.execute command (some true)] ++
          [.removeDir stagingDir] ++ [.execute restartCommand reply] →
        Restarted first reply updater.effects := by
      intro reply updater hended
      refine ⟨before, command, stagingDir, hbefore, hinstaller, ?_⟩
      rw [hended, List.append_assoc, List.append_assoc]
      rfl
    refine (ends_restartService.imp_failed ?_).imp_returned
      fun _ => hrestarted (some true)
    rintro updater ⟨reply, hreply, hended⟩
    exact Or.inr ⟨reply, hreply, hrestarted reply updater hended⟩

/-- The update has failed, and the reply was not that nothing is to be
done. -/
def FailedOn (platform : Platform Key Signature)
    (reply : Option (Bool × Bytes)) (effects : List Effect) : Prop :=
  Stopped (.fetch reply) effects ∧ ∀ stdout release,
    reply = some (true, stdout) →
      platform.parseRelease stdout = some release → ¬release.IsCurrent

theorem ends_fetchLatestRelease :
    Triple (fun updater : Updater H => updater.effects = [])
      (fetchLatestRelease platform : UpdateM H GitHubRelease)
      (fun release updater => ∃ stdout,
        updater.effects = [.fetch (some (true, stdout))] ∧
          platform.parseRelease stdout = some release)
      (fun updater => ∃ reply, FailedOn platform reply updater.effects) := by
  have hfetch : Triple (fun updater : Updater H => updater.effects = [])
      (fetch : UpdateM H (Option (Bool × Bytes)))
      (fun reply updater => updater.effects = [.fetch reply])
      (fun updater => ∃ reply, FailedOn platform reply updater.effects) :=
    fun _ hidle => congrArg (· ++ [_]) hidle
  have hstopped : ∀ {reply} {updater : Updater H},
      updater.effects = [.fetch reply] →
        Stopped (.fetch reply) updater.effects := by
    intro reply updater hfetched
    rw [hfetched]
    exact Or.inl ⟨rfl, fun _ hmem => by simp at hmem⟩
  apply Triple.bind hfetch
  rintro (_ | ⟨_ | _, stdout⟩)
  · exact Triple.throw fun _ hfetched =>
      ⟨none, hstopped hfetched, fun _ _ heq => by cases heq⟩
  · exact Triple.throw fun _ hfetched =>
      ⟨some (false, stdout), hstopped hfetched, fun _ _ heq => by cases heq⟩
  · dsimp only
    cases hparsed : platform.parseRelease stdout with
    | none =>
        refine Triple.throw fun _ hfetched =>
          ⟨some (true, stdout), hstopped hfetched, ?_⟩
        rintro _ release heq hrelease
        cases heq
        rw [hparsed] at hrelease
        cases hrelease
    | some release =>
        exact Triple.pure fun _ hfetched => ⟨stdout, hfetched, hparsed⟩

/-- How an update ends. -/
theorem ends_updateFromLatestRelease :
    Triple (fun updater : Updater H => updater.effects = [])
      (updateFromLatestRelease platform : UpdateM H Unit)
      (fun _ updater => ∃ stdout release,
        platform.parseRelease stdout = some release ∧
          (release.IsCurrent ∧
              updater.effects = [.fetch (some (true, stdout))] ∨
            ¬release.IsCurrent ∧
              Restarted (.fetch (some (true, stdout))) (some true)
                updater.effects))
      (fun updater => ∃ reply, FailedOn platform reply updater.effects) := by
  apply Triple.bind (ends_fetchLatestRelease platform)
  intro release
  apply Triple.of_exists
  intro stdout
  apply Triple.assuming
  intro hparsed
  dsimp only
  split
  · next hcurrent =>
      exact Triple.pure fun _ hfetched =>
        ⟨stdout, release, hparsed, Or.inl ⟨hcurrent, hfetched⟩⟩
  · next hnewer =>
      have hprepares : ∀ updater : Updater H,
          updater.effects = [.fetch (some (true, stdout))] →
            Prepares (.fetch (some (true, stdout))) [] updater := by
        intro updater hfetched
        rw [Prepares, hfetched]
        exact ⟨rfl, fun _ _ hmem => by simp at hmem,
          fun _ hmem => by cases hmem⟩
      refine (((ends_updateToRelease platform release).of_imp
        hprepares).imp_returned ?_).imp_failed ?_
      · intro _ updater hfinished
        exact ⟨stdout, release, hparsed, Or.inr ⟨hnewer, hfinished⟩⟩
      · intro updater hstopped
        refine ⟨some (true, stdout), hstopped, ?_⟩
        rintro _ other heq hother
        cases heq
        rw [hparsed] at hother
        cases hother
        exact hnewer

/-! ## The report -/

/-- What was installed had been verified. -/
theorem Restarted.verified {reply : Option Bool}
    (hrestarted : Restarted first reply effects)
    (hsound : Sound platform [] effects) :
    ∃ before command stagingDir, before.head? = some first ∧
      .createDir stagingDir true ∈ before ∧
        Verified platform before command ∧
          effects = before ++ [.execute command (some true),
            .removeDir stagingDir, .execute restartCommand reply] := by
  obtain ⟨before, command, stagingDir, hbefore, hinstaller, rfl⟩ := hrestarted
  have hallowed := hsound.justified before (.execute command (some true)) _ rfl
  exact ⟨before, command, stagingDir, hbefore.head_eq,
    hbefore.has_done _ (List.mem_singleton_self _),
    hallowed.installs command _ rfl hinstaller, rfl⟩

/-- What has stopped has not completed. -/
theorem FailedOn.not_completed {reply : Option (Bool × Bytes)}
    (hfailed : FailedOn platform reply effects) :
    ¬Completed platform effects := by
  obtain ⟨hstopped, hnewer⟩ := hfailed
  intro hcompleted
  have hhead := hstopped.head_eq
  cases hcompleted with
  | current hparsed hcurrent =>
      cases hhead
      exact hnewer _ _ rfl hparsed hcurrent
  | updated =>
      rcases hstopped with huninstalled |
        ⟨answer, hanswer, _, _, _, -, -, heq⟩
      · exact huninstalled.not_installed _
          (List.mem_append_right _ List.mem_cons_self)
      · have hlast := congrArg List.getLast? heq
        rw [List.getLast?_append, List.getLast?_append] at hlast
        cases hlast
        exact hanswer rfl

/-- An update reports success exactly when it leaves nothing to do, and one
that fails has installed nothing, or it has installed a verified package and
removed the staging directory and only the restart failed. -/
theorem update_ok_iff (platform : Platform Key Signature) (host : H) :
    ((perform (updateFromLatestRelease platform) (idle host)).1 = .ok () ↔
        Completed platform (updateEffects platform host)) ∧
      ∀ error,
        (perform (updateFromLatestRelease platform) (idle host)).1 =
            .error error →
          (∀ command,
            .execute command (some true) ∉ updateEffects platform host) ∨
          ∃ before command stagingDir reply, Verified platform before command ∧
            .createDir stagingDir true ∈ before ∧ reply ≠ some true ∧
              updateEffects platform host =
                before ++ [.execute command (some true),
                  .removeDir stagingDir, .execute restartCommand reply] := by
  have hended := ends_updateFromLatestRelease platform (idle host) rfl
  have hsound := sound_updateEffects platform host
  rw [updateEffects] at hsound ⊢
  generalize perform (updateFromLatestRelease platform) (idle host) = ended
    at hended hsound ⊢
  obtain ⟨failure | _, updater⟩ := ended
  · obtain ⟨reply, hfailed⟩ := hended
    refine ⟨iff_of_false (fun hok => by cases hok) hfailed.not_completed, ?_⟩
    intro _ _
    rcases hfailed.1 with huninstalled | ⟨answer, hanswer, hrestarted⟩
    · exact Or.inl huninstalled.not_installed
    · obtain ⟨before, command, stagingDir, -, hstaged, hverified, heffects⟩ :=
        hrestarted.verified platform hsound
      exact Or.inr ⟨before, command, stagingDir, answer, hverified, hstaged,
        hanswer, heffects⟩
  · obtain ⟨stdout, release, hparsed, hdone⟩ := hended
    refine ⟨iff_of_true rfl ?_, fun _ herror => by cases herror⟩
    rcases hdone with ⟨hcurrent, hfetched⟩ | ⟨hnewer, hrestarted⟩
    · rw [hfetched]
      exact .current hparsed hcurrent
    · obtain ⟨before, command, stagingDir, hhead, hstaged, hverified,
        heffects⟩ := hrestarted.verified platform hsound
      rw [heffects]
      exact .updated hparsed hnewer hhead hstaged hverified

end

end SshKnock

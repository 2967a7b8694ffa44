import SshKnock.Server.ByteStream

/-!
# The stages of a connection

From its acceptance until it is handed over or dropped a connection has exactly
one entry among the pending ones, and no poll of it has found anything.  Every
step of the daemon either does not concern the connection or takes it to its
next stage.
-/

namespace SshKnock

open Fallible SwapRemove

variable {traffic : Traffic}

namespace Daemon

variable {R : Type} {config : Config} {transmission : Transmission}
  {connection : ℕ} {settled : Prop} {own : List (PendingTcp ℕ)}
  {before after : Daemon (Wire traffic) R (Option ℕ)}

/-- The packets that were handed over for a connection. -/
def handedFor {N : Type} (connection : ℕ) (daemon : Daemon N R (Option ℕ)) :
    List (Handed (Option ℕ)) :=
  daemon.handed.filter fun handed => handed.tag = some connection

/-- The daemon's own entries of a connection. -/
def entriesOf (connection : ℕ) (pending : List (PendingTcp ℕ)) :
    List (PendingTcp ℕ) :=
  pending.filter fun entry => entry.stream = connection

/-- No poll of the connection has found anything. -/
structure Unanswered (transmission : Transmission) (connection : ℕ)
    (daemon : Daemon (Wire traffic) R (Option ℕ)) : Prop where
  nothing : daemon.handedFor connection = []
  untaken : (daemon.network.lines connection).taken = 0
  fruitless : ∀ tick ∈ (daemon.network.lines connection).polls,
    transmission.Fruitless tick

/-- The last poll of the connection found what was then handed over. -/
def Answered (config : Config) (transmission : Transmission) (connection : ℕ)
    (daemon : Daemon (Wire traffic) R (Option ℕ)) : Prop :=
  ∃ handed earlier tick, daemon.handedFor connection = [handed] ∧
    (daemon.network.lines connection).polls = earlier ++ [tick] ∧
    (∀ tick ∈ earlier, transmission.Fruitless tick) ∧
    ¬transmission.Fruitless tick ∧
    handed.arrival.payloadSize =
      min (transmission.arrivedBy tick) (bufferLen config)

/-- How far the daemon has got with a connection that has these entries. -/
inductive Stage (config : Config) (transmission : Transmission)
    (connection : ℕ) :
    List (PendingTcp ℕ) → Daemon (Wire traffic) R (Option ℕ) → Prop where
  | unseen {daemon : Daemon (Wire traffic) R (Option ℕ)}
      (haccepted : (daemon.network.lines connection).accepted = none)
      (hunanswered : Unanswered transmission connection daemon) :
      Stage config transmission connection [] daemon
  | waiting {daemon : Daemon (Wire traffic) R (Option ℕ)} {reading : ℕ}
      {entry : PendingTcp ℕ} (hseen : connection < daemon.network.tick)
      (haccepted :
        (daemon.network.lines connection).accepted = some reading)
      (hdeadline : entry.deadline =
        reading + Duration.fromSecs config.partialStateTimeout)
      (hunanswered : Unanswered transmission connection daemon) :
      Stage config transmission connection [entry] daemon
  | answered {daemon : Daemon (Wire traffic) R (Option ℕ)}
      (hseen : connection < daemon.network.tick)
      (hanswered : Answered config transmission connection daemon) :
      Stage config transmission connection [] daemon
  | expired {daemon : Daemon (Wire traffic) R (Option ℕ)} {reading tick : ℕ}
      (hseen : connection < daemon.network.tick)
      (haccepted :
        (daemon.network.lines connection).accepted = some reading)
      (hfruitless : transmission.Fruitless tick)
      (hlate : reading + Duration.fromSecs config.partialStateTimeout ≤
        traffic.time tick)
      (hunanswered : Unanswered transmission connection daemon) :
      Stage config transmission connection [] daemon

/-- Nothing happens to the connection in between. -/
structure Quiet (connection : ℕ)
    (before after : Daemon (Wire traffic) R (Option ℕ)) : Prop where
  tick_le : before.network.tick ≤ after.network.tick
  line_eq : after.network.lines connection = before.network.lines connection
  handedFor_eq : after.handedFor connection = before.handedFor connection

theorem Unanswered.quiet
    (hunanswered : Unanswered transmission connection before)
    (hquiet : Quiet connection before after) :
    Unanswered transmission connection after where
  nothing := hquiet.handedFor_eq.trans hunanswered.nothing
  untaken := hquiet.line_eq ▸ hunanswered.untaken
  fruitless := hquiet.line_eq ▸ hunanswered.fruitless

theorem Answered.quiet (hanswered : Answered config transmission connection before)
    (hquiet : Quiet connection before after) :
    Answered config transmission connection after := by
  rw [Answered, hquiet.handedFor_eq, hquiet.line_eq]
  exact hanswered

theorem Stage.quiet (hstage : Stage config transmission connection own before)
    (hquiet : Quiet connection before after) :
    Stage config transmission connection own after := by
  cases hstage with
  | unseen haccepted hunanswered =>
      exact .unseen (hquiet.line_eq ▸ haccepted) (hunanswered.quiet hquiet)
  | waiting hseen haccepted hdeadline hunanswered =>
      exact .waiting (hseen.trans_le hquiet.tick_le)
        (hquiet.line_eq ▸ haccepted) hdeadline (hunanswered.quiet hquiet)
  | answered hseen hanswered =>
      exact .answered (hseen.trans_le hquiet.tick_le)
        (hanswered.quiet hquiet)
  | expired hseen haccepted hfruitless hlate hunanswered =>
      exact .expired (hseen.trans_le hquiet.tick_le)
        (hquiet.line_eq ▸ haccepted) hfruitless hlate
        (hunanswered.quiet hquiet)

/-- The stage does not depend on the order of the entries. -/
theorem Stage.perm (hstage : Stage config transmission connection own before)
    {other : List (PendingTcp ℕ)} (hperm : own.Perm other) :
    Stage config transmission connection other before := by
  cases hstage with
  | unseen haccepted hunanswered =>
      rw [List.nil_perm.mp hperm]
      exact .unseen haccepted hunanswered
  | waiting hseen haccepted hdeadline hunanswered =>
      obtain rfl := List.singleton_perm.mp hperm
      exact .waiting hseen haccepted hdeadline hunanswered
  | answered hseen hanswered =>
      rw [List.nil_perm.mp hperm]
      exact .answered hseen hanswered
  | expired hseen haccepted hfruitless hlate hunanswered =>
      rw [List.nil_perm.mp hperm]
      exact .expired hseen haccepted hfruitless hlate hunanswered

/-- What a run may leave of the connection wherever it stops. -/
def Decided (config : Config) (transmission : Transmission) (connection : ℕ)
    (daemon : Daemon (Wire traffic) R (Option ℕ)) : Prop :=
  Unanswered transmission connection daemon ∨
    Answered config transmission connection daemon

theorem Stage.decided
    (hstage : Stage config transmission connection own before) :
    Decided config transmission connection before := by
  cases hstage with
  | unseen _ hunanswered => exact Or.inl hunanswered
  | waiting _ _ _ hunanswered => exact Or.inl hunanswered
  | answered _ hanswered => exact Or.inr hanswered
  | expired _ _ _ _ hunanswered => exact Or.inl hunanswered

/-- The stage of the connection, once the client has closed it if it is known
to be settled. -/
structure Known (config : Config) (transmission : Transmission)
    (connection : ℕ) (settled : Prop) (own : List (PendingTcp ℕ))
    (daemon : Daemon (Wire traffic) R (Option ℕ)) : Prop where
  stage : Stage config transmission connection own daemon
  ended : settled → transmission.endedBy daemon.network.tick = true

theorem Known.quiet
    (hknown : Known config transmission connection settled own before)
    (hquiet : Quiet connection before after) :
    Known config transmission connection settled own after where
  stage := hknown.stage.quiet hquiet
  ended hsettled :=
    Transmission.endedBy_mono hquiet.tick_le (hknown.ended hsettled)

theorem quiet_step (daemon : Daemon (Wire traffic) R (Option ℕ)) (reading : ℕ) :
    Quiet connection daemon { daemon with
      network := { daemon.network.step with reading } } :=
  ⟨Nat.le_succ _, rfl, rfl⟩

/-- The lines of other connections may change. -/
theorem quiet_set (daemon : Daemon (Wire traffic) R (Option ℕ)) {other : ℕ}
    (hother : connection ≠ other) (line : Line) :
    Quiet connection daemon
      { daemon with network := daemon.network.step.set other line } :=
  ⟨Nat.le_succ _, Function.update_of_ne hother _ _, rfl⟩

theorem keeps_of_quiet {α : Type}
    {command : DaemonM (Wire traffic) R (Option ℕ) α}
    (hquiet : ∀ daemon, Quiet connection daemon (perform command daemon).2) :
    Keeps (Known config transmission connection settled own) command :=
  Keeps.of_perform fun daemon hknown => hknown.quiet (hquiet daemon)

/-! ## Accepting -/

/-- What is known of the connection while others are accepted, at this reading
of the clock. -/
structure Accepting (config : Config) (transmission : Transmission)
    (connection : ℕ) (settled : Prop) (now : ℕ) (pending : List (PendingTcp ℕ))
    (daemon : Daemon (Wire traffic) R (Option ℕ)) : Prop where
  known : Known config transmission connection settled
    (entriesOf connection pending) daemon
  reading_eq : daemon.network.reading = now
  now_le : now ≤ traffic.time daemon.network.tick

/-- A connection has been accepted and gets its entry next. -/
structure Entering (config : Config) (transmission : Transmission)
    (connection : ℕ) (settled : Prop) (now : ℕ) (pending : List (PendingTcp ℕ))
    (stream : ℕ) (daemon : Daemon (Wire traffic) R (Option ℕ)) : Prop where
  decided : Decided config transmission connection daemon
  accepting : ∀ entry : PendingTcp ℕ, entry.stream = stream →
    entry.deadline = now + Duration.fromSecs config.partialStateTimeout →
      Accepting config transmission connection settled now
        (pending ++ [entry]) daemon

variable {now : ℕ} {pending : List (PendingTcp ℕ)}

theorem entriesOf_append (left right : List (PendingTcp ℕ)) :
    entriesOf connection (left ++ right) =
      entriesOf connection left ++ entriesOf connection right :=
  List.filter_append _ _

theorem entriesOf_own {entry : PendingTcp ℕ}
    (hown : entry.stream = connection) :
    entriesOf connection [entry] = [entry] :=
  List.filter_cons_of_pos (by simpa using hown)

theorem entriesOf_other {entry : PendingTcp ℕ}
    (hother : entry.stream ≠ connection) :
    entriesOf connection [entry] = [] :=
  List.filter_cons_of_neg (by simpa using hother)

/-- The connection itself is accepted. -/
theorem Known.entering
    (hknown : Known config transmission connection settled
      (entriesOf connection pending) before)
    (hnow : before.network.reading ≤ traffic.time before.network.tick)
    (hown : connection = before.network.tick) :
    Entering config transmission connection settled before.network.reading
      pending before.network.tick
      { before with network := before.network.enqueued } := by
  obtain ⟨hstage, hended⟩ := hknown
  generalize hentries : entriesOf connection pending = own at hstage
  cases hstage with
  | waiting hseen => exact absurd hseen (hown ▸ lt_irrefl _)
  | answered hseen => exact absurd hseen (hown ▸ lt_irrefl _)
  | expired hseen => exact absurd hseen (hown ▸ lt_irrefl _)
  | unseen _ hunanswered =>
      have hline : before.network.enqueued.lines connection =
          { before.network.lines connection with
            accepted := some before.network.reading } := by
        rw [hown]
        exact before.network.step.lines_set _ _
      have hafter : Unanswered transmission connection
          { before with network := before.network.enqueued } := by
        refine ⟨hunanswered.nothing, ?_, ?_⟩
        · rw [hline]
          exact hunanswered.untaken
        · rw [hline]
          exact hunanswered.fruitless
      have hseen : connection < before.network.enqueued.tick :=
        hown ▸ Nat.lt_succ_self _
      refine ⟨Or.inl hafter, fun entry hstream hdeadline =>
        ⟨⟨?_, fun hsettled => ?_⟩, rfl, ?_⟩⟩
      · rw [entriesOf_append, entriesOf_own (hstream.trans hown.symm),
          hentries, List.nil_append]
        exact .waiting hseen (congrArg Line.accepted hline) hdeadline hafter
      · exact Transmission.endedBy_mono (Nat.le_succ _) (hended hsettled)
      · exact hnow.trans (traffic.monotone_time (Nat.le_succ _))

theorem Accepting.accept (port : UInt16) :
    Triple (Accepting config transmission connection settled now pending)
      (onNetwork (Network.accept port) :
        DaemonM (Wire traffic) R (Option ℕ) _)
      (fun result daemon => match result with
        | .ok accepted => Entering config transmission connection settled now
            pending accepted.1 daemon
        | .error _ =>
            Accepting config transmission connection settled now pending daemon)
      (Decided config transmission connection) := by
  intro daemon haccepting
  obtain ⟨hknown, hreading, hnow⟩ := haccepting
  have hlater : now ≤ traffic.time (daemon.network.tick + 1) :=
    hnow.trans (traffic.monotone_time (Nat.le_succ _))
  have hperform : perform (onNetwork (Network.accept port)) daemon =
      (.ok daemon.network.accept.1,
        { daemon with network := daemon.network.accept.2 }) := rfl
  rw [hperform, Wire.accept]
  cases traffic.accept daemon.network.tick with
  | error error =>
      exact ⟨hknown.quiet (daemon.quiet_step daemon.network.reading), hreading,
        hlater⟩
  | ok addr =>
      by_cases hown : connection = daemon.network.tick
      · subst hreading
        exact hknown.entering hnow hown
      · have hafter := hknown.quiet (daemon.quiet_set hown
          { daemon.network.lines daemon.network.tick with
            accepted := some daemon.network.reading })
        refine ⟨hafter.stage.decided,
          fun entry hstream _ => ⟨?_, hreading, hlater⟩⟩
        rw [entriesOf_append, entriesOf_other (hstream.trans_ne (Ne.symm hown)),
          List.append_nil]
        exact hafter

theorem Entering.quiet {stream : ℕ}
    (hentering : Entering config transmission connection settled now pending
      stream before) (hquiet : Quiet connection before after)
    (hreading : after.network.reading = before.network.reading) :
    Entering config transmission connection settled now pending stream
      after where
  decided := hentering.decided.imp (fun hunanswered =>
    hunanswered.quiet hquiet) fun hanswered => hanswered.quiet hquiet
  accepting entry hstream hdeadline := by
    have haccepting := hentering.accepting entry hstream hdeadline
    exact ⟨haccepting.known.quiet hquiet,
      hreading.trans haccepting.reading_eq,
      haccepting.now_le.trans (traffic.monotone_time hquiet.tick_le)⟩

theorem Accepting.acceptOne (port : UInt16) :
    Triple (Accepting config transmission connection settled now pending)
      (Daemon.acceptOne config now port :
        DaemonM (Wire traffic) R (Option ℕ) (Option (PendingTcp ℕ)))
      (fun accepted => Accepting config transmission connection settled now
        (pending ++ accepted.toList))
      (Decided config transmission connection) := by
  apply Triple.bind (Accepting.accept port)
  intro result
  cases result with
  | error error =>
      simp only
      split
      · apply Triple.pure
        intro _ haccepting
        rwa [Option.toList_none, List.append_nil]
      · exact Triple.throw fun _ haccepting =>
          haccepting.known.stage.decided
  | ok accepted =>
      obtain ⟨stream, addr⟩ := accepted
      have hconfigure : Triple
          (Entering config transmission connection settled now pending stream)
          (onNetwork (Network.setNonblocking stream) :
            DaemonM (Wire traffic) R (Option ℕ) Bool)
          (fun _ => Entering config transmission connection settled now pending
            stream)
          (Decided config transmission connection) := fun daemon hentering =>
        hentering.quiet (daemon.quiet_step daemon.network.reading) rfl
      apply Triple.bind hconfigure
      intro configured
      have hdeadline : Triple
          (Entering config transmission connection settled now pending stream)
          (do
            let deadline ← tcpDeadline config now
            pure (some { port, stream, addr, deadline }) :
            DaemonM (Wire traffic) R (Option ℕ) (Option (PendingTcp ℕ)))
          (fun accepted => Accepting config transmission connection settled now
            (pending ++ accepted.toList))
          (Decided config transmission connection) := by
        apply Triple.orThrow_bind fun _ hentering => hentering.decided
        intro deadline hsome
        apply Triple.pure
        intro _ hentering
        exact hentering.accepting _ rfl (Instant.eq_add_of_checkedAdd hsome)
      cases configured with
      | false => exact Triple.throw_bind fun _ hentering => hentering.decided
      | true => exact hdeadline

theorem Accepting.acceptAll (port : UInt16) (pending : List (PendingTcp ℕ)) :
    Triple (Accepting config transmission connection settled now pending)
      (Daemon.acceptAll config now port pending :
        DaemonM (Wire traffic) R (Option ℕ) (List (PendingTcp ℕ)))
      (Accepting config transmission connection settled now)
      (Decided config transmission connection) := by
  induction hroom : config.maxPartialStates - pending.length
    generalizing pending with
  | zero =>
      rw [Daemon.acceptAll, dif_pos (by omega)]
      exact Triple.pure fun _ haccepting => haccepting
  | succ room ih =>
      rw [Daemon.acceptAll, dif_neg (by omega)]
      apply Triple.bind (Accepting.acceptOne port)
      intro accepted
      cases accepted with
      | none =>
          apply Triple.pure
          intro _ haccepting
          rwa [Option.toList_none, List.append_nil] at haccepting
      | some entry =>
          apply ih
          rw [List.length_append, Option.toList_some, List.length_singleton]
          omega

/-! ## Reading -/

/-- What is known of the connection while the pending ones are read, with those
already passed in front. -/
structure Polling (config : Config) (transmission : Transmission)
    (connection : ℕ) (settled : Prop) (now : ℕ)
    (passed rest : List (PendingTcp ℕ))
    (daemon : Daemon (Wire traffic) R (Option ℕ)) : Prop where
  known : Known config transmission connection settled
    (entriesOf connection (passed ++ rest)) daemon
  now_le : now ≤ traffic.time daemon.network.tick
  passed_nil : settled → entriesOf connection passed = []

/-- A poll has found what it then hands over. -/
structure Found (config : Config) (transmission : Transmission)
    (connection size : ℕ) (daemon : Daemon (Wire traffic) R (Option ℕ)) :
    Prop where
  nothing : daemon.handedFor connection = []
  polled : ∃ earlier tick,
    (daemon.network.lines connection).polls = earlier ++ [tick] ∧
      (∀ tick ∈ earlier, transmission.Fruitless tick) ∧
      ¬transmission.Fruitless tick ∧
      size = min (transmission.arrivedBy tick) (bufferLen config)

/-- Data has been read and is processed next. -/
inductive InHand (config : Config) (transmission : Transmission)
    (connection : ℕ) (settled : Prop) (now : ℕ)
    (passed rest : List (PendingTcp ℕ)) (size : ℕ) (tag : Option ℕ)
    (daemon : Daemon (Wire traffic) R (Option ℕ)) : Prop where
  | other (htag : tag ≠ some connection)
      (hpolling : Polling config transmission connection settled now passed
        rest daemon)
  | own (htag : tag = some connection)
      (hfound : Found config transmission connection size daemon)
      (hseen : connection < daemon.network.tick)
      (hended : settled → transmission.endedBy daemon.network.tick = true)
      (hnow : now ≤ traffic.time daemon.network.tick)
      (hnone : entriesOf connection (passed ++ rest) = [])

/-- Nothing has been read, and the entry is dropped or passed next. -/
structure Blocked (config : Config) (transmission : Transmission)
    (connection : ℕ) (settled : Prop) (now : ℕ)
    (passed : List (PendingTcp ℕ)) (entry : PendingTcp ℕ)
    (rest : List (PendingTcp ℕ))
    (daemon : Daemon (Wire traffic) R (Option ℕ)) : Prop where
  dropped : entry.deadline ≤ now → Polling config transmission connection
    settled now passed (promote rest) daemon
  kept : now < entry.deadline → Polling config transmission connection settled
    now (passed ++ [entry]) rest daemon

variable {passed rest : List (PendingTcp ℕ)} {entry : PendingTcp ℕ}

theorem Polling.quiet
    (hpolling : Polling config transmission connection settled now passed rest
      before) (hquiet : Quiet connection before after) :
    Polling config transmission connection settled now passed rest after where
  known := hpolling.known.quiet hquiet
  now_le := hpolling.now_le.trans (traffic.monotone_time hquiet.tick_le)
  passed_nil := hpolling.passed_nil

theorem entriesOf_promote (passed rest : List (PendingTcp ℕ)) :
    (entriesOf connection (passed ++ promote rest)).Perm
      (entriesOf connection (passed ++ rest)) :=
  ((promote_perm rest).append_left passed).filter _

/-- The entry of another connection may be dropped. -/
theorem Polling.drop
    (hpolling : Polling config transmission connection settled now passed
      (entry :: rest) before) (hother : entry.stream ≠ connection) :
    Polling config transmission connection settled now passed (promote rest)
      before := by
  obtain ⟨⟨hstage, hended⟩, hnow, hnil⟩ := hpolling
  rw [List.append_cons, entriesOf_append, entriesOf_append,
    entriesOf_other hother, List.append_nil, ← entriesOf_append] at hstage
  exact ⟨⟨hstage.perm (entriesOf_promote passed rest).symm, hended⟩, hnow, hnil⟩

/-- It may also be passed. -/
theorem Polling.pass
    (hpolling : Polling config transmission connection settled now passed
      (entry :: rest) before) (hother : entry.stream ≠ connection) :
    Polling config transmission connection settled now (passed ++ [entry]) rest
      before := by
  obtain ⟨⟨hstage, hended⟩, hnow, hnil⟩ := hpolling
  rw [List.append_cons] at hstage
  refine ⟨⟨hstage, hended⟩, hnow, fun hsettled => ?_⟩
  rw [entriesOf_append, hnil hsettled, entriesOf_other hother]
  rfl

/-- The entry of the connection itself is its only one. -/
theorem Polling.only_entry
    (hpolling : Polling config transmission connection settled now passed
      (entry :: rest) before) (hown : entry.stream = connection) :
    (entriesOf connection passed = [] ∧ entriesOf connection rest = []) ∧
      connection < before.network.tick ∧
      (∃ reading,
        (before.network.lines connection).accepted = some reading ∧
        entry.deadline =
          reading + Duration.fromSecs config.partialStateTimeout) ∧
      Unanswered transmission connection before := by
  have hstage := hpolling.known.stage
  have hentries : entriesOf connection (passed ++ entry :: rest) =
      entriesOf connection passed ++ entry :: entriesOf connection rest := by
    rw [List.append_cons, entriesOf_append, entriesOf_append,
      entriesOf_own hown, ← List.append_cons]
  rw [hentries] at hstage
  generalize hlist : entriesOf connection passed ++
    entry :: entriesOf connection rest = own at hstage
  cases hstage with
  | unseen | answered | expired =>
      exact absurd hlist (List.append_ne_nil_of_right_ne_nil _
        (List.cons_ne_nil _ _))
  | waiting hseen haccepted hdeadline hunanswered =>
      obtain ⟨hnil, hsingle⟩ | ⟨hsingle, hnil⟩ :=
        List.append_eq_singleton_iff.mp hlist
      · obtain ⟨rfl, hrest⟩ := List.cons.inj hsingle
        exact ⟨⟨hnil, hrest⟩, hseen, ⟨_, haccepted, hdeadline⟩, hunanswered⟩
      · cases hnil

/-- A poll of the connection that finds nothing. -/
theorem Polling.fruitless
    (hpolling : Polling config transmission connection settled now passed
      (entry :: rest) before) (hown : entry.stream = connection)
    (hfruitless : transmission.Fruitless before.network.tick) :
    Blocked config transmission connection settled now passed entry rest
      { before with network := before.network.polled connection } := by
  obtain ⟨⟨hpassed, hrest⟩, hseen, ⟨reading, haccepted, hdeadline⟩,
    hunanswered⟩ := hpolling.only_entry hown
  have hline : (before.network.polled connection).lines connection =
      before.network.poll connection := before.network.step.lines_set _ _
  have hlater : before.network.tick ≤ before.network.tick + 1 := Nat.le_succ _
  have hafter : Unanswered transmission connection
      { before with network := before.network.polled connection } := by
    refine ⟨hunanswered.nothing, ?_, ?_⟩
    · rw [hline]
      exact hunanswered.untaken
    · rw [hline]
      exact List.forall_mem_append.mpr
        ⟨hunanswered.fruitless, List.forall_mem_singleton.mpr hfruitless⟩
  have hunsettled : ¬settled := fun hsettled =>
    absurd (hpolling.known.ended hsettled) (hfruitless.2 ▸ Bool.false_ne_true)
  have hnow : now ≤ traffic.time (before.network.tick + 1) :=
    hpolling.now_le.trans (traffic.monotone_time hlater)
  constructor
  · intro hlate
    have hnone : entriesOf connection (passed ++ promote rest) = [] := by
      apply (List.perm_nil.mp ((entriesOf_promote passed rest).trans _))
      rw [entriesOf_append, hpassed, hrest]
      rfl
    refine ⟨⟨?_, fun hsettled => absurd hsettled hunsettled⟩, hnow,
      fun _ => hpassed⟩
    rw [hnone]
    exact .expired (hseen.trans_le hlater)
      ((congrArg Line.accepted hline).trans haccepted) hfruitless
      (hdeadline ▸ hlate.trans hpolling.now_le) hafter
  · intro _
    have hentries : entriesOf connection (passed ++ [entry] ++ rest) =
        [entry] := by
      rw [entriesOf_append, entriesOf_append, hpassed, hrest,
        entriesOf_own hown]
      rfl
    refine ⟨⟨?_, fun hsettled => absurd hsettled hunsettled⟩, hnow,
      fun hsettled => absurd hsettled hunsettled⟩
    rw [hentries]
    exact .waiting (hseen.trans_le hlater)
      ((congrArg Line.accepted hline).trans haccepted) hdeadline hafter

theorem Blocked.decided
    (hblocked : Blocked config transmission connection settled now passed entry
      rest before) : Decided config transmission connection before := by
  rcases Nat.lt_or_ge now entry.deadline with hearly | hlate
  · exact (hblocked.kept hearly).known.stage.decided
  · exact (hblocked.dropped hlate).known.stage.decided

/-- A poll of the connection that finds something. -/
theorem Polling.found
    (hpolling : Polling config transmission connection settled now passed
      (entry :: rest) before) (hown : entry.stream = connection)
    (hfound : ¬transmission.Fruitless before.network.tick) (size : ℕ)
    (hsize : size = min (transmission.arrivedBy before.network.tick)
      (bufferLen config)) :
    InHand config transmission connection settled now passed (promote rest) size
      (some connection)
      { before with network := before.network.drained connection size } := by
  obtain ⟨⟨hpassed, hrest⟩, hseen, -, hunanswered⟩ := hpolling.only_entry hown
  have hpolls : ((before.network.drained connection size).lines
      connection).polls = (before.network.lines connection).polls ++
        [before.network.tick] :=
    congrArg Line.polls (before.network.step.lines_set connection _)
  have hlater : before.network.tick ≤ before.network.tick + 1 := Nat.le_succ _
  refine .own rfl ⟨hunanswered.nothing, ?_⟩ (hseen.trans_le hlater)
    (fun hsettled => Transmission.endedBy_mono hlater
      (hpolling.known.ended hsettled))
    (hpolling.now_le.trans (traffic.monotone_time hlater)) ?_
  · exact ⟨_, _, hpolls, hunanswered.fruitless, hfound, hsize⟩
  · apply List.perm_nil.mp ((entriesOf_promote passed rest).trans _)
    rw [entriesOf_append, hpassed, hrest]
    rfl

/-- What a read of a pending connection tells. -/
theorem Polling.read (hclient : traffic.client connection = .sends transmission) :
    Triple (Polling config transmission connection settled now passed
        (entry :: rest))
      (onNetwork (Streams.read entry.stream (bufferLen config)) :
        DaemonM (Wire traffic) R (Option ℕ) _)
      (fun result daemon => match result with
        | .ok received => InHand config transmission connection settled now
            passed (promote rest) received.1 received.2 daemon
        | .error _ => Blocked config transmission connection settled now passed
            entry rest daemon)
      (Decided config transmission connection) := by
  intro daemon hpolling
  have hperform : perform (onNetwork
      (Streams.read entry.stream (bufferLen config))) daemon =
      (.ok (daemon.network.read entry.stream (bufferLen config)).1,
        { daemon with network :=
          (daemon.network.read entry.stream (bufferLen config)).2 }) := rfl
  rw [hperform, Wire.read]
  by_cases hown : entry.stream = connection
  · obtain ⟨-, -, -, hunanswered⟩ := hpolling.only_entry hown
    rw [hown, hclient, Client.read, hunanswered.untaken]
    by_cases hfruitless : transmission.Fruitless daemon.network.tick
    · rw [Transmission.read_of_fruitless hfruitless]
      exact hpolling.fruitless hown hfruitless
    · rw [Transmission.read_of_not_fruitless hfruitless]
      exact hpolling.found hown hfruitless _ rfl
  · have hquiet : ∀ line, Quiet connection daemon
        { daemon with network := daemon.network.step.set entry.stream line } :=
      daemon.quiet_set (Ne.symm hown)
    cases (traffic.client entry.stream).read
      (daemon.network.lines entry.stream).taken (bufferLen config)
      daemon.network.tick with
    | error error =>
        exact ⟨fun _ => (hpolling.quiet (hquiet _)).drop hown,
          fun _ => (hpolling.quiet (hquiet _)).pass hown⟩
    | ok size =>
        exact .other (by simpa using hown)
          ((hpolling.quiet (hquiet _)).drop hown)

theorem InHand.quiet {size : ℕ} {tag : Option ℕ}
    (hinHand : InHand config transmission connection settled now passed rest
      size tag before) (hquiet : Quiet connection before after) :
    InHand config transmission connection settled now passed rest size tag
      after := by
  cases hinHand with
  | other htag hpolling => exact .other htag (hpolling.quiet hquiet)
  | own htag hfound hseen hended hnow hnone =>
      refine .own htag ⟨hquiet.handedFor_eq.trans hfound.nothing, ?_⟩
        (hseen.trans_le hquiet.tick_le) (fun hsettled =>
          Transmission.endedBy_mono hquiet.tick_le (hended hsettled))
        (hnow.trans (traffic.monotone_time hquiet.tick_le)) hnone
      rw [hquiet.line_eq]
      exact hfound.polled

/-- The daemon has not started yet. -/
structure Idle (daemon : Daemon (Wire traffic) R (Option ℕ)) : Prop where
  network_eq : daemon.network = .fresh traffic
  handed_eq : daemon.handed = []

theorem Idle.known {daemon : Daemon (Wire traffic) R (Option ℕ)}
    (hidle : daemon.Idle) :
    Known config transmission connection False [] daemon := by
  have hline : daemon.network.lines connection = ⟨none, 0, []⟩ := by
    rw [hidle.network_eq]
    rfl
  refine ⟨.unseen (by rw [hline]) ⟨?_, ?_, ?_⟩, False.elim⟩
  · rw [handedFor, hidle.handed_eq]
    rfl
  · rw [hline]
  · rw [hline]
    simp

/-! ## The payload -/

/-- Every poll of the connection finds nothing or all that the daemon can take
of the payload. -/
def PolledWhole (config : Config) (transmission : Transmission)
    (polls : List ℕ) : Prop :=
  ∀ tick ∈ polls, transmission.arrivedBy tick = 0 ∨
    min transmission.total (bufferLen config) ≤ transmission.arrivedBy tick

/-- The size handed over is that of the payload exactly when no poll came in
the midst of it. -/
theorem Answered.size_iff {daemon : Daemon (Wire traffic) R (Option ℕ)}
    (hanswered : Answered config transmission connection daemon) :
    ∃ handed, daemon.handedFor connection = [handed] ∧
      (handed.arrival.payloadSize =
          min transmission.total (bufferLen config) ↔
        PolledWhole config transmission
          (daemon.network.lines connection).polls) := by
  obtain ⟨handed, earlier, last, hhanded, hpolls, hearlier, hfound, hsize⟩ :=
    hanswered
  have hle := transmission.arrivedBy_le_total last
  refine ⟨handed, hhanded, ?_⟩
  rw [hsize, hpolls]
  constructor
  · intro hwhole tick htick
    rcases List.mem_append.mp htick with hmem | hmem
    · exact Or.inl (hearlier tick hmem).1
    · rw [List.mem_singleton.mp hmem, ← hwhole]
      exact Or.inr (Nat.min_le_left _ _)
  · intro hwhole
    rcases hwhole last (List.mem_append_right _ List.mem_cons_self) with
      hnothing | hmost
    · have hended : transmission.endedBy last = true :=
        Bool.not_eq_false _ |>.mp fun hopen => hfound ⟨hnothing, hopen⟩
      rw [Transmission.arrivedBy_of_endedBy hended]
    · omega

/-- The run leaves at most one packet of the connection, which has the size of
the payload exactly when no poll came in the midst of it. -/
theorem Decided.size_iff {daemon : Daemon (Wire traffic) R (Option ℕ)}
    (hdecided : Decided config transmission connection daemon)
    {handed : Handed (Option ℕ)} (hmem : handed ∈ daemon.handed)
    (htag : handed.tag = some connection) :
    daemon.handedFor connection = [handed] ∧
      (handed.arrival.payloadSize =
          min transmission.total (bufferLen config) ↔
        PolledWhole config transmission
          (daemon.network.lines connection).polls) := by
  have hown : handed ∈ daemon.handedFor connection :=
    List.mem_filter.mpr ⟨hmem, decide_eq_true htag⟩
  rcases hdecided with hunanswered | hanswered
  · rw [hunanswered.nothing] at hown
    cases hown
  · obtain ⟨other, hother, hsize⟩ := hanswered.size_iff
    rw [hother, List.mem_singleton] at hown
    subst hown
    exact ⟨hother, hsize⟩

end Daemon

end SshKnock

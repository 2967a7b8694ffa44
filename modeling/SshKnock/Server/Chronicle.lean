import SshKnock.Knock.Soundness
import SshKnock.Server.LoopRule

/-!
# The history behind an accepted packet

The daemon's history of processed packets explains every partial state: the
packets of its source that were processed last spell the first steps of the
sequence.  A source that gets banned loses its partial state, so packets that
are ignored never lie between the packets of a knock.
-/

namespace SshKnock

open Fallible
open SshKnock.KnockRules (Explained EndsInKnock)

namespace Handed

variable {Tag : Type}

def sourceIp (handed : Handed Tag) : IpAddr :=
  handed.arrival.sourceIp

/-- The tracker's view of the packet. -/
def call (handed : Handed Tag) : KnockTracker.KnockCall :=
  { input := handed.arrival.packet, time := handed.arrival.now
    hint := handed.before.tracker.room handed.arrival.packet handed.arrival.now
    output := handed.before.outcome handed.arrival }

/-- The packet is not ignored and completes the knock. -/
def Accepted (handed : Handed Tag) : Prop :=
  handed.before.bannedAt handed.sourceIp handed.arrival.now = false ∧
    handed.before.outcome handed.arrival = .accepted

/-- The packets of one source. -/
def own (sourceIp : IpAddr) (history : List (Handed Tag)) :
    List (Handed Tag) :=
  history.filter fun handed => handed.sourceIp = sourceIp

theorem own_append_self (history : List (Handed Tag)) (handed : Handed Tag) :
    own handed.sourceIp (history ++ [handed]) =
      own handed.sourceIp history ++ [handed] := by
  simp [own]

theorem own_append_other {sourceIp : IpAddr} (history : List (Handed Tag))
    {handed : Handed Tag} (hother : handed.sourceIp ≠ sourceIp) :
    own sourceIp (history ++ [handed]) = own sourceIp history := by
  simp [own, hother]

end Handed

namespace Server

variable {Tag : Type} {config : Config} {server : Server}
  {history : List (Handed Tag)}

/-- The history explains the partial states, and every accepted packet in it
ends a knock. -/
structure Chronicle (config : Config) (server : Server)
    (history : List (Handed Tag)) : Prop where
  configured : Configured config server
  banned_idle : ∀ sourceIp, server.bannedSources.get sourceIp ≠ none →
    server.tracker.slot sourceIp = none
  explained : ∀ sourceIp, Explained config.knockRules
    ((Handed.own sourceIp history).map Handed.call)
    (server.tracker.slot sourceIp)
  accepted : ∀ earlier handed later,
    history = earlier ++ handed :: later → handed.Accepted →
      EndsInKnock config.knockRules
        ((Handed.own handed.sourceIp (earlier ++ [handed])).map Handed.call)

theorem get_expireBannedSources_ne_none {sourceIp : IpAddr} {now : ℕ}
    (hbanned : (server.expireBannedSources now).bannedSources.get sourceIp ≠
      none) : server.bannedSources.get sourceIp ≠ none :=
  fun hnone => hbanned (get_expireBannedSources_eq_none hnone now)

theorem explained_of_age {rules : KnockRules}
    {past : List KnockTracker.KnockCall} {slot : Slot} (now : ℕ)
    (hpast : Explained rules past slot) :
    Explained rules past (rules.age now slot) := by
  intro state hstate
  exact hpast state (Option.filter_eq_some_iff.mp hstate).1

variable {handed : Handed Tag}

/-- The tracker's answer follows from the history of the source. -/
theorem Chronicle.explained_call
    (hchronicle : Chronicle config handed.before history) :
    Explained config.knockRules
        ((Handed.own handed.sourceIp (history ++ [handed])).map Handed.call)
        ((handed.before.tracked handed.arrival).tracker.slot
          handed.sourceIp) ∧
      (handed.Accepted → EndsInKnock config.knockRules
        ((Handed.own handed.sourceIp (history ++ [handed])).map
          Handed.call)) := by
  have hanswers := KnockTracker.answers_process
    hchronicle.configured.tracker_consistent handed.arrival.packet
    handed.arrival.now
  have hslot : (handed.before.tracked handed.arrival).tracker.slot
      handed.sourceIp =
        (config.knockRules.advance handed.call.hint handed.call.input
          handed.call.time
          (handed.before.tracker.slot handed.sourceIp)).2 := hanswers.slot_eq
  have houtput : handed.call.output =
      (config.knockRules.advance handed.call.hint handed.call.input
        handed.call.time
        (handed.before.tracker.slot handed.sourceIp)).1 := hanswers.outcome_eq
  obtain ⟨hexplained, hends⟩ := KnockRules.explained_step
    (hchronicle.explained handed.sourceIp) houtput
  rw [Handed.own_append_self, List.map_append, hslot]
  exact ⟨hexplained, fun haccepted => hends haccepted.2⟩

/-- A packet that reaches the tracker is added to the history of its source. -/
theorem Chronicle.explained_tracked
    (hchronicle : Chronicle config handed.before history) (sourceIp : IpAddr) :
    Explained config.knockRules
      ((Handed.own sourceIp (history ++ [handed])).map Handed.call)
      ((handed.before.tracked handed.arrival).tracker.slot sourceIp) := by
  by_cases hown : handed.sourceIp = sourceIp
  · subst hown
    exact hchronicle.explained_call.1
  · have hanswers := KnockTracker.answers_process
      hchronicle.configured.tracker_consistent handed.arrival.packet
      handed.arrival.now
    have hslot := hanswers.slot_other sourceIp (Ne.symm hown)
    rw [KnockTracker.slot_expire,
      hchronicle.configured.tracker_consistent.rules_eq] at hslot
    rw [Handed.own_append_other history hown]
    exact hslot ▸ explained_of_age _ (hchronicle.explained sourceIp)

/-- A packet that is ignored finds its source without a partial state. -/
theorem Chronicle.explained_ignored
    (hchronicle : Chronicle config handed.before history)
    (hbanned : handed.before.bannedAt handed.sourceIp handed.arrival.now =
      true) (sourceIp : IpAddr) :
    Explained config.knockRules
      ((Handed.own sourceIp (history ++ [handed])).map Handed.call)
      (handed.before.tracker.slot sourceIp) := by
  by_cases hown : handed.sourceIp = sourceIp
  · subst hown
    have hidle := hchronicle.banned_idle handed.sourceIp
      (get_expireBannedSources_ne_none (Option.isSome_iff_ne_none.mp hbanned))
    rw [hidle]
    exact fun state hstate => by cases hstate
  · rw [Handed.own_append_other history hown]
    exact hchronicle.explained sourceIp

/-- Among the sources in the ban map none has a partial state. -/
theorem Chronicle.idle_tracked
    (hchronicle : Chronicle config handed.before history)
    (hunbanned : handed.before.bannedAt handed.sourceIp handed.arrival.now =
      false) {sourceIp : IpAddr}
    (hbanned : (handed.before.expireBannedSources
      handed.arrival.now).bannedSources.get sourceIp ≠ none) :
    (handed.before.tracked handed.arrival).tracker.slot sourceIp = none := by
  have hother : sourceIp ≠ handed.sourceIp := by
    rintro rfl
    exact hbanned (bannedAt_eq_false_iff.mp hunbanned)
  have hanswers := KnockTracker.answers_process
    hchronicle.configured.tracker_consistent handed.arrival.packet
    handed.arrival.now
  have hslot : (handed.before.tracked handed.arrival).tracker.slot sourceIp =
      (handed.before.tracker.expire handed.arrival.now).slot sourceIp :=
    hanswers.slot_other sourceIp hother
  rw [hslot, KnockTracker.slot_expire, hchronicle.banned_idle sourceIp
    (get_expireBannedSources_ne_none hbanned)]
  rfl

/-- An invalid packet leaves its source without a partial state. -/
theorem Chronicle.idle_of_isInvalid
    (hchronicle : Chronicle config handed.before history)
    (hinvalid : (handed.before.outcome handed.arrival).isInvalid = true) :
    (handed.before.tracked handed.arrival).tracker.slot handed.sourceIp =
      none := by
  have hanswers := KnockTracker.answers_process
    hchronicle.configured.tracker_consistent handed.arrival.packet
    handed.arrival.now
  rw [outcome, hanswers.outcome_eq] at hinvalid
  exact hanswers.slot_eq.trans (KnockRules.advance_of_isInvalid hinvalid)

theorem Chronicle.accepted_append
    (hchronicle : Chronicle config handed.before history) :
    ∀ earlier found later,
      history ++ [handed] = earlier ++ found :: later → found.Accepted →
        EndsInKnock config.knockRules
          ((Handed.own found.sourceIp (earlier ++ [found])).map
            Handed.call) := by
  intro earlier found later hsplit haccepted
  rcases List.eq_nil_or_concat' later with rfl | ⟨middle, last, rfl⟩
  · obtain ⟨rfl, hlast⟩ := List.append_inj' hsplit rfl
    obtain rfl := List.singleton_inj.mp hlast
    exact hchronicle.explained_call.2 haccepted
  · rw [← List.cons_append, ← List.append_assoc] at hsplit
    obtain ⟨hhistory, -⟩ := List.append_inj' hsplit rfl
    exact hchronicle.accepted earlier found middle hhistory haccepted

/-- Every processed packet continues the chronicle. -/
theorem Chronicle.judge (hchronicle : Chronicle config handed.before history) :
    Chronicle config (handed.before.judge handed.arrival).2
      (history ++ [handed]) := by
  have hconfigured := hchronicle.configured.judge handed.arrival
  have hjudged := handed.before.judged handed.arrival
  generalize handed.before.judge handed.arrival = result
    at hjudged hconfigured ⊢
  cases hjudged with
  | ignored hbanned =>
      exact ⟨hconfigured, fun sourceIp hsource =>
          hchronicle.banned_idle sourceIp
            (get_expireBannedSources_ne_none hsource),
        hchronicle.explained_ignored hbanned, hchronicle.accepted_append⟩
  | valid hunbanned =>
      exact ⟨hconfigured, fun _ hsource =>
          hchronicle.idle_tracked hunbanned hsource,
        hchronicle.explained_tracked, hchronicle.accepted_append⟩
  | tolerated hunbanned =>
      exact ⟨hconfigured, fun _ hsource =>
          hchronicle.idle_tracked hunbanned hsource,
        hchronicle.explained_tracked, hchronicle.accepted_append⟩
  | aborted hunbanned =>
      exact ⟨hconfigured, fun _ hsource =>
          hchronicle.idle_tracked hunbanned hsource,
        hchronicle.explained_tracked, hchronicle.accepted_append⟩
  | banned after hunbanned hinvalid _ hremembered =>
      obtain ⟨bannedSources, rfl, hothers⟩ :=
        rememberBannedSource_eq_some hremembered
      refine ⟨hconfigured, fun sourceIp hsource => ?_,
        hchronicle.explained_tracked, hchronicle.accepted_append⟩
      by_cases hown : sourceIp = handed.sourceIp
      · rw [hown]
        exact hchronicle.idle_of_isInvalid hinvalid
      · simp only [hothers sourceIp hown] at hsource
        exact hchronicle.idle_tracked hunbanned
          (get_expireBannedSources_ne_none hsource)

theorem Chronicle.sameMemory {other : Server}
    (hchronicle : Chronicle config server history)
    (hsame : SameMemory other server) : Chronicle config other history where
  configured := hchronicle.configured.sameMemory hsame
  banned_idle := by
    rw [hsame.bannedSources_eq, hsame.tracker_eq]
    exact hchronicle.banned_idle
  explained := by
    rw [hsame.tracker_eq]
    exact hchronicle.explained
  accepted := hchronicle.accepted

theorem chronicle_started (config : ValidConfig) (device : LogDevice) :
    Chronicle config.toConfig (started config device)
      ([] : List (Handed Tag)) where
  configured := configured_started config device
  banned_idle _ hbanned := absurd (HashMap.get_empty _) hbanned
  explained sourceIp := by
    have hslot : (started config device).tracker.slot sourceIp = none :=
      KnockTracker.slot_fresh _ _ sourceIp
    rw [hslot]
    exact KnockRules.explained_nil _
  accepted earlier handed later hsplit := by simp at hsplit

end Server

namespace Daemon

variable {N R Stream Tag : Type}

/-- The daemon's history is a chronicle of its server. -/
def Chronicled (config : Config) (daemon : Daemon N R Tag) : Prop :=
  Server.Chronicle config daemon.server daemon.handed

theorem keeps_chronicled_onNetwork {α : Type} (config : Config)
    (poll : N → α × N) :
    Keeps (Chronicled config) (onNetwork poll : DaemonM N R Tag α) :=
  fun _ hchronicled => hchronicled

theorem keeps_chronicled_logEvent (config : Config) (event message : String) :
    Keeps (Chronicled config)
      (logEvent event message : DaemonM N R Tag Unit) := by
  apply Keeps.of_perform
  intro daemon hchronicled
  exact Server.Chronicle.sameMemory hchronicled (Server.sameMemory_log rfl)

variable [CommandRunner R]

theorem keeps_chronicled_preflight (config : Config) :
    Keeps (Chronicled config)
      (preflight : DaemonM N R Tag (Except Error Unit)) :=
  fun _ hchronicled => hchronicled

theorem keeps_chronicled_processPacket [Streams N Stream Tag] (config : Config)
    (addr : SocketAddr) (protocol : Protocol) (port : Option UInt16)
    (payloadSize : ℕ) (tag : Tag) :
    Keeps (Chronicled config)
      (processPacket addr protocol port payloadSize tag :
        DaemonM N R Tag Unit) := by
  apply Keeps.of_perform
  intro daemon hchronicled
  let arrival : Arrival :=
    { now := (Streams.now daemon.network).1, addr, protocol, port, payloadSize }
  let handed : Handed Tag := ⟨arrival, tag, daemon.server⟩
  have hbefore : Server.Chronicle config handed.before daemon.handed :=
    hchronicled
  have hjudged := hbefore.judge
  have hsame := Server.sameMemory_enact (daemon.server.judge arrival).2
    daemon.runner arrival (daemon.server.judge arrival).1
  rw [← Server.handle_eq] at hsame
  exact hjudged.sameMemory hsame

/-- Every step of the daemon continues the chronicle. -/
theorem sustains_chronicled [Network N Stream Tag] (config : Config) :
    Sustains (Chronicled config : Daemon N R Tag → Prop)
      (fun _ _ => Chronicled config) (fun _ : PendingTcp Stream => True) where
  now := keeps_chronicled_onNetwork config _
  bind _ := keeps_chronicled_onNetwork config _
  logEvent := keeps_chronicled_logEvent config
  preflight := keeps_chronicled_preflight config
  setNonblocking _ := keeps_chronicled_onNetwork config _
  accept _ := fun _ hchronicled => ⟨hchronicled, fun _ _ _ _ => trivial⟩
  recvUdp _ _ := (keeps_chronicled_onNetwork config _).imp_returned
    fun result _ hchronicled => by cases result <;> exact hchronicled
  recvIcmp _ := (keeps_chronicled_onNetwork config _).imp_returned
    fun result _ hchronicled => by
      cases result with
      | error error => exact hchronicled
      | ok datagram => exact ⟨fun _ => hchronicled, fun _ _ => hchronicled⟩
  read _ _ _ := (keeps_chronicled_onNetwork config _).imp_returned
    fun result _ hchronicled => by cases result <;> exact hchronicled
  close _ := keeps_chronicled_onNetwork config _
  close_inFlight _ _ _ := keeps_chronicled_onNetwork config _
  processPacket := keeps_chronicled_processPacket config

end Daemon

end SshKnock

import SshKnock.Core.HashMap
import SshKnock.Core.RuleChain
import SshKnock.Firewall.Commands

/-!
# The host behind the commands

The host keeps the `INPUT` chain and the existing sets.  Any command may fail,
by not starting or by exiting without success, and then changes nothing; every
command is reported with its answer.
-/

namespace SshKnock

/-- A rule as its `iptables` arguments. -/
abbrev Rule := List String

structure Host where
  chain : List Rule
  sets : HashMap String (List String)

namespace CommandSpec

/-- The rule that the command adds to the chain, if it adds one. -/
def addedRule? (spec : CommandSpec) : Option Rule :=
  match spec.args with
  | "-I" :: "INPUT" :: "1" :: rule => some rule
  | "-A" :: "INPUT" :: rule => some rule
  | _ => none

/-- The rule whose presence the command checks, if it is a check. -/
def checkedRule? (spec : CommandSpec) : Option Rule :=
  match spec.args with
  | "-C" :: "INPUT" :: rule => some rule
  | _ => none

end CommandSpec

namespace Host

def succeeded : CommandStatus :=
  { success := true, code := some 0, diagnostics := "" }

def exitedWith (code : Int32) : CommandStatus :=
  { success := false, code := some code, diagnostics := "" }

/-- Creating a set that exists changes nothing. -/
def createSet (name : String) (options : List String) (host : Host) : Host :=
  if host.sets.containsKey name then host
  else { host with sets := host.sets.insert name options }

/-- The answer to a command and the host after it. -/
def execute (host : Host) (spec : CommandSpec) : CommandStatus × Host :=
  match spec.program, spec.args with
  | "ipset", "create" :: name :: options =>
      if host.sets.containsKey name && !options.elem "-exist" then
        (exitedWith 1, host)
      else (succeeded, host.createSet name options)
  | "ipset", _ => (exitedWith 2, host)
  | _, "-C" :: "INPUT" :: rule =>
      (if rule ∈ host.chain then succeeded else exitedWith 1, host)
  | _, "-I" :: "INPUT" :: "1" :: rule =>
      (succeeded, { host with chain := RuleChain.add .first rule host.chain })
  | _, "-A" :: "INPUT" :: rule =>
      (succeeded, { host with chain := RuleChain.add .last rule host.chain })
  | _, _ => (exitedWith 2, host)

end Host

/-- How a command can fail. -/
inductive Fault where
  | notStarted (error : Error)
  | exited (code : Option Int32) (diagnostics : String)

/-- A command and what it answered. -/
structure Report where
  spec : CommandSpec
  answer : Except Error CommandStatus

/-- A host on which `schedule` says what befalls the next commands; the
commands after it do not fail. -/
structure FaultyHost where
  host : Host
  schedule : List (Option Fault)
  history : List Report

namespace FaultyHost

/-- The answer of a command that meets `fault`.  Exit code 1 is the regular
answer of a check, so it is no fault of one. -/
def answer (host : Host) (spec : CommandSpec) :
    Option Fault → Except Error CommandStatus × Host
  | none => (.ok (host.execute spec).1, (host.execute spec).2)
  | some (.notStarted error) => (.error error, host)
  | some (.exited code diagnostics) =>
      if spec.checkedRule?.isSome && code = some 1 then
        (.ok (host.execute spec).1, (host.execute spec).2)
      else (.ok { success := false, code, diagnostics }, host)

def execute (faulty : FaultyHost) (spec : CommandSpec) :
    Except Error CommandStatus × FaultyHost :=
  let (answer, host) := answer faulty.host spec (faulty.schedule.headD none)
  (answer, { host, schedule := faulty.schedule.tail,
             history := faulty.history ++ [⟨spec, answer⟩] })

instance : CommandRunner FaultyHost where
  runStatus spec := ExceptT.mk fun faulty => faulty.execute spec

end FaultyHost

/-- Every added rule was reported absent, with exit code 1, by its own check
just before. -/
def Checked (history : List Report) : Prop :=
  ∀ (index : ℕ) (report : Report) (rule : Rule),
    history[index]? = some report → report.spec.addedRule? = some rule →
    ∃ (earlier : ℕ) (check : CommandSpec) (status : CommandStatus),
      index = earlier + 1 ∧ history[earlier]? = some ⟨check, .ok status⟩ ∧
        check.program = report.spec.program ∧
        check.checkedRule? = some rule ∧ status.code = some 1

/-- Histories that check what they add can be joined. -/
theorem Checked.append {first second : List Report} (hfirst : Checked first)
    (hsecond : Checked second) : Checked (first ++ second) := by
  intro index report rule hreport hrule
  rw [List.getElem?_append] at hreport
  split at hreport
  · next hbefore =>
      obtain ⟨earlier, check, status, hindex, hcheck, hrest⟩ :=
        hfirst index report rule hreport hrule
      refine ⟨earlier, check, status, hindex, ?_, hrest⟩
      rw [List.getElem?_append_left (by omega), hcheck]
  · next hafter =>
      obtain ⟨earlier, check, status, hindex, hcheck, hrest⟩ :=
        hsecond (index - first.length) report rule hreport hrule
      refine ⟨first.length + earlier, check, status, by omega, ?_, hrest⟩
      rw [List.getElem?_append_right (Nat.le_add_right _ _),
        Nat.add_sub_cancel_left, hcheck]

/-- A command that adds no rule needs no check. -/
theorem checked_singleton {report : Report}
    (hother : report.spec.addedRule? = none) : Checked [report] := by
  intro index found rule hfound hrule
  cases index with
  | zero =>
      simp only [List.getElem?_cons_zero, Option.some.injEq] at hfound
      rw [← hfound, hother] at hrule
      cases hrule
  | succ index => simp at hfound

/-- A check that reports its rule absent lets the rule be added next. -/
theorem checked_pair {check apply : CommandSpec} {rule : Rule}
    {status : CommandStatus} {answer : Except Error CommandStatus}
    (hprogram : check.program = apply.program)
    (hcheck : check.checkedRule? = some rule) (hother : check.addedRule? = none)
    (happly : apply.addedRule? = some rule) (hcode : status.code = some 1) :
    Checked [⟨check, .ok status⟩, ⟨apply, answer⟩] := by
  intro index found added hfound hadded
  cases index with
  | zero =>
      simp only [List.getElem?_cons_zero, Option.some.injEq] at hfound
      rw [← hfound] at hadded
      exact absurd (hother.symm.trans hadded) (by simp)
  | succ index =>
      cases index with
      | zero =>
          simp only [List.getElem?_cons_succ, List.getElem?_cons_zero,
            Option.some.injEq] at hfound
          subst hfound
          rw [happly, Option.some.injEq] at hadded
          exact ⟨0, check, status, rfl, rfl, hprogram, hadded ▸ hcheck, hcode⟩
      | succ index => simp at hfound

end SshKnock

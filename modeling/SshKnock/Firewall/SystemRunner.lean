import SshKnock.Core.PrintedText
import SshKnock.Firewall.Commands

/-!
# Commands as processes

On a real host a command is a process.  Its exit status decides whether it
succeeded, and what it printed ends up in the diagnostics, cut off and quoted,
so that no output can disturb the line it is reported on.
-/

namespace SshKnock

open Text

/-- How a process that has been waited for ended. -/
inductive ExitStatus where
  | exited (code : UInt8)
  | signaled (signal : ℕ) (coreDumped : Bool)

/-- A finished process and the bytes it printed. -/
structure Output where
  status : ExitStatus
  stdout : List UInt8
  stderr : List UInt8

namespace ExitStatus

def success : ExitStatus → Bool
  | exited code => code = 0
  | signaled _ _ => false

def code : ExitStatus → Option Int32
  | exited code => some (Int32.ofNat code.toNat)
  | signaled _ _ => none

/-- The names of the signals from one on. -/
def signalNames : List String :=
  ["SIGHUP", "SIGINT", "SIGQUIT", "SIGILL", "SIGTRAP", "SIGABRT", "SIGBUS",
    "SIGFPE", "SIGKILL", "SIGUSR1", "SIGSEGV", "SIGUSR2", "SIGPIPE", "SIGALRM",
    "SIGTERM", "SIGSTKFLT", "SIGCHLD", "SIGCONT", "SIGSTOP", "SIGTSTP",
    "SIGTTIN", "SIGTTOU", "SIGURG", "SIGXCPU", "SIGXFSZ", "SIGVTALRM",
    "SIGPROF", "SIGWINCH", "SIGIO", "SIGPWR", "SIGSYS"]

def signalString (signal : ℕ) : String :=
  match signal with
  | 0 => ""
  | index + 1 =>
      match signalNames[index]? with
      | some name => s!" ({name})"
      | none => ""

protected def toString : ExitStatus → String
  | exited code => s!"exit status: {code.toNat}"
  | signaled signal coreDumped =>
      let name := signalString signal
      let suffix := if coreDumped then " (core dumped)" else ""
      s!"signal: {signal}{name}{suffix}"

instance : ToString ExitStatus := ⟨ExitStatus.toString⟩

end ExitStatus

namespace SystemCommandRunner

def commandOutputLimitBytes : ℕ := 4096

/-- The first bytes of what a process printed. -/
def boundedCommandOutput (bytes : List UInt8) : List Char :=
  let limit := commandOutputLimitBytes
  let total := bytes.length
  let shown := if limit < total then bytes.take limit else bytes
  let text := trim (fromUtf8Lossy shown)
  if limit < total then
    text ++ s!" <truncated: showing first {limit} of {total} bytes>".toList
  else text

def formatCommandFailure (tables : CharTables) (spec : CommandSpec)
    (output : Output) : String :=
  let args := String.ofList (tables.debugList (spec.args.map String.toList))
  let stdout := String.ofList (tables.debug (boundedCommandOutput output.stdout))
  let stderr := String.ofList (tables.debug (boundedCommandOutput output.stderr))
  s!"command {spec.program} exited unsuccessfully: status={output.status}, args={args}, stdout={stdout}, stderr={stderr}"

/-- The answer of a command whose process ends so, or does not start. -/
def status (tables : CharTables) (spec : CommandSpec) :
    Option Output → Except Error CommandStatus
  | none => .error s!"failed to execute {spec.program}"
  | some output => .ok
      { success := output.status.success
        code := output.status.code
        diagnostics := formatCommandFailure tables spec output }

end SystemCommandRunner

/-- Commands run on a host where a process ends in any way, also depending on
the earlier commands; every command and its process are recorded. -/
structure SystemCommandRunner where
  tables : CharTables
  process : List CommandSpec → CommandSpec → Option Output
  finished : List (CommandSpec × Option Output)

namespace SystemCommandRunner

/-- The runner after one more command. -/
def finish (runner : SystemCommandRunner) (spec : CommandSpec) :
    SystemCommandRunner :=
  let output? := runner.process (runner.finished.map Prod.fst) spec
  { runner with finished := runner.finished ++ [(spec, output?)] }

def execute (runner : SystemCommandRunner) (spec : CommandSpec) :
    Except Error CommandStatus × SystemCommandRunner :=
  (status runner.tables spec
      (runner.process (runner.finished.map Prod.fst) spec),
    runner.finish spec)

instance : CommandRunner SystemCommandRunner where
  runStatus spec := ExceptT.mk fun runner => runner.execute spec

/-- The process ran and reported success. -/
def succeeded (output? : Option Output) : Bool :=
  output?.any (·.status.success)

/-- The commands that have been run, and whether they succeeded. -/
def journal (runner : SystemCommandRunner) : List (CommandSpec × Bool) :=
  runner.finished.map fun finished => (finished.1, succeeded finished.2)

end SystemCommandRunner

/-! ## Plain diagnostics -/

namespace ExitStatus

theorem plain_signalString (signal : ℕ) :
    Plain (signalString signal).toList := by
  have hnames : ∀ name ∈ signalNames, Plain name.toList := by decide
  cases signal with
  | zero => decide
  | succ index =>
      simp only [signalString]
      split
      · next name hname =>
          have hplain := hnames name (List.mem_of_getElem? hname)
          exact .concat (.concat (by decide) hplain) (by decide)
      · decide

theorem plain_toString (status : ExitStatus) :
    Plain (ExitStatus.toString status).toList := by
  cases status with
  | exited code => exact .concat (by decide) (word_toString _).plain
  | signaled signal coreDumped =>
      have hname := plain_signalString signal
      refine .concat (.concat (.concat (by decide)
        (word_toString signal).plain) hname) ?_
      cases coreDumped <;> decide

end ExitStatus

namespace SystemCommandRunner

theorem plain_formatCommandFailure (tables : CharTables) {spec : CommandSpec}
    (hprogram : Plain spec.program.toList) (output : Output) :
    Plain (formatCommandFailure tables spec output).toList := by
  have hquoted : ∀ text : List Char,
      Plain (String.ofList (tables.debug text)).toList := by
    intro text
    rw [String.toList_ofList]
    exact tables.plain_debug text
  have hargs : Plain (String.ofList
      (tables.debugList (spec.args.map String.toList))).toList := by
    rw [String.toList_ofList]
    exact tables.plain_debugList _
  have hbefore : Plain (toString "command " ++ toString spec.program ++
      toString " exited unsuccessfully: status=").toList :=
    .concat (.concat (by decide) hprogram) (by decide)
  have hstatus := hbefore.concat output.status.plain_toString
  exact .concat (.concat (.concat (.concat (.concat (.concat hstatus
    (by decide)) hargs) (by decide)) (hquoted _)) (by decide)) (hquoted _)

/-- Whatever a process prints and however it ends, the error that is reported
is plain; without an error the command has succeeded. -/
theorem required_status (tables : CharTables) {spec : CommandSpec}
    (hprogram : Plain spec.program.toList) (output? : Option Output) :
    match CommandRunner.required (status tables spec output?) with
    | .ok () => succeeded output? = true
    | .error error => succeeded output? = false ∧ Plain error.toList := by
  cases output? with
  | none => exact ⟨rfl, .concat (by decide) hprogram⟩
  | some output =>
      rw [status, CommandRunner.required]
      cases hsuccess : output.status.success with
      | true => exact hsuccess
      | false =>
          exact ⟨hsuccess, plain_formatCommandFailure tables hprogram output⟩

theorem journal_finish (runner : SystemCommandRunner) (spec : CommandSpec) :
    (runner.finish spec).journal = runner.journal ++
      [(spec, succeeded (runner.process (runner.finished.map Prod.fst) spec))] := by
  rw [journal, finish, List.map_append]
  rfl

/-- A command that has to succeed is recorded with its success, and its error
is plain. -/
theorem perform_run (runner : SystemCommandRunner) {spec : CommandSpec}
    (hprogram : Plain spec.program.toList) :
    match Fallible.perform (CommandRunner.run spec) runner with
    | (.ok (), after) => after.journal = runner.journal ++ [(spec, true)]
    | (.error error, after) =>
        after.journal = runner.journal ++ [(spec, false)] ∧
          Plain error.toList := by
  have hjournal := runner.journal_finish spec
  have hrequired := required_status runner.tables hprogram
    (runner.process (runner.finished.map Prod.fst) spec)
  have hperform : Fallible.perform (CommandRunner.run spec) runner =
      (CommandRunner.required (status runner.tables spec
        (runner.process (runner.finished.map Prod.fst) spec)),
        runner.finish spec) := CommandRunner.perform_run spec runner
  rw [hperform]
  split at hrequired
  · next hok =>
      rw [hok, ← hrequired]
      exact hjournal
  · next error hfailed =>
      rw [hfailed, ← hrequired.1]
      exact ⟨hjournal, hrequired.2⟩

end SystemCommandRunner

end SshKnock

/-! # How a process ended

A process ends with a code of its own or by a signal; code zero alone is a success.
-/

set_option autoImplicit false

namespace Stagehand

inductive ExitStatus where
  | exited (code : Nat)
  | signaled (signal : Nat) (coreDumped : Bool)
deriving DecidableEq, Inhabited, Repr

namespace ExitStatus

/-- The names of the signals, in the order of their numbers from one on. -/
def signalNames : List String :=
  ["SIGHUP", "SIGINT", "SIGQUIT", "SIGILL", "SIGTRAP", "SIGABRT", "SIGBUS", "SIGFPE", "SIGKILL",
   "SIGUSR1", "SIGSEGV", "SIGUSR2", "SIGPIPE", "SIGALRM", "SIGTERM", "SIGSTKFLT", "SIGCHLD",
   "SIGCONT", "SIGSTOP", "SIGTSTP", "SIGTTIN", "SIGTTOU", "SIGURG", "SIGXCPU", "SIGXFSZ",
   "SIGVTALRM", "SIGPROF", "SIGWINCH", "SIGIO", "SIGPWR", "SIGSYS"]

def signalName? : Nat → Option String
  | 0 => none
  | number + 1 => signalNames[number]?

/-- The process did what it was asked. -/
def isSuccess : ExitStatus → Bool
  | .exited code => code = 0
  | .signaled _ _ => false

def text : ExitStatus → String
  | .exited code => s!"exit status: {code}"
  | .signaled signal coreDumped =>
      let named :=
        match signalName? signal with
        | some name => s!"signal: {signal} ({name})"
        | none => s!"signal: {signal}"
      if coreDumped then named ++ " (core dumped)" else named

end ExitStatus
end Stagehand

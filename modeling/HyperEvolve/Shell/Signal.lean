/-!
# Signals

Numbers and names of signals, what they do to a process that does not expect them, and what a shell
says about a process that one of them has ended.
-/

namespace HyperEvolve

namespace Shell

/-- What a signal does to a process that has no plans for it. -/
inductive SignalEffect where
  | ends
  | ignored
  | stops
deriving DecidableEq, Repr

structure Signal where
  name : String
  /-- What a shell says about a process that has died of it. -/
  obituary : String
  effect : SignalEffect
deriving DecidableEq, Repr

namespace Signal

/-- The signals by number, from one on. Those without a name of their own are named by their number. -/
def first : List Signal :=
  [⟨"HUP", "Hangup", .ends⟩, ⟨"INT", "", .ends⟩, ⟨"QUIT", "Quit", .ends⟩,
    ⟨"ILL", "Illegal instruction", .ends⟩, ⟨"TRAP", "Trace/breakpoint trap", .ends⟩,
    ⟨"ABRT", "Aborted", .ends⟩, ⟨"BUS", "Bus error", .ends⟩, ⟨"FPE", "Floating point exception", .ends⟩,
    ⟨"KILL", "Killed", .ends⟩, ⟨"USR1", "User defined signal 1", .ends⟩,
    ⟨"SEGV", "Segmentation fault", .ends⟩, ⟨"USR2", "User defined signal 2", .ends⟩, ⟨"PIPE", "", .ends⟩,
    ⟨"ALRM", "Alarm clock", .ends⟩, ⟨"TERM", "Terminated", .ends⟩, ⟨"16", "Stack fault", .ends⟩,
    ⟨"CHLD", "", .ignored⟩, ⟨"CONT", "", .ignored⟩, ⟨"STOP", "", .stops⟩, ⟨"TSTP", "", .stops⟩,
    ⟨"TTIN", "", .stops⟩, ⟨"TTOU", "", .stops⟩, ⟨"URG", "", .ignored⟩,
    ⟨"XCPU", "CPU time limit exceeded", .ends⟩, ⟨"XFSZ", "File size limit exceeded", .ends⟩,
    ⟨"VTALRM", "Virtual timer expired", .ends⟩, ⟨"PROF", "Profiling timer expired", .ends⟩,
    ⟨"WINCH", "", .ignored⟩, ⟨"IO", "I/O possible", .ends⟩, ⟨"PWR", "Power failure", .ends⟩,
    ⟨"SYS", "Bad system call", .ends⟩, ⟨"32", "Unknown signal 32", .ends⟩, ⟨"33", "Unknown signal 33", .ends⟩]

/-- The signals for real-time use, of which a program may define the meaning. -/
def realTime : List Signal :=
  (List.range 31).map fun i =>
    let name :=
      if i = 0 then "RTMIN" else if i = 30 then "RTMAX"
      else if i ≤ 15 then s!"RTMIN+{i}" else s!"RTMAX-{30 - i}"
    ⟨name, s!"Real-time signal {i}", .ends⟩

def all : List Signal := first ++ realTime

/-- The signal of a number. -/
def ofNumber? (n : Nat) : Option Signal := if n = 0 then none else all[n - 1]?

/-- The name of zero, which stands for the end of a shell. -/
def exitName : String := "EXIT"

def nameOf (n : Nat) : String := ((ofNumber? n).map Signal.name).getD exitName

/-- The number that a word stands for: a number itself, or the name of a signal in any case. -/
def number? (word : String) : Option Nat :=
  let cs := word.toList
  if !cs.isEmpty && cs.all Char.isDigit then
    let n := cs.foldl (fun n c => n * 10 + (c.toNat - 48)) 0
    if n ≤ all.length then some n else none
  else (all.findIdx? fun s => s.name.toLower = word.toLower).map (· + 1)

/-- The same where the end of a shell counts as a signal. -/
def trapNumber? (word : String) : Option Nat :=
  if word.toLower = exitName.toLower then some 0 else number? word

def obituaryOf (n : Nat) : String := ((ofNumber? n).map Signal.obituary).getD ""

def effectOf (n : Nat) : SignalEffect := ((ofNumber? n).map Signal.effect).getD .ignored

/-- The signal that cannot be expected. -/
def kill : Nat := 9

def terminate : Nat := 15

/-- The signal of a process that has used up its stack. -/
def segmentation : Nat := 11

end Signal

end Shell

end HyperEvolve

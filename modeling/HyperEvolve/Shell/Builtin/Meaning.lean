import HyperEvolve.Shell.Machine
import HyperEvolve.Shell.System

/-!
# What names mean to a shell

A name may be a keyword, stand for other text, or be that of a function, of a command of the shell or of
a program.
-/

namespace HyperEvolve

namespace Shell

open Sh

/-- Commands whose faults end the shell and whose assignments stay. -/
def specialBuiltins : List String :=
  [".", ":", "break", "continue", "eval", "exec", "exit", "export", "local", "readonly", "return", "set", "shift",
    "times", "trap", "unset"]

def plainBuiltins : List String :=
  ["[", "alias", "bg", "cd", "chdir", "command", "echo", "false", "fg", "getopts", "hash", "jobs", "kill", "printf",
    "pwd", "read", "test", "true", "type", "ulimit", "umask", "unalias", "wait"]

def isBuiltin (name : String) : Bool := specialBuiltins.contains name || plainBuiltins.contains name

/-- The program of a name where the shell looks for it. -/
def lookupCommand (name : String) : Sh Lookup := do
  let t := (← machine).tree
  if name.toList.contains '/' then return lookupPath t name
  let path ← valueOr "PATH" (":".intercalate programDirectories)
  return lookupIn t (path.splitOn ":") name

/-- The path at which a program is found. -/
def programPath? (name : String) : Sh (Option String) := do
  let t := (← machine).tree
  let found (path : String) : Bool := match lookupPath t path with
    | .found _ => true
    | _ => false
  if name.toList.contains '/' then return if found name then some name else none
  let path ← valueOr "PATH" (":".intercalate programDirectories)
  return ((path.splitOn ":").map (· ++ "/" ++ name)).find? found

inductive Meaning where
  | keyword
  | nickname (text : String)
  | function
  | builtin
  | program (path : String)
  | nothing

def meaningOf (name : String) : Sh Meaning := do
  if keywords.contains name then return .keyword
  match (← shell).aliases.lookup name with
  | some text => return .nickname text
  | none =>
    if ((← shell).functions.lookup name).isSome then return .function
    if isBuiltin name then return .builtin
    return (← programPath? name).elim .nothing .program

namespace Meaning

def text (name : String) : Meaning → String
  | .keyword => name ++ " is a shell keyword"
  | .nickname text => name ++ " is an alias for " ++ text
  | .function => name ++ " is a shell function"
  | .builtin => name ++ if specialBuiltins.contains name then " is a special shell builtin" else " is a shell builtin"
  | .program path => name ++ " is " ++ path
  | .nothing => name ++ ": not found"

def isSomething : Meaning → Bool
  | .nothing => false
  | _ => true

end Meaning

end Shell

end HyperEvolve

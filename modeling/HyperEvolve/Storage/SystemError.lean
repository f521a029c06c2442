import HyperEvolve.Decimal.Integer
import HyperEvolve.Text.Quoted
import HyperEvolve.Text.Utf8

/-!
# Errors of the operating system

The errors that reading, writing and starting a program can meet, each with the path it is about. Six
of them arise in a file tree; all others, such as a full device or a file of no executable format, are
known by number and words and come from outside only.
-/

namespace HyperEvolve

inductive Errno where
  | noEntry
  | denied
  | exists
  | notDirectory
  | isDirectory
  | nameTooLong
  /-- Any other error, by its number and its words. -/
  | other (code : Nat) (text : String)
deriving DecidableEq, Repr

namespace Errno

def code : Errno → Nat
  | .noEntry => 2
  | .denied => 13
  | .exists => 17
  | .notDirectory => 20
  | .isDirectory => 21
  | .nameTooLong => 36
  | .other code _ => code

def text : Errno → String
  | .noEntry => "No such file or directory"
  | .denied => "Permission denied"
  | .exists => "File exists"
  | .notDirectory => "Not a directory"
  | .isDirectory => "Is a directory"
  | .nameTooLong => "File name too long"
  | .other _ text => text

end Errno

structure SystemError where
  errno : Errno
  path : String
deriving DecidableEq, Repr

def SystemError.message (e : SystemError) : String :=
  s!"[Errno {e.errno.code}] {e.errno.text}: {quotedString e.path}"

/-- A failure below the program that it does not turn into an error of its own. -/
inductive Escape where
  | system (error : SystemError)
  | undecodable (fault : DecodeFault)
  | unencodable (fault : EncodeFault)
  | nullByte
  /-- An integer with more digits than are written. -/
  | longInteger
deriving DecidableEq, Repr

def Escape.message : Escape → String
  | .system e => e.message
  | .undecodable f => f.message
  | .unencodable f => f.message
  | .nullByte => "embedded null byte"
  | .longInteger => Decimal.tooLongToWrite

end HyperEvolve

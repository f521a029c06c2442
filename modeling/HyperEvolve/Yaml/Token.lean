import HyperEvolve.Yaml.Fault

/-!
# Tokens of a settings text
-/

namespace HyperEvolve

namespace Yaml

inductive Directive where
  | version (major : Nat)
  | handle (name prefixed : String)
  | unknown
deriving DecidableEq, Repr

inductive Token where
  | directive (d : Directive)
  | documentStart
  | documentEnd
  | sequenceStart
  | mappingStart
  | blockEnd
  | flowSequenceStart
  | flowSequenceEnd
  | flowMappingStart
  | flowMappingEnd
  | blockEntry
  | flowEntry
  | key
  | value
  | reference (name : String)
  | anchor (name : String)
  | tag (handle : Option String) (suffix : String)
  | scalar (text : Text) (plain : Bool)
  /-- The text cannot be read further. -/
  | fault (fault : Fault)
deriving DecidableEq, Repr

end Yaml

end HyperEvolve

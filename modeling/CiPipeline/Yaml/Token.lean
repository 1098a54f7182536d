/-! The tokens of a document: indicators, the collections that indentation opens and closes, and the
contents between them. -/
namespace CiPipeline.Yaml

inductive Directive
  | version (major minor : Nat)
  | tagHandle (handle start : String)
  | reserved (name : String)
deriving Repr, DecidableEq

inductive Token
  | streamEnd
  | directive (content : Directive)
  | documentStart
  | documentEnd
  | blockSequenceStart
  | blockMappingStart
  | blockEnd
  | flowSequenceStart
  | flowSequenceEnd
  | flowMappingStart
  | flowMappingEnd
  | blockEntry
  | flowEntry
  | key
  | value
  | alias (name : String)
  | anchor (name : String)
  | tag (handle : Option String) (suffix : String)
  | scalar (text : String) (plain : Bool)
deriving Repr, DecidableEq

/-- Why a text describes no nodes: it breaks a rule of the notation, an escape names a number beyond
the last character, possibly one that no signed word of 32 bits holds, a version has too many digits,
or collections are nested too deeply. -/
inductive Fault
  | malformed
  | beyondLastChar
  | beyondWord
  | longNumber (count : Nat)
  | tooDeep
deriving Repr, DecidableEq

end CiPipeline.Yaml

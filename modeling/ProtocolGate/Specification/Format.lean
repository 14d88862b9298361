import ProtocolGate.Document
import ProtocolGate.Document.Yaml
import ProtocolGate.Specification.Header
import ProtocolGate.Unicode.Ranges

/-!
The formats of a specification. A format is named by a text; blanks around the name and the case of
its letters do not count, and two formats have a second name.
-/

namespace ProtocolGate

namespace Specification

inductive Format where
  | yaml
  | json
  | header
deriving DecidableEq

namespace Format

def all : List Format := [yaml, json, header]

def name : Format → String
  | yaml => "yaml"
  | json => "json"
  | header => "header"

def aliases : List (Text × Format) :=
  [("yml".toList, yaml), ("c_header".toList, header)]

/-- A name without the blanks around it, in lower case. Only ASCII letters are lowered, since no
name has a letter that another character lowers to. -/
def key (given : Text) : Text :=
  asciiLower (Unicode.trimBlanks given)

def ofText? (given : Text) : Option Format :=
  match aliases.lookup (key given) with
  | some format => some format
  | none => all.find? fun format => format.name.toList == key given

def ofDatum (given : Datum) : Except Fault Format :=
  match ofText? given.asText with
  | some format => .ok format
  | none => .error (.formatUnknown given (all.map name))

end Format

def render (specification : Specification) : Format → Text
  | .yaml => Document.Yaml.render specification.toDocument
  | .json => Document.Json.render specification.toDocument
  | .header => Header.render specification

end Specification

def Engine.exportAs (engine : Engine) (format : Datum) : Except Failure Text := do
  let specification ← engine.specification
  return specification.render (← (Specification.Format.ofDatum format).mapError .fault)

end ProtocolGate

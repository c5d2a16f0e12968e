import PrintSpec.Document.Json.Reader
import PrintSpec.Document.Json.Writer
import PrintSpec.Document.Yaml.Reader
import PrintSpec.Document.Yaml.Writer
import PrintSpec.Record

/-!
# Token dumps

Token groups written as a document in one of two formats, and read back from it.
-/

namespace PrintSpec.Dump

/-- The dump of some groups. -/
def render (format : DumpFormat) (groups : List RecordGroup) : String :=
  match format with
  | .json => Json.render (.list (groups.map RecordGroup.toValue))
  | .yaml => Yaml.render (groups.map RecordGroup.toValue)

/-- Why a text is not loaded. -/
inductive Error where
  | malformedJson
  | malformedYaml
  /-- An escape in it stands for no character. -/
  | noCharacter (e : Text.CodeError)
  | numeral (e : Numeral.Error)
  /-- The document does not hold groups. -/
  | record (e : RecordError)
  deriving BEq, Repr

/-- Reads a text as a document. -/
def parse (format : DumpFormat) (text : String) : Except Error Value :=
  match format with
  | .json =>
    match Json.parse text with
    | .ok v => .ok v
    | .error .malformed => .error .malformedJson
    | .error (.numeral e) => .error (.numeral e)
  | .yaml =>
    match Yaml.parse text with
    | .ok v => .ok v
    | .error .malformed => .error .malformedYaml
    | .error (.noCharacter e) => .error (.noCharacter e)
    | .error (.numeral e) => .error (.numeral e)

/-- The document whose groups are loaded.  A YAML document that counts as false holds none. -/
def content (format : DumpFormat) (v : Value) : Value :=
  match format with
  | .json => v
  | .yaml => if v.isTruthy then v else .list []

/-- Reads the groups of a dump. -/
def load (format : DumpFormat) (text : String) : Except Error (List RecordGroup) := do
  let v ← parse format text
  (RecordGroup.ofDocument (content format v)).mapError .record

end PrintSpec.Dump

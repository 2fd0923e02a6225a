import Stackwright.Definition.Reader
import Stackwright.FilePath
import Stackwright.Json.Printer
import Stackwright.Json.Reader
import Stackwright.Template
import Stackwright.Toml.Document
import Stackwright.Yaml.Printer
import Stackwright.Yaml.Source

/-!
# Documents as text

Definitions are written in one of three formats and templates in one of two. A text is refused
either as no text of its format, or because the data in it is not what is asked for.
-/

namespace Stackwright

/-- The formats of definitions. -/
inductive Format where
  | yaml
  | json
  | toml
deriving DecidableEq, Repr

namespace Format

def name : Format → String
  | .yaml => "yaml"
  | .json => "json"
  | .toml => "toml"

/-- The name of the format in messages. -/
def title : Format → String
  | .yaml => "YAML"
  | .json => "JSON"
  | .toml => "TOML"

def wording : Format → Datum.Wording
  | .json => .json
  | _ => .plain

/-- The format that the extension of a path stands for; without a known one it is YAML. -/
def ofPath (p : FilePath) : Format :=
  match p.extension? with
  | some "json" => .json
  | some "toml" => .toml
  | _ => .yaml

end Format

/-- The formats of templates. -/
inductive TemplateFormat where
  | json
  | yaml
deriving DecidableEq, Repr

/-- Why a text is refused. -/
inductive TextError where
  /-- The text is not well-formed. -/
  | malformed
  /-- The data is not a value of the type, said in the words of a format. -/
  | data (wording : Datum.Wording) (error : Datum.Error)

namespace TextError

def message : TextError → String
  | .malformed => "the text is not well-formed"
  | .data wording error => error.message wording

end TextError

/-- Reads a value from a tree that a text spells. -/
def readTree {τ α : Type} (wording : Datum.Wording) (tree : Option τ)
    (read : τ → Except Datum.Error α) : Except TextError α :=
  match tree with
  | none => .error .malformed
  | some tree => (read tree).mapError (.data wording)

/-- The definition that a text holds. -/
def Definition.ofText (format : Format) (text : String) : Except TextError Definition :=
  match format with
  | .json => readTree .json (Json.Written.ofText? text) Definition.read
  | .yaml =>
    readTree .plain ((Yaml.Document.ofText? text).map Yaml.Place.ofDocument) Definition.read
  | .toml => readTree .plain (Toml.Value.ofText? text) Definition.read

namespace Template

/-- The template that a JSON text holds. -/
def ofJsonText (text : String) : Except TextError Template :=
  readTree .json (Json.Written.ofText? text) Template.read

/-- The template that a YAML text holds, by way of its JSON value. -/
def ofYamlText (text : String) : Except TextError Template := do
  let json ← readTree .plain (Yaml.Document.ofText? text) Yaml.Document.toJson
  (Template.read json).mapError (.data .json)

def ofText : TemplateFormat → String → Except TextError Template
  | .json => ofJsonText
  | .yaml => ofYamlText

/-- The text of a template in a format. -/
def text (t : Template) : TemplateFormat → String
  | .json => t.toJson.pretty
  | .yaml => Yaml.render t.toJson

end Template

end Stackwright

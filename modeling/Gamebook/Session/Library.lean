/-
**Loading game documents.**

A document is an object written as JSON; in a file that is not named as JSON it is read as YAML
reads JSON.  It should have stats and a story; a document without them is loaded with a warning.
Where no document can be loaded the bundled game is played.

Main definitions:

* `Library.load` — the document in a file, and the warnings about it;
* `Library.loadOrDemo` — the document in a file or the bundled one, and what the player is told.
-/

import Gamebook.Demo
import Gamebook.Fault
import Gamebook.Json.Reader
import Gamebook.Session.Console
import Gamebook.Text.Lowercase
import Gamebook.Value.Text

set_option autoImplicit false

namespace Gamebook.Library

/-- The sections that every document should have. -/
def requiredSections : List String := ["stats", "story"]

/-- The warning about the sections that a document does not have. -/
def warnings (path : String) (document : Fields Value) : List String :=
  let missing := requiredSections.filter fun (s : String) => (document.get? s).isNone
  if missing.isEmpty then []
  else ["Game data " ++ path ++ " has no " ++ Value.joined ", " missing ++ " section(s)"]

/-- Whether a file is named as JSON. -/
def isJson (path : String) : Bool := ".json".toList.isSuffixOf (Text.lower path).toList

/-- The value of a JSON text; null where the text is blank. -/
def readJson (limit : DigitLimit) (text : String) : Except Json.ReadError Value :=
  if (Text.strip text).isEmpty then .ok .null else Json.read .plain limit text

/-- The value of a YAML text; null where the text is blank.  A text is found malformed before one
of its integers is found to have too many digits. -/
def readYaml (limit : DigitLimit) (text : String) : Except Json.ReadError Value := do
  if text.toList.all Json.Dialect.yaml.isSpace then return .null
  let _ ← Json.read .yaml none text
  Json.read .yaml limit text

/-- The fault of a file that cannot be read. -/
def readFault (path : String) : Json.ReadError → Fault
  | .malformed => .document (.malformed path)
  | .tooManyDigits => .tooManyDigits

/-- The value in a file. -/
def readText (limit : DigitLimit) (path text : String) : Except Fault Value :=
  (if isJson path then readJson limit text else readYaml limit text).mapError (readFault path)

/-- **The document in a file**, given the text of the file if there is one. -/
def load (limit : DigitLimit) (path : String) (text : Option String) :
    Except Fault (Value × List String) := do
  match text with
  | none => throw (.document (.notFound path))
  | some text =>
      match ← readText limit path text with
      | .null => throw (.document (.empty path))
      | .obj fields => return (.obj fields, warnings path fields)
      | _ => throw (.document (.notAnObject path))

/-- What the player is told when no document can be loaded. -/
def refusal (fault : Fault) : String :=
  "⚠️ " ++ fault.message.getD "A number in the game data has too many digits."

/-- **The document in a file, or the bundled one** when there is none, and what the player is
told. -/
def loadOrDemo (limit : DigitLimit) (path : String) (text : Option String) :
    Value × List Notice :=
  match load limit path text with
  | .ok (document, _) => (document, [])
  | .error fault =>
      (Demo.document,
        [⟨.warning, refusal fault⟩, ⟨.info, "Falling back to the bundled demo game."⟩])

end Gamebook.Library

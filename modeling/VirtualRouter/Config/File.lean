import VirtualRouter.Config.Document
import VirtualRouter.Document.Reading
import VirtualRouter.Document.Writing

/-!
Settings in a file. A file that is not there stands for the default settings; one that cannot be read, or whose bytes
are no text, is a failure of the file, and a text that is no document of settings a failure of the settings.
-/

namespace VirtualRouter

/-- What is found under the name of a file. -/
inductive FileState where
  | missing
  /-- A directory, or a file that cannot be opened. -/
  | unreadable
  | contents (bytes : ByteArray)

namespace Config

/-- The settings that a text holds. -/
def ofText? (s : String) : Option Config := (Document.read? s).bind (ofValue? .ignored)

/-- The settings as text. -/
def text (c : Config) : String := c.toValue.render

/-- Reads the settings in a file. -/
def load : FileState → Except Fault Config
  | .missing => .ok {}
  | .unreadable => .error (.io "the file cannot be read")
  | .contents bytes =>
    match String.fromUTF8? bytes with
    | none => .error (.io "the file is no UTF-8 text")
    | some s =>
      match ofText? s with
      | some c => .ok c
      | none => .error (.config "the file holds no settings")

/-- Writes the settings to a file. -/
def save (c : Config) : FileState → Except Fault FileState
  | .unreadable => .error (.io "the file cannot be written")
  | _ => .ok (.contents c.text.toUTF8)

/-- The saved settings are read as the same settings. -/
def reloads (c : Config) : Bool := (c.save .missing >>= load).toOption = some c

end Config

end VirtualRouter

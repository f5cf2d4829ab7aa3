import Courier.Address.Printer
import Courier.Address.Reader
import Courier.Bytes
import Courier.Settings
import Courier.Toml.Writer

/-!
# Settings as TOML documents

Settings are a document with one entry a setting, in a fixed order, and an unset time limit left out. They are
read from any document whose keys are names of settings; a setting without an entry has its default.

What fits documents to settings comes from outside too, and is given as a `Schema`, as texts and documents have
their `Format`: `parseBy` and `printBy?` go through both, `parse` and `print?` take those that are at hand.
-/

namespace Courier.Settings

open Toml (Entry Value Document)

/-! ### Values -/

/-- A count: a number that is not negative. -/
def count? : Value → Option Nat
  | .number n => if 0 ≤ n then some n.toNat else none
  | _ => none

def flag? : Value → Option Bool
  | .flag b => some b
  | _ => none

def address? : Value → Option SocketAddress
  | .text chars => SocketAddress.parse? chars
  | _ => none

/-! ### Documents -/

def listenKey : List Char := "listen".toList
def maxHeaderBytesKey : List Char := "max_header_bytes".toList
def keepAliveKey : List Char := "keep_alive".toList
def headerReadTimeoutKey : List Char := "header_read_timeout_secs".toList

def keys : List (List Char) := [listenKey, maxHeaderBytesKey, keepAliveKey, headerReadTimeoutKey]

/-- The settings as a document. -/
def toDocument (settings : Settings) : Document :=
  [⟨listenKey, .text settings.listen.print⟩,
    ⟨maxHeaderBytesKey, .number settings.maxHeaderBytes⟩,
    ⟨keepAliveKey, .flag settings.keepAlive⟩] ++
  settings.headerReadTimeout.toList.map fun seconds => ⟨headerReadTimeoutKey, .number seconds⟩

/-- What a document says of one setting: what is read from the value of its key, or else the default. -/
def setting? {α : Type} (document : Document) (key : List Char) (read : Value → Option α) (default : α) : Option α :=
  match document.find? (·.key = key) with
  | some entry => read entry.value
  | none => some default

/-- The settings that a document gives; there are none if it has an unknown key, or a value that does not suit
its key. -/
def ofDocument? (document : Document) : Option Settings := do
  let default : Settings := {}
  let listen ← setting? document listenKey address? default.listen
  let maxHeaderBytes ← setting? document maxHeaderBytesKey count? default.maxHeaderBytes
  let keepAlive ← setting? document keepAliveKey flag? default.keepAlive
  let headerReadTimeout ←
    setting? document headerReadTimeoutKey (fun value => (count? value).map some) default.headerReadTimeout
  if ∀ entry ∈ document, entry.key ∈ keys then some { listen, maxHeaderBytes, keepAlive, headerReadTimeout } else none

structure Schema where
  encode : Settings → Document
  decode? : Document → Option Settings

/-- What is relied on of a schema. -/
structure Schema.Lawful (schema : Schema) : Prop where
  /-- Each setting has an entry under its name, with its own value, but for a time limit that is not set. -/
  encode_eq : ∀ settings, schema.encode settings = settings.toDocument
  /-- Unknown names are denied, each setting is read from the value under its name, and one without an entry has
  its default. -/
  decode_iff : ∀ document : Document, (document.map (·.key)).Nodup → ∀ settings : Settings,
    schema.decode? document = some settings ↔ (∀ entry ∈ document, entry.key ∈ keys) ∧
      setting? document listenKey address? ({} : Settings).listen = some settings.listen ∧
      setting? document maxHeaderBytesKey count? ({} : Settings).maxHeaderBytes = some settings.maxHeaderBytes ∧
      setting? document keepAliveKey flag? ({} : Settings).keepAlive = some settings.keepAlive ∧
      setting? document headerReadTimeoutKey (fun value => (count? value).map some)
        ({} : Settings).headerReadTimeout = some settings.headerReadTimeout

/-- The schema of the settings. -/
def schema : Schema where
  encode := toDocument
  decode? := ofDocument?

/-! ### Texts -/

/-- Reads and checks settings. -/
def parseBy (format : Toml.Format) (schema : Schema) (text : List Char) : Except Failure Settings :=
  match (format.read? text).bind schema.decode? with
  | some settings => settings.validate
  | none => .error .malformed

/-- The text of a document of the settings, if their numbers can be written. -/
def printBy? (format : Toml.Format) (schema : Schema) (settings : Settings) : Option (List Char) :=
  format.write? (schema.encode settings)

def parse : List Char → Except Failure Settings := parseBy Toml.format schema

def print? : Settings → Option (List Char) := printBy? Toml.format schema

/-- The fault of a file that is not text. -/
def notText : Fault := .ioWith .invalidData (.foreign "stream did not contain valid UTF-8")

/-- Reads and checks settings from the contents of a file. -/
def ofFile (contents : Except Fault Bytes) : Except Failure Settings :=
  match contents with
  | .error fault => .error (.unreadable fault)
  | .ok bytes =>
    match bytes.toString? with
    | some text => parse text.toList
    | none => .error (.unreadable notText)

end Courier.Settings

import ScriptBridge.Config.Document
import ScriptBridge.Duration
import ScriptBridge.Json.Writer
import ScriptBridge.SocketAddress
import ScriptBridge.Table
import ScriptBridge.Text.Numeral

/-!
# Sections

A section of a configuration is a structure with named fields. Each field can be read from a
document and written as JSON; a section is read field by field over given values, and written in the
order of its fields.
-/

namespace ScriptBridge

/-- Whether a section may be given as a list of its fields in order. -/
inductive ListSections where
  /-- A list is no section. -/
  | refused
  /-- A list has at most as many items as there are fields. -/
  | exact
  /-- Items behind the last field do not count. -/
  | open
  deriving Repr, DecidableEq

/-- A kind of setting: how it is read from a document and written as JSON. -/
structure Setting (α : Type) where
  read : ListSections → Document → Option α
  write : α → Json

namespace Setting

/-- A setting that does not hang on how sections may be given. -/
def scalar {α : Type} (read : Document → Option α) (write : α → Json) : Setting α :=
  ⟨fun _ => read, write⟩

def text : Setting String :=
  scalar Document.text? Json.text

def bool : Setting Bool :=
  scalar Document.bool? Json.bool

/-- An unsigned integer of 64 bits. -/
def word : Setting UInt64 :=
  scalar (fun doc => (doc.nat? Numeral.maxWord).map UInt64.ofNat) (fun n => .whole n.toNat)

/-- An unsigned integer of 16 bits. -/
def port : Setting UInt16 :=
  scalar (fun doc => (doc.nat? 65535).map UInt16.ofNat) (fun n => .whole n.toNat)

def duration : Setting Duration :=
  scalar (fun doc => doc.text?.bind Duration.parse?) (fun span => .text span.render)

def address : Setting SocketAddress :=
  scalar (fun doc => doc.text?.bind SocketAddress.parse?) (fun address => .text address.render)

/-- Texts under names; of one name the last counts. -/
def texts : Setting (Table String) :=
  scalar
    (fun doc => do
      let members ← doc.members?
      let pairs ← members.mapM fun (name, member) => member.text?.map fun value => (name, value)
      some (.ofPairs pairs))
    (fun table => .object (table.map fun (name, value) => (name, .text value)))

end Setting

/-- A named field of a section. -/
structure Field (σ : Type) where
  name : String
  read : ListSections → Document → σ → Option σ
  write : σ → Json

namespace Field

def of {σ α : Type} (name : String) (setting : Setting α) (get : σ → α) (set : α → σ → σ) :
    Field σ where
  name
  read lists doc section_ := (setting.read lists doc).map fun value => set value section_
  write section_ := setting.write (get section_)

variable {σ : Type}

/-- Reads the members of a section one after the other. A name that no field has does not count, and
    no field may come twice. -/
def readMembers (fields : List (Field σ)) (lists : ListSections) (seen : List String) (start : σ) :
    List (String × Document) → Option σ
  | [] => some start
  | (name, member) :: rest =>
    match fields.find? (·.name == name) with
    | none => readMembers fields lists seen start rest
    | some field =>
      if seen.contains name then none
      else do
        let next ← field.read lists member start
        readMembers fields lists (name :: seen) next rest

/-- Reads the items of a section in the order of its fields. -/
def readItems (lists : ListSections) (start : σ) :
    List (Field σ) → List Document → Option σ
  | _, [] => some start
  | [], _ :: _ => if lists = .open then some start else none
  | field :: fields, item :: items => do
    let next ← field.read lists item start
    readItems lists next fields items

def readSection (fields : List (Field σ)) (start : σ) (lists : ListSections) :
    Document → Option σ
  | .table members => readMembers fields lists [] start members
  | .plain "" => some start
  | .list items => if lists = .refused then none else readItems lists start fields items
  | _ => none

/-- Writes a section in the order of its fields. -/
def writeSection (fields : List (Field σ)) (section_ : σ) : Json :=
  .object (fields.map fun field => (field.name, field.write section_))

/-- A section as a setting: fields that are not given have the values of `start`. -/
def setting (fields : List (Field σ)) (start : σ) : Setting σ :=
  ⟨readSection fields start, writeSection fields⟩

end Field

end ScriptBridge

import ScriptBridge.Script.Operation

/-!
# Access

Steps into data: to the item under a key, or to a property. Lists and texts are counted from either
end, and an integer is a list of its bits. `item` and `property` read; `Assignment.apply` changes
what steps lead to, within all that they lead through.
-/

namespace ScriptBridge.Script

namespace Datum

/-- The place of an item. Negative indices count from the end. -/
def place? (size : Nat) (index : Int) : Option Nat :=
  let n := if index < 0 then size + index else index
  if 0 ≤ n ∧ n < size then some n.toNat else none

def bitCount : Nat := 64

def bit (value : Int64) (n : Nat) : Bool :=
  value.toUInt64.toNat.testBit n

def setBit (value : Int64) (n : Nat) (on : Bool) : Int64 :=
  let flag := UInt64.ofNat (Nat.pow 2 n)
  let bits := value.toUInt64
  (if on then bits ||| flag else bits &&& ~~~flag).toInt64

end Datum

/-- Where a datum keeps what is under a key. -/
inductive Slot where
  | item (items : List Datum) (n : Nat)
  /-- An entry of a map, which need not be there. -/
  | entry (entries : List (String × Datum)) (key : String)
  | char (cs : List Char) (n : Nat)
  | bit (value : Int64) (n : Nat)

/-- Why there is nothing under a key. -/
inductive SlotFault where
  /-- The key is no key of such a datum, or there is no such item. -/
  | key (cause : RunCause)
  /-- The datum has no keys at all. -/
  | unindexed

namespace Slot

/-- The place of an index, or the fault of one that is out of bounds. -/
def placeIn (container : Container) (size : Nat) (index : Int64) : Except SlotFault Nat :=
  match Datum.place? size index.toInt with
  | some n => .ok n
  | none => .error (.key (.outOfBounds container index.toInt size))

def find (datum key : Datum) : Except SlotFault Slot :=
  match datum, key with
  | .array items, .int index => (placeIn .array items.length index).map (.item items)
  | .map entries, .text key => .ok (.entry entries key)
  | .text s, .int index => (placeIn .text s.length index).map (.char s.toList)
  | .int value, .int index => (placeIn .bits Datum.bitCount index).map (.bit value)
  | .array _, key | .text _, key | .int _, key => .error (.key (.wrongType key.typeName "i64"))
  | .map _, key => .error (.key (.wrongType key.typeName "string"))
  | _, _ => .error .unindexed

/-- The datum that a slot holds. A map has nothing under a key that it does not contain. -/
def get : Slot → Datum
  | .item items n => items.getD n .unit
  | .entry entries key => (Table.get? key entries).getD .unit
  | .char cs n => .char (cs.getD n ' ')
  | .bit value n => .bool (Datum.bit value n)

/-- The datum that a slot is part of, with another datum in the slot. A character of a text that was
    counted from the end is written as far behind the start. -/
def set (slot : Slot) (index new : Datum) : Except RunCause Datum :=
  match slot with
  | .item items n => .ok (.array (items.set n new))
  | .entry entries key => .ok (.map (Table.insert key new entries))
  | .char cs n =>
    match new with
    | .char c =>
      let n := match index with
        | .int index => if index < 0 then index.toInt.natAbs else n
        | _ => n
      .ok (.text (String.ofList (cs.set n c)))
    | new => .error (.wrongType new.typeName "char")
  | .bit value n =>
    match new with
    | .bool on => .ok (.int (Datum.setBit value n on))
    | new => .error (.wrongType new.typeName "bool")

/-- Whether the slot holds a datum of its own, and not only a part of one. -/
def isWhole : Slot → Bool
  | .item .. | .entry .. => true
  | .char .. | .bit .. => false

end Slot

namespace Datum

def item (datum key : Datum) : Except SlotFault Datum :=
  (Slot.find datum key).map Slot.get

/-- The property of a name: an entry of a map, or the size of a text or a list. -/
def property (datum : Datum) (name : String) : Except RunCause Datum :=
  match datum with
  | .map entries => .ok ((Table.get? name entries).getD .unit)
  | .text s =>
    if name = "len" then .ok (ofCount s.length)
    else .error (.unknownProperty name datum.typeName)
  | .array items =>
    if name = "len" then .ok (ofCount items.length)
    else .error (.unknownProperty name datum.typeName)
  | datum => .error (.unknownProperty name datum.typeName)

end Datum

/-- A step into a datum, with its key or its arguments evaluated. -/
inductive Step where
  /-- The item under a key, with the places of the key and of the bracket. -/
  | index (key : Datum) (keyPos pos : Position)
  | property (name : String) (namePos : Position)
  | method (name : String) (args : List Datum) (namePos : Position)

/-- The fault of a step to an item that is not there. -/
def SlotFault.toRunFault (datum key : Datum) (keyPos pos : Position) : SlotFault → RunFault
  | .key cause => ⟨cause, keyPos⟩
  | .unindexed => ⟨.notIndexable datum.typeName key.typeName, pos⟩

/-- What a sealed datum contains behind a step, which is sealed as well. -/
def Step.sealed? (datum : Datum) : Step → Option Datum
  | .index key _ _ =>
    match Slot.find datum key with
    | .ok (.item items n) => items[n]?
    | .ok (.entry entries key) => Table.get? key entries
    | _ => none
  | .property name _ =>
    match datum with
    | .map entries => Table.get? name entries
    | _ => none
  | .method .. => none

/-- An assignment to what steps from a variable lead to. -/
structure Assignment where
  name : String
  namePos : Position
  op : Option BinaryOp
  value : Datum
  pos : Position
  allowance : Allowance

namespace Assignment

def atOperator {α : Type} (a : Assignment) (result : Except RunCause α) : Except RunFault α :=
  result.mapError (⟨·, a.pos⟩)

/-- What takes the place of a datum, if nothing seals it. -/
def replace (a : Assignment) (isSealed : Bool) (old : Datum) : Except RunFault Datum :=
  if isSealed then .error ⟨.constant a.name, a.namePos⟩
  else
    match a.op with
    | none => .ok a.value
    | some op => a.atOperator (op.accumulate a.allowance old a.value)

/-- Changes the item under a key. What is changed as a whole is measured, or what it is part of. -/
def setItem (a : Assignment) (sealed : Option Datum) (datum key : Datum) (keyPos pos : Position) :
    Except RunFault Datum :=
  match Slot.find datum key with
  | .error (.key cause) => .error ⟨cause, keyPos⟩
  | .error .unindexed =>
    .error ⟨.unwritableIndex datum.typeName key.typeName a.value.typeName, pos⟩
  | .ok slot => do
    let isSealed := (sealed.bind fun whole => Step.sealed? whole (.index key keyPos pos)).isSome
    let new ← a.replace isSealed slot.get
    let whole ← a.atOperator (slot.set key new)
    let _ ← a.atOperator (a.allowance.accept (if slot.isWhole then new else whole))
    pure whole

/-- Changes the property of a name, which only maps have. -/
def setProperty (a : Assignment) (sealed : Option Datum) (datum : Datum) (name : String)
    (namePos : Position) : Except RunFault Datum :=
  match datum with
  | .map entries => do
    let isSealed := (sealed.bind fun whole => Step.sealed? whole (.property name namePos)).isSome
    let new ← a.replace isSealed ((Table.get? name entries).getD .unit)
    a.atOperator (a.allowance.accept (.map (Table.insert name new entries)))
  | datum => do
    let new ← if a.op.isSome then do
        let old ← (datum.property name).mapError (⟨·, namePos⟩)
        let new ← a.replace false old
        a.atOperator (a.allowance.accept new)
      else pure a.value
    .error ⟨.unwritableProperty name datum.typeName new.typeName, namePos⟩

/-- Changes what steps lead to. What is sealed is what the variable has contained from the start, if
    it is constant. A step through something that is no part of the datum changes nothing there. -/
def apply (a : Assignment) : Option Datum → List Step → Datum → Except RunFault Datum
  | sealed, [], datum => a.replace sealed.isSome datum
  | sealed, [.index key keyPos pos], datum => a.setItem sealed datum key keyPos pos
  | sealed, [.property name namePos], datum => a.setProperty sealed datum name namePos
  | sealed, .index key keyPos pos :: rest, datum =>
    match Slot.find datum key with
    | .error fault => .error (fault.toRunFault datum key keyPos pos)
    | .ok slot => do
      let inner := sealed.bind fun whole => Step.sealed? whole (.index key keyPos pos)
      let new ← a.apply inner rest slot.get
      match slot with
      | .entry entries name =>
        pure (if Table.contains name entries then .map (Table.insert name new entries) else datum)
      | slot => a.atOperator (slot.set key new)
  | sealed, .property name namePos :: rest, datum =>
    match datum with
    | .map entries => do
      let inner := sealed.bind fun whole => Step.sealed? whole (.property name namePos)
      let new ← a.apply inner rest ((Table.get? name entries).getD .unit)
      pure (if Table.contains name entries then .map (Table.insert name new entries) else datum)
    | datum => do
      let inner ← (datum.property name).mapError (⟨·, namePos⟩)
      let _ ← a.apply none rest inner
      pure datum
  | _, .method name args namePos :: _, datum =>
    .error ⟨.unknownFunction name ((datum :: args).map Datum.argumentType), namePos⟩

end Assignment

end ScriptBridge.Script

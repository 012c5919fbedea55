import AgentTranscript.Json.Mismatch

/-! Typed reading of JSON values. A record is read from an object, whose members are looked at in
the order of their keys, or from an array, whose items are its fields in the order declared. -/
namespace AgentTranscript.Json

abbrev Decoder (α : Type) := Json → Except Mismatch α

namespace Decoder

def string : Decoder String
  | .string s => .ok s
  | v => .error (.form v "a string")

def optional {α : Type} (decode : Decoder α) : Decoder (Option α)
  | .null => .ok none
  | v => (decode v).map some

def list {α : Type} (decode : Decoder α) : Decoder (List α)
  | .array items => items.mapM decode
  | v => .error (.form v "a sequence")

end Decoder

/-- Parts of a tagged value are read only once its tag is known, and are held until then. Held
values differ from direct ones in two ways: an empty object may stand for the absence of a value,
and surplus items of an array are reported with the number that was wanted. -/
inductive Standing where
  | direct
  | held

structure Field where
  name : String
  required : Bool
  fault? : Json → Option Mismatch

def faultOf {α : Type} (decode : Decoder α) (v : Json) : Option Mismatch :=
  match decode v with
  | .ok _ => none
  | .error e => some e

/-- The fields of a record in the order declared, and the record made of the values they have. -/
structure Shape (α : Type) where
  fields : List Field
  make : (String → Option Json) → Except Mismatch α

namespace Shape

def pure {α : Type} (a : α) : Shape α := ⟨[], fun _ => .ok a⟩

def required {α : Type} (name : String) (decode : Decoder α) : Shape α where
  fields := [⟨name, true, faultOf decode⟩]
  make given :=
    match given name with
    | some v => decode v
    | none => .error (.missing name)

def optional {α : Type} (name : String) (decode : Decoder α) : Shape (Option α) where
  fields := [⟨name, false, faultOf (.optional decode)⟩]
  make given :=
    match given name with
    | some v => Decoder.optional decode v
    | none => .ok none

def and {α β : Type} (f : Shape (α → β)) (a : Shape α) : Shape β where
  fields := f.fields ++ a.fields
  make given :=
    match f.make given with
    | .error e => .error e
    | .ok g => (a.make given).map g

def memberFault? (fields : List Field) (members : List (String × Json)) : Option Mismatch :=
  members.findSome? fun m => (fields.find? (·.name == m.1)).bind (·.fault? m.2)

def counted (n : Nat) (noun : String) : String :=
  toString n ++ " " ++ noun ++ if n = 1 then "" else "s"

def itemFault? (wanted : String) (place : Nat) : List Field → List Json → Option Mismatch
  | [], _ => none
  | f :: fields, [] =>
    if f.required then some (.length place wanted) else itemFault? wanted (place + 1) fields []
  | f :: fields, v :: items =>
    match f.fault? v with
    | some e => some e
    | none => itemFault? wanted (place + 1) fields items

def surplus? (standing : Standing) (wanted found : Nat) : Option Mismatch :=
  if found ≤ wanted then none
  else
    match standing with
    | .direct => some (.length found "fewer elements in array")
    | .held => some (.length found (counted wanted "element" ++ " in sequence"))

def decode {α : Type} (shape : Shape α) (standing : Standing) (title : String) : Decoder α
  | .object members =>
    match memberFault? shape.fields members with
    | some e => .error e
    | none => shape.make (find? · members)
  | .array items =>
    let wanted := title ++ " with " ++ counted shape.fields.length "element"
    match itemFault? wanted 0 shape.fields items with
    | some e => .error e
    | none =>
      match surplus? standing shape.fields.length items.length with
      | some e => .error e
      | none => shape.make (find? · ((shape.fields.map Field.name).zip items))
  | v => .error (.form v title)

end Shape

namespace Decoder

def isUnit (standing : Standing) : Json → Bool
  | .null => true
  | .object [] =>
    match standing with
    | .held => true
    | .direct => false
  | _ => false

/-- One of several named values: its name, or an object with the name as its only key. -/
def named {α : Type} (standing : Standing) (known : List (String × α)) : Decoder α
  | .string name => look name
  | .object [(name, v)] =>
    match look name with
    | .error e => .error e
    | .ok a => if isUnit standing v then .ok a else .error (.form v "unit")
  | .object _ => .error .severalKeys
  | v => .error (.form v "string or map")
where
  look (name : String) : Except Mismatch α :=
    match known.lookup name with
    | some a => .ok a
    | none => .error (.variant name (known.map (·.1)))

/-- A value tagged with its kind: an object with a member for the tag, or an array with the tag
first. What else it holds is read as the kind wants it. -/
def tagged {α : Type} (title tag : String) (kinds : List (String × Decoder α)) : Decoder α
  | .object members =>
    match find? tag members with
    | none => .error (.missing tag)
    | some name => kind name (.object (members.filter (·.1 != tag)))
  | .array [] => .error (.missing tag)
  | .array (name :: items) => kind name (.array items)
  | v => .error (.form v title)
where
  kind (name held : Json) : Except Mismatch α :=
    match name with
    | .string name =>
      match kinds.lookup name with
      | some decode => decode held
      | none => .error (.variant name (kinds.map (·.1)))
    | v => .error (.form v "variant identifier")

end Decoder
end AgentTranscript.Json

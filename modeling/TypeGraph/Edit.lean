/-
Changing a schema.

A change touches one entry of the type map or one definition.  It neither collects
the types again nor forgets what is kept.  A part that a definition of that kind
does not have cannot be changed, and such a change does nothing.
-/
import TypeGraph.Schema.Basic

namespace TypeGraph

namespace TypeDef

/-- Adds an interface claim to an object. -/
def addInterface (claim : Ref) (t : TypeDef) : TypeDef :=
  match t.body with
  | .object fields interfaces => { t with body := .object fields (interfaces ++ [claim]) }
  | _ => t

/-- Adds a member to a union of either form. -/
def addMember (member : Ref) (t : TypeDef) : TypeDef :=
  match t.body with
  | .union members => { t with body := .union (members ++ [member]) }
  | .inputUnion members => { t with body := .inputUnion (members ++ [member]) }
  | _ => t

/-- Adds a value to an enum. -/
def addValue (value : EnumValue) (t : TypeDef) : TypeDef :=
  match t.body with
  | .enum values => { t with body := .enum (values ++ [value]) }
  | _ => t

/-- Writes a field of an object or interface. -/
def setField (key : String) (field : Field) (t : TypeDef) : TypeDef :=
  match t.body with
  | .object fields interfaces => { t with body := .object (fields.insert key field) interfaces }
  | .interface fields => { t with body := .interface (fields.insert key field) }
  | _ => t

/-- Writes a field of an input object. -/
def setInputField (key : String) (field : InputField) (t : TypeDef) : TypeDef :=
  match t.body with
  | .inputObject fields => { t with body := .inputObject (fields.insert key field) }
  | _ => t

/-- Removes a field of any type that has fields. -/
def removeField (key : String) (t : TypeDef) : TypeDef :=
  match t.body with
  | .object fields interfaces => { t with body := .object (fields.erase key) interfaces }
  | .interface fields => { t with body := .interface (fields.erase key) }
  | .inputObject fields => { t with body := .inputObject (fields.erase key) }
  | _ => t

end TypeDef

namespace Schema

variable (S : Schema)

/-- Changes the definition of a type. -/
def modifyType (id : TypeId) (f : TypeDef → TypeDef) : Schema :=
  { S with catalog := S.catalog.modifyType id f }

/-- Writes an entry of the type map. -/
def setEntry (name : String) (r : Ref) : Schema :=
  { S with typeMap := S.typeMap.insert name r }

/-- Removes an entry of the type map. -/
def removeEntry (name : String) : Schema :=
  { S with typeMap := S.typeMap.erase name }

end Schema

end TypeGraph

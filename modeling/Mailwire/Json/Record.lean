import Mailwire.Json.Value

/-!
# Records

A record is written as an object, whose members may stand in any order, or as the sequence of its
values in the order in which the fields are declared. What an object says is gathered in a draft;
the record is complete when the draft has a value for each field.
-/

namespace Mailwire.Json

/-- How a record is read that describes an `α`. -/
structure Schema (α : Type) where
  Field : Type
  [decEq : DecidableEq Field]
  /-- What a field holds. -/
  Value : Field → Type
  /-- The fields as they are declared. -/
  fields : List Field
  complete : ∀ f, f ∈ fields
  name : Field → String
  read : (f : Field) → Reader (Value f)
  /-- What a whole record says. -/
  build : ((f : Field) → Value f) → Except Misfit α
  /-- Whether members that are no fields are passed over. -/
  lenient : Bool
  /-- The words for a record in reports. -/
  title : String
  /-- The words for a record written as a sequence. -/
  sequenceTitle : String

namespace Schema

variable {α : Type} (schema : Schema α)

instance : DecidableEq schema.Field := schema.decEq

def field? (key : String) : Option schema.Field :=
  schema.fields.find? fun f => schema.name f == key

/-- The values of the fields as far as they are known. -/
def Draft : Type := (f : schema.Field) → Option (schema.Value f)

def blank : schema.Draft := fun _ => none

variable {schema}

namespace Draft

def set (d : schema.Draft) (f : schema.Field) (v : schema.Value f) : schema.Draft := fun g =>
  if h : g = f then some (h ▸ v) else d g

@[simp] theorem set_same (d : schema.Draft) (f : schema.Field) (v : schema.Value f) :
    d.set f v f = some v := by simp [set]

theorem set_of_ne (d : schema.Draft) {f g : schema.Field} (v : schema.Value f) (h : g ≠ f) :
    d.set f v g = d g := by simp [set, h]

def missing? (d : schema.Draft) : Option schema.Field :=
  schema.fields.find? fun f => (d f).isNone

theorem isSome_of_missing? {d : schema.Draft} (h : d.missing? = none) (f : schema.Field) :
    (d f).isSome := by
  have := List.find?_eq_none.mp h f (schema.complete f)
  cases hd : d f with
  | none => simp [hd] at this
  | some _ => rfl

def finish (d : schema.Draft) : Except Misfit α :=
  match h : d.missing? with
  | some f => .error (.missingField (schema.name f))
  | none => schema.build fun f => (d f).get (isSome_of_missing? h f)

end Draft

variable (schema)

/-! ### Members of an object -/

/-- Reads what stands behind the opening mark of a key: the rest of the key and the value. -/
def member (d : schema.Draft) : Reader schema.Draft := fun cs => do
  let key ← stringBody .keep cs
  match schema.field? key.value with
  | some f =>
    if (d f).isSome then throw (.misfit (.duplicateField key.value))
    else
      let colon ← mark ':' key.rest
      let value ← schema.read f colon.rest
      return key.andThen (colon.andThen (value.map (d.set f)))
  | none =>
    if schema.lenient then
      let colon ← mark ':' key.rest
      let skipped ← skipValue colon.rest
      return key.andThen (colon.andThen (skipped.map fun _ => d))
    else throw (.misfit (.unknownField key.value (schema.fields.map schema.name)))

/-- Reads further members up to the end of the object. -/
def furtherMembers (d : schema.Draft) (cs : List Char) :
    Except ReadError (Parsed schema.Draft cs) :=
  match _h : skipBlank cs with
  | [] => .error .tooShort
  | c :: rest =>
    have hlt := length_lt_of_skipBlank _h
    if c = Bracket.object.closing then .ok ⟨d, rest, hlt⟩
    else if c = ',' then
      match mark '"' rest with
      | .error e => .error e
      | .ok q =>
        match schema.member d q.rest with
        | .error e => .error e
        | .ok p =>
          have hp := Nat.lt_trans p.shorter (Nat.lt_trans q.shorter hlt)
          (furtherMembers p.value p.rest).map (·.widen (Nat.le_of_lt hp))
    else .error .malformed
termination_by cs.length

/-- Reads the members of an object whose opening bracket was read. -/
def members : Reader schema.Draft := fun cs =>
  match _h : skipBlank cs with
  | [] => .error .tooShort
  | c :: rest =>
    have hlt := length_lt_of_skipBlank _h
    if c = Bracket.object.closing then .ok ⟨schema.blank, rest, hlt⟩
    else if c = '"' then do
      let first ← schema.member schema.blank rest
      let all ← schema.furtherMembers first.value first.rest
      return (first.andThen all).widen (Nat.le_of_lt hlt)
    else .error .malformed

/-! ### Elements of a sequence -/

/-- Goes to the next element of a sequence. Answers nothing at the end of the sequence. -/
def nextElement (first : Bool) (cs : List Char) :
    Except ReadError (Option { rest : List Char // rest.length ≤ cs.length }) :=
  match _h : skipBlank cs with
  | [] => .error .tooShort
  | c :: rest =>
    if c = Bracket.array.closing then .ok none
    else if first then .ok (some ⟨cs, Nat.le_refl _⟩)
    else if c = ',' then
      match skipBlank rest with
      | [] => .error .tooShort
      | d :: _ =>
        if d = Bracket.array.closing then .error .malformed
        else .ok (some ⟨rest, length_le_of_skipBlank _h⟩)
    else .error .malformed

/-- Turns a misfit into an error of reading. -/
def fit {β : Type} : Except Misfit β → Except ReadError β
  | .ok b => .ok b
  | .error m => .error (.misfit m)

/-- Reads the values of the fields that are left, and the end of the sequence. What the record says
is judged before the end is looked at. -/
def elements (d : schema.Draft) (count : Nat) (left : List schema.Field) (cs : List Char) :
    Except ReadError (Parsed α cs) :=
  match left with
  | [] => do
    let record ← fit d.finish
    let closing ← mark Bracket.array.closing cs
    return closing.map fun _ => record
  | f :: left => do
    match ← nextElement (count == 0) cs with
    | none => throw (.misfit (.wrongLength count schema.sequenceTitle))
    | some ⟨rest, hle⟩ =>
      let value ← schema.read f rest
      let record ← elements (d.set f value.value) (count + 1) left value.rest
      return (value.andThen record).widen hle

def record : Reader α := fun cs =>
  match _h : skipBlank cs with
  | [] => .error .tooShort
  | c :: rest =>
    have hle := length_le_of_skipBlank _h
    if c = Bracket.array.opening then
      (schema.elements schema.blank 0 schema.fields rest).map (·.widen hle)
    else if c = Bracket.object.opening then do
      let draft ← schema.members rest
      let record ← fit draft.value.finish
      return (draft.map fun _ => record).widen hle
    else wrongType schema.title c rest

end Schema

/-- Reads a whole text, behind whose value there may only be blanks. -/
def whole {α : Type} (reader : Reader α) (text : String) : Except ReadError α := do
  let p ← reader text.toList
  if (skipBlank p.rest).isEmpty then return p.value else throw .malformed

end Mailwire.Json

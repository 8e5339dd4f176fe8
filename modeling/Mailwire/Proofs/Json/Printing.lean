import Mailwire.Proofs.Json.Settled

/-!
# What is written is JSON

Strings, numbers and objects are written as values of the grammar, and the key of a member as what it spells
(`Json.spells_escaped`, `Json.isValue_printObject`). So the grammar covers all that is ever written.
-/

namespace Mailwire.Json

/-- Text spells itself when it is escaped. -/
lemma spells_escaped (s : String) : Spells (s.toList.flatMap escapeChar) s.toList := by
  have hread := takes_iff.mp (takes_stringBody s [])
  rw [List.append_assoc] at hread
  obtain ⟨raw, text, hsplit, hspells, htext⟩ := spells_of_taken hread
  have hraw : s.toList.flatMap escapeChar = raw := List.append_cancel_right hsplit
  have hname : s.toList = text := by
    rw [htext]
    simp
  rw [hraw, hname]
  exact hspells

/-- What is read in front of a comma or the end of an object is read everywhere. -/
lemma readsAs_of_takes {α : Type} {reader : Reader α} {v : List Char} {a : α} (hreader : Settled reader)
    (hv : IsValue v) (h : ∀ {rest}, Delimited rest → Takes reader v a rest) : ReadsAs reader v a := by
  have hcomma : Delimited [','] := ⟨_, _, rfl, Or.inl rfl⟩
  have hread : taken reader ([] ++ (v ++ [','])) = .ok (a, [',']) := takes_iff.mp (h hcomma)
  obtain ⟨-, hreads⟩ := hreader hv .nil (.cons (by decide) _) hread
  intro before rest hbefore hrest
  exact hreads hbefore hrest

/-! ### Strings and numbers -/

lemma isValue_printString (s : String) : IsValue (printString s) :=
  .string (spells_escaped s).contents

lemma readsAs_printString (s : String) : ReadsAs string (printString s) s :=
  readsAs_of_takes settled_string (isValue_printString s) fun {rest} _ => takes_string s rest

lemma isValue_printNatural (n : Nat) : IsValue (printNatural n) := by
  have hunsigned := IsUnsigned.parts (isInteger_toDigits n) .absent .absent
  rw [List.append_nil, List.append_nil] at hunsigned
  exact .number (.plain hunsigned)

lemma readsAs_printNatural {n bound : Nat} (hn : n < bound) (hbound : bound ≤ UInt64.size)
    (expected : String) : ReadsAs (natural bound expected) (printNatural n) n :=
  readsAs_of_takes (settled_natural bound expected) (isValue_printNatural n) (takes_natural hn hbound expected)

/-! ### Objects -/

/-- A member as it is written, without blanks. -/
def printedMember (name : String) (value : List Char) : Member where
  before := []
  value := value
  behind := []
  front := []
  key := name.toList.flatMap escapeChar
  between := []

lemma printedMember_shaped (name : String) (value : List Char) : (printedMember name value).Shaped :=
  ⟨⟨.nil, .nil⟩, .nil, (spells_escaped name).contents, .nil⟩

/-- What is written for some members. -/
def printedMembers (members : List (String × List Char)) : List Member :=
  members.map fun (name, value) => printedMember name value

lemma printMembers_eq_joined (members : List (String × List Char)) :
    printMembers members = joined ((printedMembers members).map Member.text) := by
  cases members with
  | nil => rfl
  | cons first more =>
    obtain ⟨name, value⟩ := first
    rw [printMembers_cons]
    simp [printedMembers, printedMember, printFurther, printString, joined, further, Member.text,
      Element.text, List.flatMap_map]

lemma printObject_eq_objectText (members : List (String × List Char)) :
    printObject members = objectText [] (printedMembers members) := by
  rw [printObject, printMembers_eq_joined]
  rfl

lemma isValue_printObject {members : List (String × List Char)} (h : ∀ m ∈ members, IsValue m.2) :
    IsValue (printObject members) := by
  rw [printObject_eq_objectText]
  refine .object .nil ?_ ?_
  · exact List.forall_mem_map.mpr fun m _ => printedMember_shaped m.1 m.2
  · exact List.forall_mem_map.mpr h

end Mailwire.Json

import Mailwire.Proofs.Config.RoundTrip
import Mailwire.Proofs.Json.Objects
import Mailwire.Proofs.Json.Printing

/-!
# Only the known members of a configuration matter

The fields of a configuration are strings, numbers and durations, and a duration is a record itself. All of
these are read whole, so what becomes of an object depends only on its members that name fields: on which they
are and not on where they stand, nor on what stands between them (`Config.ofJson_members`).
-/

namespace Mailwire

open Json

lemma Duration.settled : Duration.schema.Settled := by
  constructor
  · intro f
    cases f <;> decide
  · intro f
    cases f with
    | secs => exact settled_natural _ _
    | nanos => exact settled_natural _ _

namespace Config

lemma settled : schema.Settled := by
  constructor
  · intro f
    cases f <;> decide
  · intro f
    cases f with
    | host => exact settled_string
    | port => exact Json.Settled.map (settled_natural _ _) _
    | flags => exact Json.Settled.map (settled_natural _ _) _
    | connectTimeout => exact Duration.settled.record
    | readTimeout => exact Duration.settled.record
    | readBufferSize => exact Json.Settled.map (settled_natural _ _) _
    | writeBufferSize => exact Json.Settled.map (settled_natural _ _) _
    | maxLineLength => exact Json.Settled.map (settled_natural _ _) _

lemma foreign_extraRoots {m : Member} (h : Spells m.key "extra_root_certificates".toList) :
    m.Foreign schema := by
  refine ⟨_, h, ?_⟩
  intro f
  cases f <;> decide

/-- A configuration that is read from an object has no extra trust anchors. It is read from each object with
the same members but for foreign ones, and from the array of their values in the order of the fields. All
fields are named by members: without some of these the first field that is left out is missed, and with one
more of a field the field is a duplicate. -/
theorem ofJson_members {frame : Frame} {members : List Member} {c : Config}
    (hmembers : ∀ m ∈ members, m.Valid) (hread : ofJson (frame.object members) = .ok c) :
    c.extraRoots = [] ∧
    (∀ f : schema.Field, ∃ m ∈ members, m.Names f) ∧
    (∀ m ∈ members, ∀ f : schema.Field, m.Names f → ∃ v, ReadsAs (schema.read f) m.value v) ∧
    (∀ m : Member, Spells m.key "extra_root_certificates".toList → m.Foreign schema) ∧
    (∀ removed : List Member, (∃ m ∈ removed, ∃ f : schema.Field, m.Names f) →
      ∃ f : schema.Field, FirstNamed removed f) ∧
    ∀ frame' : Frame,
      (∀ members', Alike schema members members' → ofJson (frame'.object members') = .ok c) ∧
      (∀ (kept removed : List Member) (f : schema.Field), members.Perm (kept ++ removed) →
        FirstNamed removed f → ∀ members', Alike schema kept members' →
        ofJson (frame'.object members') = .error (.misfit (.missingField (schema.name f)))) ∧
      (∀ (again : Member) (f : schema.Field), again.Valid → again.Names f →
        (∃ v, ReadsAs (schema.read f) again.value v) → ∀ members', Alike schema (again :: members) members' →
        ofJson (frame'.object members') = .error (.misfit (.duplicateField (schema.name f)))) ∧
      ∀ elements, List.Forall₂ (fun f e => e.Spaced ∧ ∃ m ∈ members, m.Names f ∧ e.value = m.value)
        schema.fields elements → ofJson (frame'.array elements) = .ok c := by
  refine ⟨extraRoots_of_ofJson hread, ?_, ?_, ?_, ?_, ?_⟩
  · exact settled.exists_names hmembers hread
  · exact fun m hm f hnames => settled.exists_reads hmembers hread hm hnames
  · exact fun m => foreign_extraRoots
  · rintro removed ⟨m, hm, f, hnames⟩
    exact exists_firstNamed hm hnames
  intro frame'
  refine ⟨?_, ?_, ?_, ?_⟩
  · exact fun members' => settled.whole_alike rfl hmembers hread
  · intro kept removed f hperm hfirst members' halike
    exact settled.whole_without rfl hmembers hread hperm hfirst halike
  · intro again f hagain hnames hvalue members' halike
    exact settled.whole_again rfl hmembers hread hagain hnames hvalue halike
  · exact fun elements => settled.whole_values hmembers hread

/-! ### Configurations that are written -/

/-- The member that is written for a field. -/
def printedField (c : Config) (f : schema.Field) : Member := printedMember (schema.name f) (Field.text c f)

def printed (c : Config) : List Member := schema.fields.map c.printedField

/-- A configuration is written as an object of the grammar. -/
lemma toJson_eq_object (c : Config) : c.toJson = Frame.tight.object c.printed := by
  have hprint : c.print = objectText [] c.printed := printObject_eq_objectText _
  rw [toJson, hprint]
  simp [Frame.object, Frame.tight]

lemma isValue_text (c : Config) (f : Field) : IsValue (Field.text c f) := by
  have hduration : ∀ d : Duration, IsValue d.print := by
    intro d
    apply isValue_printObject
    simp [isValue_printNatural]
  cases f with
  | host => exact isValue_printString _
  | port => exact isValue_printNatural _
  | flags => exact isValue_printNatural _
  | connectTimeout => exact hduration _
  | readTimeout => exact hduration _
  | readBufferSize => exact isValue_printNatural _
  | writeBufferSize => exact isValue_printNatural _
  | maxLineLength => exact isValue_printNatural _

lemma printed_valid (c : Config) : ∀ m ∈ c.printed, m.Valid :=
  List.forall_mem_map.mpr fun f _ => ⟨printedMember_shaped _ _, isValue_text c f⟩

lemma printedField_names (c : Config) (f : schema.Field) : (c.printedField f).Names f :=
  spells_escaped (schema.name f)

/-- A configuration whose members are changed below. -/
def plainHost : Config := ofHost "a" plainPort .none

/-- A member that is passed over, though there is a known name in its value. -/
def stranger : Member := printedMember "extra_root_certificates" (printObject [("host", printNatural 0)])

/-- The members in reverse order behind one that is passed over, all but two of them, all of them behind
another host, and their values. -/
theorem ofJson_members_plainHost :
    (∀ m ∈ plainHost.printed, m.Valid) ∧
    ofJson (Frame.tight.object plainHost.printed) = .ok plainHost ∧
    ofJson (Frame.tight.object (stranger :: plainHost.printed.reverse)) = .ok plainHost ∧
    ofJson (Frame.tight.object ([.maxLineLength, .readTimeout, .flags, .readBufferSize, .writeBufferSize,
      .host].map plainHost.printedField)) = .error (.misfit (.missingField "port")) ∧
    ofJson (Frame.tight.object (printedMember "host" (printString "") :: plainHost.printed))
      = .error (.misfit (.duplicateField "host")) ∧
    ofJson (Frame.tight.array (plainHost.printed.map Member.toElement)) = .ok plainHost := by
  have hvalid := plainHost.printed_valid
  have hread : ofJson (Frame.tight.object plainHost.printed) = .ok plainHost := by
    rw [← toJson_eq_object]
    exact ofJson_toJson plainHost
  obtain ⟨-, -, -, hextra, -, htexts⟩ := ofJson_members hvalid hread
  obtain ⟨halike, hwithout, hagain, hvalues⟩ := htexts Frame.tight
  refine ⟨hvalid, hread, ?_, ?_, ?_, ?_⟩
  · have hstranger : stranger.Valid :=
      ⟨printedMember_shaped _ _, isValue_printObject (List.forall_mem_singleton.mpr (isValue_printNatural 0))⟩
    have hforeign : stranger.Foreign schema := hextra stranger (spells_escaped _)
    refine halike _ ⟨[], [stranger], by simp, List.forall_mem_singleton.mpr ⟨hstranger, hforeign⟩, ?_⟩
    rw [List.append_nil]
    exact ((List.reverse_perm _).cons stranger).trans (List.perm_append_singleton stranger _).symm
  · have hperm : schema.fields.Perm ([.maxLineLength, .readTimeout, .flags, .readBufferSize,
        .writeBufferSize, .host] ++ [.connectTimeout, .port]) := by decide
    have hhost : Field.host ∉ [Field.connectTimeout, Field.port] := by decide
    refine hwithout _ ([.connectTimeout, .port].map plainHost.printedField) .port ?_ ?_ _ (.refl _ _)
    · rw [← List.map_append]
      exact hperm.map plainHost.printedField
    · refine ⟨[.host], _, rfl, ⟨plainHost.printedField .port, ?_, plainHost.printedField_names _⟩, ?_⟩
      · exact List.mem_map_of_mem (List.mem_cons_of_mem _ List.mem_cons_self)
      · refine List.forall_mem_singleton.mpr (List.forall_mem_map.mpr ?_)
        intro f hf hnames
        obtain rfl := hnames.unique settled (plainHost.printedField_names f)
        exact hhost hf
  · exact hagain (printedMember "host" (printString "")) .host
      ⟨printedMember_shaped _ _, isValue_printString ""⟩ (spells_escaped _) ⟨"", readsAs_printString ""⟩ _
      (.refl _ _)
  · refine hvalues _ ?_
    rw [printed, List.map_map, List.forall₂_map_right_iff, List.forall₂_same]
    intro f hf
    have hmem : plainHost.printedField f ∈ plainHost.printed := List.mem_map_of_mem hf
    exact ⟨⟨.nil, .nil⟩, plainHost.printedField f, hmem, plainHost.printedField_names f, rfl⟩

end Config

end Mailwire

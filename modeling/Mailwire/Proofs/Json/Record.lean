import Mailwire.Json.Record
import Mailwire.Proofs.Json.Scalars

/-!
# Reading records that were written

A record that is written as an object, member by member in the order of its fields, is read as the
values that were written, if each field is (`Schema.takes_record`). The members are followed one by
one: each fills one field of the draft (`Schema.takes_member`), and the draft is then full.

However a record was written, what is read of it is what its fields build (`Schema.built_of_record`).
-/

namespace Mailwire.Json

/-! ### What an object looks like -/

/-- Members behind others, each with the comma in front of it. -/
def printFurther (members : List (String × List Char)) : List Char :=
  members.flatMap fun (name, value) => ',' :: printString name ++ ':' :: value

lemma printMembers_cons (name : String) (value : List Char) (more : List (String × List Char)) :
    printMembers ((name, value) :: more)
      = printString name ++ ':' :: value ++ printFurther more := by
  induction more generalizing name value with
  | nil => simp [printMembers, printFurther]
  | cons next more ih =>
    obtain ⟨name', value'⟩ := next
    rw [printMembers, ih]
    · simp [printFurther]
    · exact List.cons_ne_nil _ _

lemma delimited_further (members : List (String × List Char)) (rest : List Char) :
    Delimited (printFurther members ++ Bracket.object.closing :: rest) := by
  cases members with
  | nil => exact ⟨_, _, rfl, Or.inr rfl⟩
  | cons => exact ⟨_, _, rfl, Or.inl rfl⟩

namespace Schema

variable {α : Type} {schema : Schema α}

/-! ### Drafts -/

namespace Draft

/-- The draft with values for some fields. -/
def fill (value : (f : schema.Field) → schema.Value f) : List schema.Field → schema.Draft →
    schema.Draft
  | [], d => d
  | f :: fields, d => fill value fields (d.set f (value f))

lemma fill_eq_some {value : (f : schema.Field) → schema.Value f} {fields : List schema.Field}
    {d : schema.Draft} {f : schema.Field} (h : f ∈ fields ∨ d f = some (value f)) :
    fill value fields d f = some (value f) := by
  induction fields generalizing d with
  | nil => exact h.resolve_left List.not_mem_nil
  | cons g fields ih =>
    apply ih
    by_cases hg : f = g
    · subst hg
      exact Or.inr (set_same d f (value f))
    · rw [set_of_ne d (value g) hg]
      exact h.imp_left fun hmem => (List.mem_cons.mp hmem).resolve_left hg

/-- A full draft is finished as its values say. -/
lemma finish_eq {d : schema.Draft} {value : (f : schema.Field) → schema.Value f}
    (h : ∀ f, d f = some (value f)) : d.finish = schema.build value := by
  rw [finish]
  split
  next f hmissing =>
    have hnone := List.find?_some hmissing
    rw [h f] at hnone
    cases hnone
  next hmissing =>
    congr
    funext f
    exact Option.get_of_eq_some _ (h f)

end Draft

/-! ### Objects -/

/-- Fields have names of their own, and each is read as it was written. -/
structure Faithful (schema : Schema α) (text : schema.Field → List Char)
    (value : (f : schema.Field) → schema.Value f) : Prop where
  distinct : schema.fields.Nodup
  named : ∀ f, schema.field? (schema.name f) = some f
  takes : ∀ f rest, Delimited rest → Takes (schema.read f) (text f) (value f) rest

namespace Faithful

variable {text : schema.Field → List Char} {value : (f : schema.Field) → schema.Value f}

/-- The members of an object of the record. -/
def printed (schema : Schema α) (text : schema.Field → List Char) (fields : List schema.Field) :
    List (String × List Char) :=
  fields.map fun f => (schema.name f, text f)

/-- A member fills a field that is empty. -/
lemma takes_member (h : Faithful schema text value) {d : schema.Draft} {f : schema.Field}
    (hd : d f = none) {rest : List Char} (hrest : Delimited rest) :
    Takes (schema.member d) ((schema.name f).toList.flatMap escapeChar ++ '"' :: ':' :: text f)
      (d.set f (value f)) rest := by
  obtain ⟨hkeylt, hkey⟩ := takes_stringBody (schema.name f) (':' :: (text f ++ rest))
  obtain ⟨hvaluelt, hvalue⟩ := h.takes f rest hrest
  have hfront : (schema.name f).toList.flatMap escapeChar ++ '"' :: ':' :: text f ++ rest
      = (schema.name f).toList.flatMap escapeChar ++ ['"'] ++ ':' :: (text f ++ rest) := by
    simp
  rw [Takes, hfront]
  refine ⟨Nat.lt_trans hvaluelt (Nat.lt_trans (Nat.lt_succ_self _) hkeylt), ?_⟩
  rw [member, hkey]
  simp only [bind, Except.bind]
  rw [h.named f]
  simp only [hd, Option.isSome_none, Bool.false_eq_true, if_false]
  rw [mark_cons rfl]
  dsimp only
  rw [hvalue]
  rfl

/-- Further members fill the fields that are left, one each. -/
lemma furtherMembers_printed (h : Faithful schema text value) {fields : List schema.Field}
    (hdistinct : fields.Nodup) {d : schema.Draft} (hd : ∀ f ∈ fields, d f = none)
    (rest : List Char) :
    ∃ hlt, schema.furtherMembers d
        (printFurther (printed schema text fields) ++ Bracket.object.closing :: rest)
      = .ok ⟨d.fill value fields, rest, hlt⟩ := by
  induction fields generalizing d with
  | nil =>
    refine ⟨Nat.lt_succ_self _, ?_⟩
    rw [furtherMembers]
    split
    next hnil => cases hnil
    next c behind hcons =>
      cases hcons
      rw [if_pos rfl]
      rfl
  | cons f fields ih =>
    obtain ⟨hf, hdistinct⟩ := List.nodup_cons.mp hdistinct
    obtain ⟨hempty, hd⟩ := List.forall_mem_cons.mp hd
    have hset : ∀ g ∈ fields, d.set f (value f) g = none := by
      intro g hg
      rw [Draft.set_of_ne _ _ (ne_of_mem_of_not_mem hg hf), hd g hg]
    obtain ⟨hrestlt, hrest⟩ := ih hdistinct hset
    obtain ⟨hmemberlt, hmember⟩ := h.takes_member hempty
      (delimited_further (printed schema text fields) rest)
    have hfront : printFurther (printed schema text (f :: fields))
          ++ Bracket.object.closing :: rest
        = ',' :: '"' :: ((schema.name f).toList.flatMap escapeChar ++ '"' :: ':' :: text f
          ++ (printFurther (printed schema text fields) ++ Bracket.object.closing :: rest)) := by
      simp [printFurther, printed, printString]
    rw [hfront]
    refine ⟨Nat.lt_trans hrestlt (Nat.lt_succ_of_lt (Nat.lt_succ_of_lt hmemberlt)), ?_⟩
    rw [furtherMembers]
    split
    next hnil => cases hnil
    next c behind hcons =>
      cases hcons
      rw [if_neg (by decide), if_pos rfl, mark_cons rfl]
      dsimp only
      rw [hmember]
      dsimp only
      rw [hrest]
      rfl

/-- Members that were written, one for each field, fill the draft. -/
lemma takes_members (h : Faithful schema text value) {first : schema.Field}
    {fields : List schema.Field} (hfields : schema.fields = first :: fields) (rest : List Char) :
    Takes schema.members
      (printMembers (printed schema text schema.fields) ++ [Bracket.object.closing])
      ((schema.blank.set first (value first)).fill value fields) rest := by
  have hdistinct := h.distinct
  rw [hfields] at hdistinct ⊢
  obtain ⟨hfirst, hdistinct⟩ := List.nodup_cons.mp hdistinct
  have hset : ∀ g ∈ fields, schema.blank.set first (value first) g = none := by
    intro g hg
    rw [Draft.set_of_ne _ _ (ne_of_mem_of_not_mem hg hfirst)]
    rfl
  have hblank : schema.blank first = none := rfl
  obtain ⟨hrestlt, hrest⟩ := h.furtherMembers_printed hdistinct hset rest
  obtain ⟨hmemberlt, hmember⟩ := h.takes_member hblank
    (delimited_further (printed schema text fields) rest)
  have hfront : printMembers (printed schema text (first :: fields)) ++ [Bracket.object.closing]
        ++ rest
      = '"' :: ((schema.name first).toList.flatMap escapeChar ++ '"' :: ':' :: text first
        ++ (printFurther (printed schema text fields) ++ Bracket.object.closing :: rest)) := by
    rw [printed, List.map_cons, printMembers_cons]
    simp [printed, printString]
  rw [Takes, hfront]
  refine ⟨Nat.lt_trans hrestlt (Nat.lt_succ_of_lt hmemberlt), ?_⟩
  rw [members]
  split
  next hnil => cases hnil
  next c behind hcons =>
    cases hcons
    rw [if_neg (by decide), if_pos rfl]
    simp only [bind, Except.bind]
    rw [hmember]
    dsimp only
    rw [hrest]
    rfl

/-- A record that is written as an object is read as what its values build. -/
theorem takes_record (h : Faithful schema text value) {first : schema.Field}
    {fields : List schema.Field} (hfields : schema.fields = first :: fields) {a : α}
    (hbuild : schema.build value = .ok a) (rest : List Char) :
    Takes schema.record (printObject (printed schema text schema.fields)) a rest := by
  have hfull : ∀ f, (schema.blank.set first (value first)).fill value fields f
      = some (value f) := by
    intro f
    apply Draft.fill_eq_some
    have hmem := schema.complete f
    rw [hfields, List.mem_cons] at hmem
    rcases hmem with rfl | hmem
    · exact Or.inr (Draft.set_same _ _ _)
    · exact Or.inl hmem
  obtain ⟨hlt, hmembers⟩ := h.takes_members hfields rest
  refine ⟨Nat.lt_succ_of_lt hlt, ?_⟩
  have hblank : skipBlank (printObject (printed schema text schema.fields) ++ rest)
      = Bracket.object.opening
        :: (printMembers (printed schema text schema.fields) ++ [Bracket.object.closing] ++ rest) :=
    skipBlank_cons rfl _
  rw [record]
  split
  next hnil => rw [hblank] at hnil; cases hnil
  next c behind hcons =>
    rw [hblank] at hcons
    cases hcons
    rw [if_neg (by decide), if_pos rfl]
    simp only [bind, Except.bind]
    rw [hmembers]
    dsimp only
    rw [Draft.finish_eq hfull, hbuild]
    rfl

end Faithful

/-! ### What was read -/

lemma bind_eq_ok {ε β γ : Type} {x : Except ε β} {f : β → Except ε γ} {c : γ}
    (h : x >>= f = .ok c) : ∃ b, x = .ok b ∧ f b = .ok c := by
  cases x with
  | error e => cases h
  | ok b => exact ⟨b, rfl, h⟩

/-- What some values build. -/
def Built (schema : Schema α) (a : α) : Prop := ∃ value, schema.build value = .ok a

lemma built_of_finish {d : schema.Draft} {a : α} (h : fit d.finish = .ok a) : schema.Built a := by
  rw [Draft.finish] at h
  split at h
  next => cases h
  next hmissing =>
    cases hbuild : schema.build fun f => (d f).get (Draft.isSome_of_missing? hmissing f) with
    | error m => rw [hbuild] at h; cases h
    | ok b =>
      rw [hbuild] at h
      cases h
      exact ⟨_, hbuild⟩

lemma built_of_elements {d : schema.Draft} {count : Nat} {left : List schema.Field}
    {cs : List Char} {p : Parsed α cs} (h : schema.elements d count left cs = .ok p) :
    schema.Built p.value := by
  induction left generalizing d count cs with
  | nil =>
    rw [elements] at h
    obtain ⟨record, hrecord, h⟩ := bind_eq_ok h
    obtain ⟨closing, -, h⟩ := bind_eq_ok h
    cases h
    exact built_of_finish hrecord
  | cons f left ih =>
    rw [elements] at h
    obtain ⟨next, -, h⟩ := bind_eq_ok h
    cases next with
    | none => cases h
    | some next =>
      obtain ⟨value, -, h⟩ := bind_eq_ok h
      obtain ⟨record, hrecord, h⟩ := bind_eq_ok h
      cases h
      have hbuilt : schema.Built record.value := ih hrecord
      exact hbuilt

/-- However a record is written, what is read of it is what its values build. -/
theorem built_of_record {cs : List Char} {p : Parsed α cs} (h : schema.record cs = .ok p) :
    schema.Built p.value := by
  rw [record] at h
  split at h
  next => cases h
  next c rest hcons =>
    split_ifs at h with harray hobject
    · cases helements : schema.elements schema.blank 0 schema.fields rest with
      | error e => rw [helements] at h; cases h
      | ok q =>
        rw [helements] at h
        cases h
        have hbuilt : schema.Built q.value := built_of_elements helements
        exact hbuilt
    · obtain ⟨draft, -, h⟩ := bind_eq_ok h
      obtain ⟨a, hfinish, h⟩ := bind_eq_ok h
      cases h
      exact built_of_finish hfinish
    · rw [wrongType] at h
      cases hfound : foundAt c rest with
      | error e => rw [hfound] at h; cases h
      | ok found => rw [hfound] at h; cases h

end Schema

end Mailwire.Json

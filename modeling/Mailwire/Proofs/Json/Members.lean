import Mailwire.Proofs.Json.Settled

/-!
# What the members of an object say

A record is read from an object member by member, and each either fills a field of the draft that was empty or
is passed over (`Json.Member.Told`). So an object is read exactly if its members can be told one after another
(`Schema.Settled.taken_object`), and whether they can does not depend on their order: each has to fit what
all of them say in the end, and no two may name the same field (`Schema.Settled.tells_iff`).

The same record may be read from an array of the values (`Schema.Settled.taken_array`). As both are read to
their ends, readers of records are among those that take whole values (`Schema.Settled.record`).
-/

namespace Mailwire.Json

variable {α : Type} {schema : Schema α}

/-- The readers of all fields take whole values, and fields have names of their own. -/
structure Schema.Settled (schema : Schema α) : Prop where
  named : ∀ f, schema.field? (schema.name f) = some f
  read : ∀ f, Json.Settled (schema.read f)

/-! ### One member -/

/-- The key of the member is the name of the field. -/
def Member.Names (m : Member) (f : schema.Field) : Prop := Spells m.key (schema.name f).toList

/-- The key of the member is not the name of any field. -/
def Member.Foreign (m : Member) (schema : Schema α) : Prop :=
  ∃ name, Spells m.key name ∧ ∀ f, (schema.name f).toList ≠ name

/-- What the member says is in the draft, or it says nothing. -/
inductive Member.Fits (m : Member) (d : schema.Draft) : Prop
  | known {f : schema.Field} {v : schema.Value f} (names : m.Names f)
      (reads : ReadsAs (schema.read f) m.value v) (holds : d f = some v)
  | foreign (h : m.Foreign schema) (lenient : schema.lenient = true)

/-- What the draft becomes when it is told what the member says. -/
inductive Member.Told (m : Member) (d : schema.Draft) : schema.Draft → Prop
  | known {f : schema.Field} {v : schema.Value f} (names : m.Names f)
      (reads : ReadsAs (schema.read f) m.value v) (free : d f = none) : m.Told d (d.set f v)
  | foreign (h : m.Foreign schema) (lenient : schema.lenient = true) : m.Told d d

/-- What stands behind the key. -/
def Member.valued (m : Member) (rest : List Char) : List Char :=
  m.between ++ ':' :: (m.toElement.text ++ rest)

/-- What stands behind the opening mark of the key. -/
def Member.body (m : Member) (rest : List Char) : List Char := m.key ++ '"' :: m.valued rest

lemma Member.text_append (m : Member) (rest : List Char) :
    m.text ++ rest = m.front ++ '"' :: m.body rest := by
  simp [Member.text, Member.body, Member.valued]

/-- A member that has a value of the grammar. -/
structure Member.Valid (m : Member) : Prop where
  shaped : m.Shaped
  value : IsValue m.value

namespace Schema

lemma field?_eq_some {key : String} {f : schema.Field} (h : schema.field? key = some f) :
    schema.name f = key := by
  simpa using List.find?_some h

section

variable {d : schema.Draft} {key : String} {cs behind : List Char} {f : schema.Field}

lemma of_taken_member {d' : schema.Draft} {rest : List Char}
    (h : taken (schema.member d) cs = .ok (d', rest)) :
    ∃ key behind, taken (stringBody .keep) cs = .ok (key, behind) := by
  obtain ⟨p, hread, -⟩ := taken_eq_ok.mp h
  obtain ⟨key, hkey, -⟩ := bind_eq_ok hread
  exact ⟨key.value, key.rest, taken_eq_ok.mpr ⟨key, hkey, rfl, rfl⟩⟩

lemma taken_member_duplicate (hkey : taken (stringBody .keep) cs = .ok (key, behind))
    (hfield : schema.field? key = some f) (hd : (d f).isSome = true) :
    taken (schema.member d) cs = .error (.misfit (.duplicateField key)) := by
  obtain ⟨p, hread, rfl, rfl⟩ := taken_eq_ok.mp hkey
  rw [taken, member, hread]
  simp only [bind, Except.bind]
  rw [hfield]
  simp only [hd, if_true]
  rfl

lemma taken_member_known (hkey : taken (stringBody .keep) cs = .ok (key, behind))
    (hfield : schema.field? key = some f) (hd : d f = none) :
    taken (schema.member d) cs = (taken (mark ':') behind).bind fun p =>
      (taken (schema.read f) p.2).map fun q => (d.set f q.1, q.2) := by
  obtain ⟨p, hread, rfl, rfl⟩ := taken_eq_ok.mp hkey
  rw [taken, member, hread]
  simp only [bind, Except.bind]
  rw [hfield]
  simp only [hd, Option.isSome_none, Bool.false_eq_true, if_false, taken]
  cases mark ':' p.rest with
  | error e => rfl
  | ok colon =>
    simp only [Except.map]
    cases schema.read f colon.rest with
    | error e => rfl
    | ok value => rfl

lemma taken_member_foreign (hkey : taken (stringBody .keep) cs = .ok (key, behind))
    (hfield : schema.field? key = none) :
    taken (schema.member d) cs =
      if schema.lenient then
        (taken (mark ':') behind).bind fun p => (taken skipValue p.2).map fun q => (d, q.2)
      else .error (.misfit (.unknownField key (schema.fields.map schema.name))) := by
  obtain ⟨p, hread, rfl, rfl⟩ := taken_eq_ok.mp hkey
  rw [taken, member, hread]
  simp only [bind, Except.bind]
  rw [hfield]
  simp only
  split_ifs with hlenient
  · simp only [taken]
    cases mark ':' p.rest with
    | error e => rfl
    | ok colon =>
      simp only [Except.map]
      cases skipValue colon.rest with
      | error e => rfl
      | ok value => rfl
  · rfl

end

end Schema

lemma taken_skipValue {v before rest : List Char} (hv : IsValue v) (hbefore : Blank before)
    (hrest : Apart rest) : taken skipValue (before ++ (v ++ rest)) = .ok ((), rest) := by
  have hskip := hv.skipped [] hrest
  rw [← skipRest_blank hbefore] at hskip
  rw [taken, skipValue]
  split
  next e herror => rw [hskip] at herror; cases herror
  next rest' hok =>
    rw [hskip] at hok
    cases hok
    rfl

lemma Member.Names.unique (h : schema.Settled) {m : Member} {f g : schema.Field} (hf : m.Names f)
    (hg : m.Names g) : f = g := by
  have hname : schema.name f = schema.name g := String.toList_injective (Spells.unique hf hg)
  have hfield := h.named f
  rw [hname, h.named g] at hfield
  exact (Option.some.inj hfield).symm

lemma Member.Foreign.not_names {m : Member} (h : m.Foreign schema) (f : schema.Field) : ¬ m.Names f := by
  obtain ⟨name, hname, hne⟩ := h
  intro hnames
  exact hne f (Spells.unique hnames hname)

/-- A key is read as what it spells. -/
lemma taken_key {m : Member} {name : List Char} (h : Spells m.key name) (rest : List Char) :
    taken (stringBody .keep) (m.body rest) = .ok (String.ofList name, m.valued rest) := by
  have hread := h.taken_keep [] (m.valued rest)
  rwa [List.reverse_nil, List.nil_append] at hread

lemma taken_colon {m : Member} (h : Blank m.between) (rest : List Char) :
    taken (mark ':') (m.valued rest) = .ok ((), m.before ++ (m.value ++ (m.behind ++ rest))) := by
  rw [Member.valued, mark_append h rfl, Element.text]
  simp

/-- If a key is read, it is the name of a field or foreign. -/
lemma Member.names_or_foreign (h : schema.Settled) {m : Member} (hm : Contents m.key) {key : String}
    {rest behind : List Char} (hread : taken (stringBody .keep) (m.body rest) = .ok (key, behind)) :
    (∃ f : schema.Field, m.Names f) ∨ m.Foreign schema := by
  obtain ⟨-, hspells⟩ := hm.spells_of_taken hread
  cases hfield : schema.field? key with
  | some f =>
    obtain rfl := Schema.field?_eq_some hfield
    exact Or.inl ⟨f, hspells⟩
  | none =>
    refine Or.inr ⟨key.toList, hspells, ?_⟩
    intro f heq
    rw [← String.toList_injective heq, h.named f] at hfield
    cases hfield

namespace Schema.Settled

variable (h : schema.Settled) {m : Member} {d d' : schema.Draft} {f : schema.Field} {tail rest : List Char}

lemma taken_foreign (hm : m.Valid) (hforeign : m.Foreign schema) (hbehind : Apart (m.behind ++ tail)) :
    ∃ e, taken (schema.member d) (m.body tail)
      = if schema.lenient then .ok (d, m.behind ++ tail) else .error e := by
  obtain ⟨name, hspells, hne⟩ := hforeign
  have hfield : schema.field? (String.ofList name) = none := by
    rw [Option.eq_none_iff_forall_ne_some]
    intro f hfield
    exact hne f (by rw [field?_eq_some hfield, String.toList_ofList])
  rw [taken_member_foreign (taken_key hspells tail) hfield, taken_colon hm.shaped.between]
  simp only [Except.bind]
  rw [taken_skipValue hm.value hm.shaped.spaced.before hbehind]
  exact ⟨_, rfl⟩

include h

lemma taken_duplicate (hnames : m.Names f) (hd : (d f).isSome = true) :
    taken (schema.member d) (m.body tail) = .error (.misfit (.duplicateField (schema.name f))) := by
  have hkey := taken_key hnames tail
  rw [String.ofList_toList] at hkey
  exact taken_member_duplicate hkey (h.named f) hd

lemma taken_known (hm : m.Shaped) (hnames : m.Names f) (hd : d f = none) :
    taken (schema.member d) (m.body tail)
      = (taken (schema.read f) (m.before ++ (m.value ++ (m.behind ++ tail)))).map fun q =>
          (d.set f q.1, q.2) := by
  have hkey := taken_key hnames tail
  rw [String.ofList_toList] at hkey
  rw [taken_member_known hkey (h.named f) hd, taken_colon hm.between]
  rfl

/-- A member is read exactly if the draft can be told what it says. Then the blanks behind it come next. -/
lemma taken_member (hm : m.Valid) (htail : Apart tail) :
    taken (schema.member d) (m.body tail) = .ok (d', rest) ↔ rest = m.behind ++ tail ∧ m.Told d d' := by
  have hspaced := hm.shaped.spaced
  have hbehind : Apart (m.behind ++ tail) := htail.append hspaced.behind
  constructor
  · intro hread
    obtain ⟨key, behind, hkey⟩ := of_taken_member hread
    rcases Member.names_or_foreign h hm.shaped.key hkey with ⟨f, hnames⟩ | hforeign
    · cases hd : d f with
      | some v =>
        rw [h.taken_duplicate hnames (by rw [hd]; rfl)] at hread
        cases hread
      | none =>
        rw [h.taken_known hm.shaped hnames hd] at hread
        cases hvalue : taken (schema.read f) (m.before ++ (m.value ++ (m.behind ++ tail))) with
        | error e =>
          rw [hvalue] at hread
          cases hread
        | ok p =>
          rw [hvalue] at hread
          cases hread
          obtain ⟨hrest, hreads⟩ := h.read f hm.value hspaced.before hbehind hvalue
          exact ⟨hrest, .known hnames hreads hd⟩
    · obtain ⟨e, hskipped⟩ := taken_foreign hm hforeign hbehind
      rw [hskipped] at hread
      split_ifs at hread with hlenient
      cases hread
      exact ⟨rfl, .foreign hforeign hlenient⟩
  · rintro ⟨rfl, htold⟩
    cases htold with
    | @known f v hnames hreads hfree =>
      rw [h.taken_known hm.shaped hnames hfree, hreads hspaced.before hbehind]
      rfl
    | foreign hforeign hlenient =>
      obtain ⟨e, hskipped⟩ := taken_foreign hm hforeign hbehind
      rw [hskipped, if_pos hlenient]

end Schema.Settled

/-! ### Members in a row -/

/-- What a draft becomes when it is told what members say, one after another. -/
inductive Tells : List Member → schema.Draft → schema.Draft → Prop
  | nil (d : schema.Draft) : Tells [] d d
  | cons {m : Member} {more : List Member} {d d₁ d' : schema.Draft} (h : m.Told d d₁)
      (hmore : Tells more d₁ d') : Tells (m :: more) d d'

namespace Schema

variable {d : schema.Draft} {blank tail rest : List Char}

lemma taken_furtherMembers_end (hblank : Blank blank) :
    taken (schema.furtherMembers d) (blank ++ Bracket.object.closing :: rest) = .ok (d, rest) := by
  have hclosing := skipBlank_closing hblank .object rest
  rw [taken, furtherMembers]
  split
  next hnil => rw [hclosing] at hnil; cases hnil
  next c behind hcons =>
    rw [hclosing] at hcons
    cases hcons
    rw [if_pos rfl]
    rfl

lemma taken_mark_quote {m : Member} (hfront : Blank m.front) (tail : List Char) :
    taken (mark '"') (m.text ++ tail) = .ok ((), m.body tail) := by
  rw [Member.text_append]
  exact mark_append hfront rfl _

lemma taken_furtherMembers_next {m : Member} (hblank : Blank blank) (hfront : Blank m.front) :
    taken (schema.furtherMembers d) (blank ++ ',' :: (m.text ++ tail))
      = (taken (schema.member d) (m.body tail)).bind fun p => taken (schema.furtherMembers p.1) p.2 := by
  have hcomma := skipBlank_comma hblank (m.text ++ tail)
  obtain ⟨q, hquote, -, hbody⟩ := taken_eq_ok.mp (taken_mark_quote hfront tail)
  rw [taken, furtherMembers]
  split
  next hnil => rw [hcomma] at hnil; cases hnil
  next c behind hcons =>
    rw [hcomma] at hcons
    cases hcons
    rw [if_neg (by decide), if_pos rfl, hquote]
    dsimp only
    rw [← hbody, taken]
    cases schema.member d q.rest with
    | error e => rfl
    | ok p => exact map_widen _ _

end Schema

namespace Schema.Settled

variable (h : schema.Settled) {members : List Member} {d d' : schema.Draft} {blank rest rest' : List Char}

include h

/-- Further members are read exactly if the draft can be told what they say. -/
lemma taken_furtherMembers (hmembers : ∀ m ∈ members, m.Valid) (hblank : Blank blank) :
    taken (schema.furtherMembers d)
        (blank ++ (further (members.map Member.text) ++ Bracket.object.closing :: rest))
      = .ok (d', rest') ↔ rest' = rest ∧ Tells members d d' := by
  induction members generalizing d blank with
  | nil =>
    rw [List.map_nil, further, List.flatMap_nil, List.nil_append, taken_furtherMembers_end hblank]
    constructor
    · rintro ⟨⟩
      exact ⟨rfl, .nil _⟩
    · rintro ⟨rfl, ⟨⟩⟩
      rfl
  | cons m more ih =>
    obtain ⟨hm, hmore⟩ := List.forall_mem_cons.mp hmembers
    have hsplit : further ((m :: more).map Member.text) ++ Bracket.object.closing :: rest
        = ',' :: (m.text ++ (further (more.map Member.text) ++ Bracket.object.closing :: rest)) := by
      simp [further]
    have hapart := apart_further .object (more.map Member.text) rest
    rw [hsplit, taken_furtherMembers_next hblank hm.shaped.front]
    constructor
    · intro hread
      obtain ⟨⟨d₁, left⟩, hfirst, hread⟩ := bind_eq_ok hread
      obtain ⟨rfl, htold⟩ := (h.taken_member hm hapart).mp hfirst
      obtain ⟨hrest, htells⟩ := (ih hmore hm.shaped.spaced.behind).mp hread
      exact ⟨hrest, .cons htold htells⟩
    · rintro ⟨rfl, htells⟩
      cases htells with
      | cons htold htells =>
        rw [(h.taken_member hm hapart).mpr ⟨rfl, htold⟩]
        exact (ih hmore hm.shaped.spaced.behind).mpr ⟨rfl, htells⟩

/-- If a member is refused, the object is not read on. -/
lemma taken_furtherMembers_refused {m : Member} (hmembers : ∀ m ∈ members, m.Valid)
    (hblank : Blank blank) (htells : Tells members d d') (hfront : Blank m.front) {e : ReadError}
    (hrefused : taken (schema.member d') (m.body rest) = .error e) :
    taken (schema.furtherMembers d) (blank ++ (further (members.map Member.text) ++ ',' :: (m.text ++ rest)))
      = .error e := by
  induction htells generalizing blank with
  | nil =>
    rw [List.map_nil, further, List.flatMap_nil, List.nil_append,
      taken_furtherMembers_next hblank hfront, hrefused]
    rfl
  | @cons m₁ more d d₁ d' htold _ ih =>
    obtain ⟨hm, hmore⟩ := List.forall_mem_cons.mp hmembers
    have hsplit : further ((m₁ :: more).map Member.text) ++ ',' :: (m.text ++ rest)
        = ',' :: (m₁.text ++ (further (more.map Member.text) ++ ',' :: (m.text ++ rest))) := by
      simp [further]
    have hapart : Apart (further (more.map Member.text) ++ ',' :: (m.text ++ rest)) := by
      cases more with
      | nil => exact .cons (by decide) _
      | cons => exact .cons (by decide) _
    rw [hsplit, taken_furtherMembers_next hblank hm.shaped.front,
      (h.taken_member hm hapart).mpr ⟨rfl, htold⟩]
    exact ih hmore hm.shaped.spaced.behind hrefused

end Schema.Settled

/-! ### What all members say -/

/-- No two of the members name the same field. -/
def Distinct (schema : Schema α) (members : List Member) : Prop :=
  members.Pairwise fun m m' => ∀ f : schema.Field, m.Names f → ¬ m'.Names f

lemma Distinct.perm {members members' : List Member} (h : Distinct schema members)
    (hperm : members'.Perm members) : Distinct schema members' := by
  refine (hperm.pairwise_iff ?_).mpr h
  intro m m' hdistinct f hm' hm
  exact hdistinct f hm hm'

/-- Members say altogether what stands in the last draft, if there is no more in the first. The order of the
members does not matter. -/
structure Agree (members : List Member) (d d' : schema.Draft) : Prop where
  fits : ∀ m ∈ members, m.Fits d'
  distinct : Distinct schema members
  free : ∀ m ∈ members, ∀ f, m.Names f → d f = none
  kept : ∀ f, (∀ m ∈ members, ¬ m.Names f) → d' f = d f

namespace Agree

variable {members more : List Member} {d d' : schema.Draft}

lemma perm {members' : List Member} (h : Agree members d d') (hperm : members'.Perm members) :
    Agree members' d d' where
  fits := fun m hm => h.fits m (hperm.mem_iff.mp hm)
  distinct := h.distinct.perm hperm
  free := fun m hm => h.free m (hperm.mem_iff.mp hm)
  kept := fun f hf => h.kept f fun m hm => hf m (hperm.mem_iff.mpr hm)

/-- Members that are foreign say nothing. -/
lemma append_foreign (h : Agree members d d') (hlenient : schema.lenient = true)
    (hforeign : ∀ m ∈ more, m.Foreign schema) : Agree (members ++ more) d d' := by
  refine ⟨?_, ?_, ?_, ?_⟩
  · refine List.forall_mem_append.mpr ⟨h.fits, ?_⟩
    exact fun m hm => .foreign (hforeign m hm) hlenient
  · refine List.pairwise_append.mpr ⟨h.distinct, ?_, ?_⟩
    · exact List.pairwise_of_forall_mem_list fun m hm m' _ f hf =>
        absurd hf ((hforeign m hm).not_names f)
    · exact fun m _ m' hm' f _ => (hforeign m' hm').not_names f
  · refine List.forall_mem_append.mpr ⟨h.free, ?_⟩
    exact fun m hm f hf => absurd hf ((hforeign m hm).not_names f)
  · exact fun f hf => h.kept f (List.forall_mem_append.mp hf).1

/-- Some of the members say the same of the fields that they name. -/
lemma restrict (h : Agree (members ++ more) schema.blank d') :
    ∃ d, Agree members schema.blank d ∧
      (∀ f, (∃ m ∈ members, m.Names f) → d f = d' f) ∧ ∀ f, (∀ m ∈ members, ¬ m.Names f) → d f = none := by
  classical
  let d : schema.Draft := fun f => if ∃ m ∈ members, m.Names f then d' f else none
  have hsame : ∀ f, (∃ m ∈ members, m.Names f) → d f = d' f := fun f hf => if_pos hf
  have hnone : ∀ f, (∀ m ∈ members, ¬ m.Names f) → d f = none := by
    intro f hf
    refine if_neg ?_
    rintro ⟨m, hm, hnames⟩
    exact hf m hm hnames
  obtain ⟨hfits, -⟩ := List.forall_mem_append.mp h.fits
  obtain ⟨hdistinct, -⟩ := List.pairwise_append.mp h.distinct
  refine ⟨d, ⟨?_, hdistinct, fun m _ f _ => rfl, hnone⟩, hsame, hnone⟩
  intro m hm
  cases hfits m hm with
  | @known f v hnames hreads hvalue => exact .known hnames hreads ((hsame f ⟨m, hm, hnames⟩).trans hvalue)
  | foreign hforeign hlenient => exact .foreign hforeign hlenient

/-- A field that a member names has the value of this member then. -/
lemma exists_reads (h : Agree members d d') (hset : schema.Settled) {m : Member} (hm : m ∈ members)
    {f : schema.Field} (hnames : m.Names f) :
    ∃ v, d' f = some v ∧ ReadsAs (schema.read f) m.value v := by
  cases h.fits m hm with
  | @known g v hnames' hreads hvalue =>
    obtain rfl := hnames'.unique hset hnames
    exact ⟨v, hvalue, hreads⟩
  | foreign hforeign _ => exact absurd hnames (hforeign.not_names f)

lemma isSome (h : Agree members d d') (hset : schema.Settled) {m : Member} (hm : m ∈ members)
    {f : schema.Field} (hnames : m.Names f) : (d' f).isSome = true := by
  obtain ⟨v, hvalue, -⟩ := h.exists_reads hset hm hnames
  rw [hvalue]
  rfl

/-- A field without a value before is named by a member if it has one then. -/
lemma exists_names (h : Agree members schema.blank d') {f : schema.Field} (hf : (d' f).isSome = true) :
    ∃ m ∈ members, m.Names f := by
  by_contra hno
  rw [h.kept f fun m hm hnames => hno ⟨m, hm, hnames⟩] at hf
  cases hf

/-- A member that does not name the field sees the same of the draft when it is set. -/
lemma set_other {m : Member} {f g : schema.Field} {v : schema.Value f} (hother : ¬ m.Names f)
    (hg : m.Names g) : d.set f v g = d g := by
  refine Schema.Draft.set_of_ne d v ?_
  rintro rfl
  exact hother hg

/-- What one more member in front says is agreed on if the draft can be told it. -/
lemma cons (hset : schema.Settled) {m : Member} {d₁ : schema.Draft} (htold : m.Told d d₁)
    (h : Agree more d₁ d') : Agree (m :: more) d d' := by
  cases htold with
  | foreign hforeign hlenient =>
    have hno := hforeign.not_names
    refine ⟨?_, ?_, ?_, ?_⟩
    · exact List.forall_mem_cons.mpr ⟨.foreign hforeign hlenient, h.fits⟩
    · exact List.pairwise_cons.mpr ⟨fun m' _ f hf => absurd hf (hno f), h.distinct⟩
    · exact List.forall_mem_cons.mpr ⟨fun f hf => absurd hf (hno f), h.free⟩
    · exact fun f hf => h.kept f (List.forall_mem_cons.mp hf).2
  | @known f v hnames hreads hfree =>
    -- no later member names this field, as the draft has a value for it then
    have hlater : ∀ m' ∈ more, ¬ m'.Names f := by
      intro m' hm' hnames'
      have hnone := h.free m' hm' f hnames'
      rw [Schema.Draft.set_same] at hnone
      cases hnone
    have hvalue : d' f = some v := by rw [h.kept f hlater, Schema.Draft.set_same]
    have honly : ∀ g, m.Names g → f = g := fun g hg => hnames.unique hset hg
    refine ⟨?_, ?_, ?_, ?_⟩
    · exact List.forall_mem_cons.mpr ⟨.known hnames hreads hvalue, h.fits⟩
    · refine List.pairwise_cons.mpr ⟨?_, h.distinct⟩
      intro m' hm' g hg
      rw [← honly g hg]
      exact hlater m' hm'
    · refine List.forall_mem_cons.mpr ⟨?_, ?_⟩
      · intro g hg
        rw [← honly g hg]
        exact hfree
      · intro m' hm' g hg
        have hnone := h.free m' hm' g hg
        rwa [set_other (hlater m' hm') hg] at hnone
    · intro g hg
      obtain ⟨hgm, hgmore⟩ := List.forall_mem_cons.mp hg
      have hne : g ≠ f := by
        rintro rfl
        exact hgm hnames
      rw [h.kept g hgmore, Schema.Draft.set_of_ne d v hne]

/-- The draft can be told what the first member says, and the others agree then on what is left. -/
lemma of_cons (hset : schema.Settled) {m : Member} (h : Agree (m :: more) d d') :
    ∃ d₁, m.Told d d₁ ∧ Agree more d₁ d' := by
  obtain ⟨hfits, hfitsMore⟩ := List.forall_mem_cons.mp h.fits
  obtain ⟨hdistinct, hdistinctMore⟩ := List.pairwise_cons.mp h.distinct
  obtain ⟨hfree, hfreeMore⟩ := List.forall_mem_cons.mp h.free
  cases hfits with
  | foreign hforeign hlenient =>
    refine ⟨d, .foreign hforeign hlenient, hfitsMore, hdistinctMore, hfreeMore, ?_⟩
    intro f hf
    exact h.kept f (List.forall_mem_cons.mpr ⟨hforeign.not_names f, hf⟩)
  | @known f v hnames hreads hvalue =>
    refine ⟨d.set f v, .known hnames hreads (hfree f hnames), hfitsMore, hdistinctMore, ?_, ?_⟩
    · intro m' hm' g hg
      rw [set_other (hdistinct m' hm' f hnames) hg]
      exact hfreeMore m' hm' g hg
    · intro g hg
      by_cases hne : g = f
      · subst hne
        rw [Schema.Draft.set_same, hvalue]
      · rw [Schema.Draft.set_of_ne d v hne]
        refine h.kept g (List.forall_mem_cons.mpr ⟨?_, hg⟩)
        intro hgm
        exact hne (hgm.unique hset hnames)

end Agree

/-- A draft can be told what members say, one after another, exactly if each fits what all of them say. -/
theorem Schema.Settled.tells_iff (h : schema.Settled) {members : List Member} {d d' : schema.Draft} :
    Tells members d d' ↔ Agree members d d' := by
  constructor
  · intro htells
    induction htells with
    | nil d => exact ⟨by simp, .nil, by simp, fun f _ => rfl⟩
    | cons htold _ ih => exact ih.cons h htold
  · intro hagree
    induction members generalizing d with
    | nil =>
      obtain rfl : d' = d := funext fun f => hagree.kept f (by simp)
      exact .nil d'
    | cons m more ih =>
      obtain ⟨d₁, htold, hmore⟩ := hagree.of_cons h
      exact .cons htold (ih hmore)

lemma Tells.of_append {front behind : List Member} {d d' : schema.Draft} (h : Tells (front ++ behind) d d') :
    ∃ d₁, Tells front d d₁ ∧ Tells behind d₁ d' := by
  induction front generalizing d with
  | nil => exact ⟨d, .nil d, h⟩
  | cons m front ih =>
    cases h with
    | cons htold hmore =>
      obtain ⟨d₁, hfront, hbehind⟩ := ih hmore
      exact ⟨d₁, .cons htold hfront, hbehind⟩

/-! ### Drafts that are not full -/

namespace Schema.Draft

variable {d : schema.Draft} {f : schema.Field}

/-- The first field that has no value is reported. -/
lemma missing?_eq {earlier later : List schema.Field} (hfields : schema.fields = earlier ++ f :: later)
    (hnone : d f = none) (hearlier : ∀ g ∈ earlier, (d g).isSome = true) : d.missing? = some f := by
  rw [missing?, hfields, List.find?_append, List.find?_eq_none.mpr, Option.none_or,
    List.find?_cons_of_pos]
  · rw [hnone]
    rfl
  · intro g hg
    simp [Option.isSome_iff_ne_none.mp (hearlier g hg)]

lemma finish_missing (h : d.missing? = some f) : d.finish = .error (.missingField (schema.name f)) := by
  rw [finish]
  split
  next g hg =>
    rw [h] at hg
    cases hg
    rfl
  next hnone =>
    rw [h] at hnone
    cases hnone

/-- A draft that makes up a record is full. -/
lemma isSome_of_finish {a : α} (h : fit d.finish = .ok a) (f : schema.Field) : (d f).isSome = true := by
  cases hmissing : d.missing? with
  | none => exact isSome_of_missing? hmissing f
  | some g =>
    rw [finish_missing hmissing] at h
    cases h

end Schema.Draft

/-! ### Objects -/

namespace Schema

variable {before inner cs rest : List Char} {members : List Member} {elements : List Element}

lemma taken_record_object (h : skipBlank cs = Bracket.object.opening :: rest) :
    taken schema.record cs = (taken schema.members rest).bind fun p =>
      (fit p.1.finish).map fun a => (a, p.2) := by
  rw [taken, record]
  split
  next hnil => rw [h] at hnil; cases hnil
  next c behind hcons =>
    rw [h] at hcons
    cases hcons
    rw [if_neg (by decide), if_pos rfl, taken]
    cases schema.members rest with
    | error e => rfl
    | ok p =>
      simp only [bind, Except.bind, Except.map]
      cases fit p.value.finish with
      | error e => rfl
      | ok a => rfl

lemma taken_record_array (h : skipBlank cs = Bracket.array.opening :: rest) :
    taken schema.record cs = taken (schema.elements schema.blank 0 schema.fields) rest := by
  rw [taken, record]
  split
  next hnil => rw [h] at hnil; cases hnil
  next c behind hcons =>
    rw [h] at hcons
    cases hcons
    rw [if_pos rfl]
    exact map_widen _ _

lemma head_of_taken_record {a : α} (h : taken schema.record cs = .ok (a, rest)) :
    ∃ b behind, skipBlank cs = Bracket.opening b :: behind := by
  obtain ⟨p, hread, -⟩ := taken_eq_ok.mp h
  rw [record] at hread
  split at hread
  next => cases hread
  next c behind hcons =>
    split_ifs at hread with harray hobject
    · exact ⟨.array, behind, by rw [hcons, harray]⟩
    · exact ⟨.object, behind, by rw [hcons, hobject]⟩
    · exact absurd hread wrongType_ne_ok

lemma skipBlank_opening (hbefore : Blank before) (b : Bracket) (cs : List Char) :
    skipBlank (before ++ b.opening :: cs) = b.opening :: cs := by
  rw [skipBlank_append hbefore, skipBlank_cons (by cases b <;> rfl)]

/-- The first member of an object is read as further ones are. -/
lemma taken_members (hinner : Blank inner) (hfront : ∀ m ∈ members, Blank m.front) :
    taken schema.members (inner ++ (joined (members.map Member.text) ++ Bracket.object.closing :: rest))
      = taken (schema.furtherMembers schema.blank)
          (further (members.map Member.text) ++ Bracket.object.closing :: rest) := by
  cases members with
  | nil =>
    have hclosing := skipBlank_closing hinner .object rest
    rw [List.map_nil, joined, List.nil_append, further, List.flatMap_nil,
      taken_furtherMembers_end .nil, taken, Schema.members]
    split
    next hnil => rw [hclosing] at hnil; cases hnil
    next c behind hcons =>
      rw [hclosing] at hcons
      cases hcons
      rw [if_pos rfl]
      rfl
  | cons m more =>
    obtain ⟨hm, hmore⟩ := List.forall_mem_cons.mp hfront
    generalize htail : further (more.map Member.text) ++ Bracket.object.closing :: rest = tail
    have hfurther : further ((m :: more).map Member.text) ++ Bracket.object.closing :: rest
        = [] ++ ',' :: (m.text ++ tail) := by
      simp [further, ← htail]
    have hjoined : joined ((m :: more).map Member.text) ++ Bracket.object.closing :: rest
        = m.text ++ tail := by
      simp [joined, ← htail]
    have hquote : skipBlank (inner ++ (m.text ++ tail)) = '"' :: m.body tail := by
      rw [skipBlank_append hinner, Member.text_append, skipBlank_append hm, skipBlank_cons rfl]
    rw [hfurther, hjoined, taken_furtherMembers_next .nil hm, taken, Schema.members]
    split
    next hnil => rw [hquote] at hnil; cases hnil
    next c behind hcons =>
      rw [hquote] at hcons
      cases hcons
      rw [if_neg (by decide), if_pos rfl, taken]
      cases schema.member schema.blank (m.body tail) with
      | error e => rfl
      | ok p =>
        simp only [bind, Except.bind, Except.map, taken]
        cases schema.furtherMembers p.value p.rest with
        | error e => rfl
        | ok q => rfl

/-- An object is read member by member, and what they say is then judged. -/
lemma taken_objectText (hbefore : Blank before) (hinner : Blank inner)
    (hfront : ∀ m ∈ members, Blank m.front) :
    taken schema.record (before ++ (objectText inner members ++ rest))
      = (taken (schema.furtherMembers schema.blank)
          (further (members.map Member.text) ++ Bracket.object.closing :: rest)).bind fun p =>
        (fit p.1.finish).map fun a => (a, p.2) := by
  have hsplit : objectText inner members ++ rest = Bracket.object.opening
      :: (inner ++ (joined (members.map Member.text) ++ Bracket.object.closing :: rest)) := by
    simp [objectText, bracketed]
  rw [hsplit, taken_record_object (skipBlank_opening hbefore .object _), taken_members hinner hfront]

end Schema

end Mailwire.Json

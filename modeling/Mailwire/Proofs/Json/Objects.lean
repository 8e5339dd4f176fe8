import Mailwire.Proofs.Json.Elements

/-!
# Texts that say the same

If unknown members are passed over, what is read of an object depends on the known ones only: not on their
order, nor on what else stands in the object (`Schema.Settled.whole_alike`). None of them may be left out
(`Schema.Settled.whole_without`) or be there twice (`Schema.Settled.whole_again`), and the array of their
values is read as the object is (`Schema.Settled.whole_values`).
-/

namespace Mailwire.Json

variable {α : Type} {schema : Schema α} {members members' more : List Member} {d d' : schema.Draft}

/-! ### Whole texts -/

/-- The blanks around an object or an array, and between its brackets if nothing else stands there. -/
structure Frame where
  before : List Char
  inner : List Char
  behind : List Char
  blank : Blank before ∧ Blank inner ∧ Blank behind

namespace Frame

/-- No blanks. -/
def tight : Frame := ⟨[], [], [], .nil, .nil, .nil⟩

def object (frame : Frame) (members : List Member) : String :=
  String.ofList (frame.before ++ (objectText frame.inner members ++ frame.behind))

def array (frame : Frame) (elements : List Element) : String :=
  String.ofList (frame.before ++ (arrayText frame.inner elements ++ frame.behind))

end Frame

lemma whole_ofList (reader : Reader α) (cs : List Char) :
    whole reader (String.ofList cs) = (taken reader cs).bind fun p =>
      if (skipBlank p.2).isEmpty then .ok p.1 else .error .malformed := by
  rw [whole, String.toList_ofList, taken]
  cases reader cs with
  | error e => rfl
  | ok p => rfl

lemma Blank.isEmpty_skipBlank {blank : List Char} (h : Blank blank) : (skipBlank blank).isEmpty = true := by
  have hskip := skipBlank_append h []
  rw [List.append_nil] at hskip
  rw [hskip]
  rfl

/-- If only blanks can be left of a text, it is read whole. -/
lemma whole_eq_ok {reader : Reader α} {cs behind : List Char} {a : α} {P : Prop} (hbehind : Blank behind)
    (h : ∀ {rest}, taken reader cs = .ok (a, rest) ↔ rest = behind ∧ P) :
    whole reader (String.ofList cs) = .ok a ↔ P := by
  rw [whole_ofList]
  constructor
  · intro hread
    obtain ⟨⟨a', rest⟩, htaken, hjudged⟩ := Schema.bind_eq_ok hread
    split_ifs at hjudged
    cases hjudged
    exact (h.mp htaken).2
  · intro hP
    rw [h.mpr ⟨rfl, hP⟩]
    exact if_pos hbehind.isEmpty_skipBlank

/-! ### Members beside foreign ones -/

/-- But for foreign members, the members are the same in any order. -/
def Alike (schema : Schema α) (members members' : List Member) : Prop :=
  ∃ left right, (∀ m ∈ left, m.Foreign schema) ∧ (∀ m ∈ right, m.Valid ∧ m.Foreign schema) ∧
    (members' ++ left).Perm (members ++ right)

lemma Alike.refl (schema : Schema α) (members : List Member) : Alike schema members members :=
  ⟨[], [], by simp, by simp, .refl _⟩

lemma Alike.valid (h : Alike schema members members') (hmembers : ∀ m ∈ members, m.Valid) :
    ∀ m ∈ members', m.Valid := by
  obtain ⟨left, right, -, hright, hperm⟩ := h
  intro m hm
  have hmem := hperm.mem_iff.mp (List.mem_append_left left hm)
  exact (List.mem_append.mp hmem).elim (hmembers m) fun hm => (hright m hm).1

/-- Foreign members may be left out. -/
lemma Agree.of_append_foreign (h : Agree (members ++ more) d d') (hforeign : ∀ m ∈ more, m.Foreign schema) :
    Agree members d d' where
  fits := (List.forall_mem_append.mp h.fits).1
  distinct := (List.pairwise_append.mp h.distinct).1
  free := (List.forall_mem_append.mp h.free).1
  kept := fun f hf =>
    h.kept f (List.forall_mem_append.mpr ⟨hf, fun m hm => (hforeign m hm).not_names f⟩)

lemma Alike.agree (h : Alike schema members members') (hlenient : schema.lenient = true)
    (hagree : Agree members d d') : Agree members' d d' := by
  obtain ⟨left, right, hleft, hright, hperm⟩ := h
  have hall := hagree.append_foreign hlenient fun m hm => (hright m hm).2
  exact (hall.perm hperm).of_append_foreign hleft

/-! ### Fields that are named by members -/

/-- The first field, as they are declared, that is named by one of the members. -/
def FirstNamed (members : List Member) (f : schema.Field) : Prop :=
  ∃ earlier later, schema.fields = earlier ++ f :: later ∧ (∃ m ∈ members, m.Names f) ∧
    ∀ g ∈ earlier, ∀ m ∈ members, ¬ m.Names g

lemma exists_first {β : Type} {p : β → Prop} {items : List β} (h : ∃ x ∈ items, p x) :
    ∃ front x behind, items = front ++ x :: behind ∧ p x ∧ ∀ y ∈ front, ¬ p y := by
  classical
  obtain ⟨x, hx, hp⟩ := h
  have hsome : (items.find? fun x => decide (p x)).isSome = true :=
    List.find?_isSome.mpr ⟨x, hx, decide_eq_true hp⟩
  obtain ⟨first, hfirst⟩ := Option.isSome_iff_exists.mp hsome
  obtain ⟨hfirst, front, behind, hitems, hfront⟩ := List.find?_eq_some_iff_append.mp hfirst
  refine ⟨front, first, behind, hitems, of_decide_eq_true hfirst, ?_⟩
  intro y hy
  simpa using hfront y hy

lemma exists_firstNamed {m : Member} (hm : m ∈ members) {f : schema.Field} (hnames : m.Names f) :
    ∃ f : schema.Field, FirstNamed members f := by
  have hsome : ∃ f ∈ schema.fields, ∃ m ∈ members, m.Names f := ⟨f, schema.complete f, m, hm, hnames⟩
  obtain ⟨earlier, first, later, hfields, hnamed, hearlier⟩ := exists_first hsome
  exact ⟨first, earlier, later, hfields, hnamed, fun g hg m hm hnames => hearlier g hg ⟨m, hm, hnames⟩⟩

/-- If a field is named twice by members, there is a second of these. -/
lemma exists_second (h : schema.Settled) {front behind : List Member} {m again : Member}
    {f : schema.Field} (hdistinct : Distinct schema (front ++ behind)) (hm : m ∈ front ++ behind)
    (hnames : m.Names f) (hagain : again.Names f) :
    ∃ front' second behind', front ++ again :: behind = front' ++ second :: behind' ∧
      Distinct schema front' ∧ second.Names f ∧ ∃ first ∈ front', first.Names f := by
  rcases List.mem_append.mp hm with hfront | hbehind
  · exact ⟨front, again, behind, rfl, (List.pairwise_append.mp hdistinct).1, hagain, m, hfront, hnames⟩
  · obtain ⟨between, behind', rfl⟩ := List.append_of_mem hbehind
    rw [← List.append_assoc] at hdistinct
    obtain ⟨hothers, -, hothers_m⟩ := List.pairwise_append.mp hdistinct
    refine ⟨front ++ again :: between, m, behind', by simp, ?_, hnames, again, by simp, hagain⟩
    have hcons : Distinct schema (again :: (front ++ between)) := by
      refine List.pairwise_cons.mpr ⟨?_, hothers⟩
      intro other hother g hg hnamed
      obtain rfl := hg.unique h hagain
      exact hothers_m other hother m List.mem_cons_self g hnamed hnames
    exact hcons.perm List.perm_middle

/-- If each of the members fits some draft and no two name the same field, there is one that they all fit. -/
lemma exists_tells (hfits : ∀ m ∈ members, ∃ d' : schema.Draft, m.Fits d')
    (hdistinct : Distinct schema members) (hfree : ∀ m ∈ members, ∀ f, m.Names f → d f = none) :
    ∃ d', Tells members d d' := by
  induction members generalizing d with
  | nil => exact ⟨d, .nil d⟩
  | cons m more ih =>
    obtain ⟨⟨d₀, hfirst⟩, hmore⟩ := List.forall_mem_cons.mp hfits
    obtain ⟨hothers, hdistinct⟩ := List.pairwise_cons.mp hdistinct
    obtain ⟨hfreeFirst, hfree⟩ := List.forall_mem_cons.mp hfree
    cases hfirst with
    | foreign hforeign hlenient =>
      obtain ⟨d', htells⟩ := ih hmore hdistinct hfree
      exact ⟨d', .cons (.foreign hforeign hlenient) htells⟩
    | @known f v hnames hreads _ =>
      have hfree' : ∀ m' ∈ more, ∀ g, m'.Names g → d.set f v g = none := by
        intro m' hm' g hg
        rw [Agree.set_other (hothers m' hm' f hnames) hg]
        exact hfree m' hm' g hg
      obtain ⟨d', htells⟩ := ih hmore hdistinct hfree'
      exact ⟨d', .cons (.known hnames hreads (hfreeFirst f hnames)) htells⟩

namespace Schema.Settled

variable {frame frame' : Frame} {a : α} {f : schema.Field} (h : schema.Settled)

include h

/-! ### Records that are read -/

/-- A record is read from an object exactly if the members agree on it. -/
theorem whole_object (hmembers : ∀ m ∈ members, m.Valid) :
    whole schema.record (frame.object members) = .ok a ↔
      ∃ d, Agree members schema.blank d ∧ fit d.finish = .ok a := by
  obtain ⟨hbefore, hinner, hbehind⟩ := frame.blank
  simp only [← h.tells_iff]
  exact whole_eq_ok hbehind (h.taken_object hmembers hbefore hinner)

theorem whole_array {elements : List Element} (helements : ∀ e ∈ elements, e.Valid) :
    whole schema.record (frame.array elements) = .ok a ↔
      ∃ d, Fills schema.fields elements schema.blank d ∧ fit d.finish = .ok a := by
  obtain ⟨hbefore, hinner, hbehind⟩ := frame.blank
  exact whole_eq_ok hbehind (h.taken_array helements hbefore hinner)

/-- The order of members does not matter, nor which others there are. -/
theorem whole_alike (hlenient : schema.lenient = true) (hmembers : ∀ m ∈ members, m.Valid)
    (hread : whole schema.record (frame.object members) = .ok a) (halike : Alike schema members members') :
    whole schema.record (frame'.object members') = .ok a := by
  obtain ⟨d, hagree, hfinish⟩ := (h.whole_object hmembers).mp hread
  exact (h.whole_object (halike.valid hmembers)).mpr ⟨d, halike.agree hlenient hagree, hfinish⟩

/-- Each field is named by a member. -/
lemma exists_names (hmembers : ∀ m ∈ members, m.Valid)
    (hread : whole schema.record (frame.object members) = .ok a) (f : schema.Field) :
    ∃ m ∈ members, m.Names f := by
  obtain ⟨d, hagree, hfinish⟩ := (h.whole_object hmembers).mp hread
  exact hagree.exists_names (Draft.isSome_of_finish hfinish f)

/-- Each member that names a field has a value that the field can have. -/
lemma exists_reads (hmembers : ∀ m ∈ members, m.Valid)
    (hread : whole schema.record (frame.object members) = .ok a) {m : Member} (hm : m ∈ members)
    (hnames : m.Names f) : ∃ v, ReadsAs (schema.read f) m.value v := by
  obtain ⟨d, hagree, -⟩ := (h.whole_object hmembers).mp hread
  obtain ⟨v, -, hreads⟩ := hagree.exists_reads h hm hnames
  exact ⟨v, hreads⟩

/-- The values of the members are read as the members are, if they stand in the order of the fields. -/
theorem whole_values (hmembers : ∀ m ∈ members, m.Valid)
    (hread : whole schema.record (frame.object members) = .ok a) {elements : List Element}
    (helements : List.Forall₂ (fun f e => e.Spaced ∧ ∃ m ∈ members, m.Names f ∧ e.value = m.value)
      schema.fields elements) :
    whole schema.record (frame'.array elements) = .ok a := by
  obtain ⟨d, hagree, hfinish⟩ := (h.whole_object hmembers).mp hread
  have hvalid : List.Forall₂ (fun e (_ : schema.Field) => e.Valid ∧ True) elements schema.fields := by
    refine helements.flip.imp ?_
    rintro e f ⟨hspaced, m, hm, -, hvalue⟩
    refine ⟨⟨hspaced, ?_⟩, trivial⟩
    rw [hvalue]
    exact (hmembers m hm).value
  have hvalues : List.Forall₂ (fun f e => ∃ v, d f = some v ∧ ReadsAs (schema.read f) e.value v)
      schema.fields elements := by
    refine helements.imp ?_
    rintro f e ⟨-, m, hm, hnames, hvalue⟩
    rw [hvalue]
    exact hagree.exists_reads h hm hnames
  have hfills : Fills schema.fields elements schema.blank d :=
    .of_values hvalues fun f => Or.inl (schema.complete f)
  exact (h.whole_array ((List.forall₂_and_left _ _).mp hvalid).1).mpr ⟨d, hfills, hfinish⟩

/-! ### Records that are not read -/

lemma whole_missing (hmembers : ∀ m ∈ members, m.Valid) (hagree : Agree members schema.blank d)
    (hmissing : d.missing? = some f) :
    whole schema.record (frame.object members) = .error (.misfit (.missingField (schema.name f))) := by
  obtain ⟨hbefore, hinner, -⟩ := frame.blank
  rw [Frame.object, whole_ofList, h.taken_object_told hmembers hbefore hinner (h.tells_iff.mpr hagree),
    Draft.finish_missing hmissing]
  rfl

lemma whole_duplicate {front behind : List Member} {m : Member}
    (hmembers : ∀ m' ∈ front ++ m :: behind, m'.Valid) (htells : Tells front schema.blank d)
    (hnames : m.Names f) (hd : (d f).isSome = true) :
    whole schema.record (frame.object (front ++ m :: behind))
      = .error (.misfit (.duplicateField (schema.name f))) := by
  obtain ⟨hbefore, hinner, -⟩ := frame.blank
  rw [Frame.object, whole_ofList,
    h.taken_object_refused hmembers hbefore hinner htells fun _ => h.taken_duplicate hnames hd]
  rfl

/-- If known members are left out, the first field of theirs is missed. -/
theorem whole_without (hlenient : schema.lenient = true) (hmembers : ∀ m ∈ members, m.Valid)
    (hread : whole schema.record (frame.object members) = .ok a) {kept removed : List Member}
    (hperm : members.Perm (kept ++ removed)) (hfirst : FirstNamed removed f)
    (halike : Alike schema kept members') :
    whole schema.record (frame'.object members') = .error (.misfit (.missingField (schema.name f))) := by
  obtain ⟨d, hagree, hfinish⟩ := (h.whole_object hmembers).mp hread
  have hall := hagree.perm hperm.symm
  obtain ⟨d', hkept, -, hnone⟩ := hall.restrict
  obtain ⟨earlier, later, hfields, ⟨first, hfirst, hf⟩, hearlier⟩ := hfirst
  have hmissing : d'.missing? = some f := by
    refine Draft.missing?_eq hfields (hnone f ?_) ?_
    · intro other hother hnamed
      exact (List.pairwise_append.mp hall.distinct).2.2 other hother first hfirst f hnamed hf
    · intro g hg
      obtain ⟨other, hother, hnamed⟩ := hall.exists_names (Draft.isSome_of_finish hfinish g)
      have hmem := (List.mem_append.mp hother).resolve_right fun hmem => hearlier g hg other hmem hnamed
      exact hkept.isSome h hmem hnamed
  have hvalid : ∀ m ∈ kept, m.Valid :=
    fun m hm => hmembers m (hperm.mem_iff.mpr (List.mem_append_left removed hm))
  exact h.whole_missing (halike.valid hvalid) (halike.agree hlenient hkept) hmissing

/-- If a known member is there again, the field is reported as a duplicate. -/
theorem whole_again (hlenient : schema.lenient = true) (hmembers : ∀ m ∈ members, m.Valid)
    (hread : whole schema.record (frame.object members) = .ok a) {again : Member} (hagain : again.Valid)
    (hnames : again.Names f) (hvalue : ∃ v, ReadsAs (schema.read f) again.value v)
    (halike : Alike schema (again :: members) members') :
    whole schema.record (frame'.object members')
      = .error (.misfit (.duplicateField (schema.name f))) := by
  obtain ⟨d, hagree, hfinish⟩ := (h.whole_object hmembers).mp hread
  have hvalid := halike.valid (List.forall_mem_cons.mpr ⟨hagain, hmembers⟩)
  obtain ⟨left, right, hleft, hright, hperm⟩ := halike
  -- the member that is there again is not foreign, so it stands among the members that are read
  have hmem : again ∈ members' := by
    refine (List.mem_append.mp (hperm.mem_iff.mpr List.mem_cons_self)).resolve_right ?_
    exact fun hmem => (hleft again hmem).not_names f hnames
  obtain ⟨front, behind, rfl⟩ := List.append_of_mem hmem
  have hothers : ((front ++ behind) ++ left).Perm (members ++ right) := by
    refine List.Perm.cons_inv (a := again) (List.Perm.trans ?_ hperm)
    exact (List.perm_middle.append_right left).symm
  have hrest := ((hagree.append_foreign hlenient fun m hm => (hright m hm).2).perm
    hothers).of_append_foreign hleft
  obtain ⟨m, hm, hsame⟩ := hrest.exists_names (Draft.isSome_of_finish hfinish f)
  obtain ⟨front', second, behind', hsplit, hdistinct, hsecond, first, hfirst, hfirstNames⟩ :=
    exists_second h hrest.distinct hm hsame hnames
  have hfits : ∀ m ∈ front', ∃ d' : schema.Draft, m.Fits d' := by
    intro m hm
    have hmem : m ∈ front ++ again :: behind := by
      rw [hsplit]
      exact List.mem_append_left _ hm
    rcases List.mem_cons.mp (List.perm_middle.mem_iff.mp hmem) with rfl | hother
    · obtain ⟨v, hreads⟩ := hvalue
      exact ⟨schema.blank.set f v, .known hnames hreads (Draft.set_same _ _ _)⟩
    · exact ⟨d, hrest.fits m hother⟩
  obtain ⟨d', htells⟩ := exists_tells hfits hdistinct fun m _ f _ => rfl
  rw [hsplit] at hvalid ⊢
  exact h.whole_duplicate hvalid htells hsecond
    ((h.tells_iff.mp htells).isSome h hfirst hfirstNames)

end Schema.Settled

end Mailwire.Json

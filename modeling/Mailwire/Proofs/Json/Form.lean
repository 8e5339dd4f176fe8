import Mailwire.Proofs.Json.Objects
import Mailwire.Proofs.Json.Printing

/-!
# Records that are written in one way or another

A record may be written as an object, its members in any order, or as the array of its values
(`Schema.Form`). What becomes of it is decided by its fields alone. If each is read as a value however it is
written, these values make up the record or do not (`Schema.Form.judged`). If a field is refused however it is
written, and no other for another reason, the record is refused as this field is (`Schema.Form.refused`).
-/

namespace Mailwire.Json

/-- The reader refuses a value with this error, wherever the value stands. -/
def RefusedAs {α : Type} (reader : Reader α) (v : List Char) (e : ReadError) : Prop :=
  ∀ {before rest}, Blank before → Apart rest → taken reader (before ++ (v ++ rest)) = .error e

lemma Blank.apart {blank : List Char} (h : Blank blank) : Apart blank := by
  have happend : Apart (blank ++ []) := Apart.append h (by simp [Apart])
  rwa [List.append_nil] at happend

section

variable {α : Type} {reader : Reader α} {before v behind : List Char} {a : α} {e : ReadError}

lemma whole_of_readsAs (hbefore : Blank before) (hbehind : Blank behind) (h : ReadsAs reader v a) :
    whole reader (String.ofList (before ++ (v ++ behind))) = .ok a := by
  rw [whole_ofList, h hbefore hbehind.apart]
  exact if_pos hbehind.isEmpty_skipBlank

lemma whole_of_refusedAs (hbefore : Blank before) (hbehind : Blank behind) (h : RefusedAs reader v e) :
    whole reader (String.ofList (before ++ (v ++ behind))) = .error e := by
  rw [whole_ofList, h hbefore hbehind.apart]
  rfl

end

variable {α : Type} {schema : Schema α} {written written' : schema.Field → List Char → Prop} {v : List Char}

/-- The ways in which a record may be written if its fields may be written as `written` tells. -/
inductive Schema.Form (schema : Schema α) (written : schema.Field → List Char → Prop) : List Char → Prop
  | object {inner : List Char} {members : List Member} (hinner : Blank inner)
      (hmembers : ∀ m ∈ members, m.Valid) (hdistinct : Distinct schema members)
      (hnamed : ∀ f : schema.Field, ∃ m ∈ members, m.Names f)
      (hwritten : ∀ m ∈ members, m.Foreign schema ∧ schema.lenient = true ∨
        ∃ f : schema.Field, m.Names f ∧ written f m.value) : schema.Form written (objectText inner members)
  | array {inner : List Char} {elements : List Element} (hinner : Blank inner)
      (helements : ∀ e ∈ elements, e.Valid)
      (hwritten : List.Forall₂ (fun f e => written f e.value) schema.fields elements) :
      schema.Form written (arrayText inner elements)

namespace Schema.Form

lemma isValue (h : schema.Form written v) : IsValue v := by
  cases h with
  | object hinner hmembers =>
    exact .object hinner (fun m hm => (hmembers m hm).shaped) fun m hm => (hmembers m hm).value
  | array hinner helements =>
    exact .array hinner (fun e he => (helements e he).spaced) fun e he => (helements e he).value

lemma imp (h : schema.Form written v) (hwritten : ∀ f v, written f v → written' f v) :
    schema.Form written' v := by
  cases h with
  | object hinner hmembers hdistinct hnamed hsaid =>
    refine .object hinner hmembers hdistinct hnamed fun m hm => (hsaid m hm).imp_right ?_
    rintro ⟨f, hnames, hvalue⟩
    exact ⟨f, hnames, hwritten f _ hvalue⟩
  | array hinner helements hsaid =>
    exact .array hinner helements (hsaid.imp fun f (e : Element) => hwritten f e.value)

/-- Members that are printed may stand in any order. -/
lemma printed (h : schema.Settled) {text : schema.Field → List Char} (htext : ∀ f, IsValue (text f))
    {fields : List schema.Field} (hdistinct : fields.Nodup) (hall : ∀ f, f ∈ fields) :
    schema.Form (fun f v => v = text f)
      (objectText [] (fields.map fun f => printedMember (schema.name f) (text f))) := by
  have hnames : ∀ f : schema.Field, (printedMember (schema.name f) (text f)).Names f :=
    fun f => spells_escaped (schema.name f)
  refine .object .nil ?_ ?_ ?_ ?_
  · exact List.forall_mem_map.mpr fun f _ => ⟨printedMember_shaped _ _, htext f⟩
  · refine List.pairwise_map.mpr (hdistinct.imp ?_)
    intro f g hne k hf hg
    exact hne (((hnames f).unique h hf).trans (hg.unique h (hnames g)))
  · exact fun f => ⟨_, List.mem_map_of_mem (hall f), hnames f⟩
  · exact List.forall_mem_map.mpr fun f _ => Or.inr ⟨f, hnames f, rfl⟩

/-- Or the values stand in an array. -/
lemma printed_array {text : schema.Field → List Char} (htext : ∀ f, IsValue (text f)) :
    schema.Form (fun f v => v = text f) (arrayText [] (schema.fields.map fun f => ⟨[], text f, []⟩)) := by
  refine .array .nil ?_ ?_
  · exact List.forall_mem_map.mpr fun f _ => ⟨⟨.nil, .nil⟩, htext f⟩
  · rw [List.forall₂_map_right_iff, List.forall₂_same]
    exact fun f _ => rfl

/-! ### Fields that are read -/

/-- If each field is read as a value however it is written, the values are judged. -/
theorem judged (hform : schema.Form written v) (h : schema.Settled)
    {value : (f : schema.Field) → schema.Value f}
    (hreads : ∀ f v, written f v → ReadsAs (schema.read f) v (value f)) {before rest : List Char}
    (hbefore : Blank before) :
    taken schema.record (before ++ (v ++ rest)) = (fit (schema.build value)).map fun a => (a, rest) := by
  let d : schema.Draft := fun f => some (value f)
  have hfinish : d.finish = schema.build value := Draft.finish_eq fun f => rfl
  rw [← hfinish]
  cases hform with
  | @object inner members hinner hmembers hdistinct hnamed hwritten =>
    have hagree : Agree members schema.blank d := by
      refine ⟨?_, hdistinct, fun m _ f _ => rfl, ?_⟩
      · intro m hm
        rcases hwritten m hm with ⟨hforeign, hlenient⟩ | ⟨f, hnames, hvalue⟩
        · exact .foreign hforeign hlenient
        · exact .known hnames (hreads f _ hvalue) rfl
      · intro f hno
        obtain ⟨m, hm, hnames⟩ := hnamed f
        exact absurd hnames (hno m hm)
    exact h.taken_object_told hmembers hbefore hinner (h.tells_iff.mpr hagree)
  | @array inner elements hinner helements hwritten =>
    have hfills : Fills schema.fields elements schema.blank d := by
      refine .of_values (hwritten.imp ?_) fun f => Or.inl (schema.complete f)
      intro f e hvalue
      exact ⟨value f, rfl, hreads f _ hvalue⟩
    rw [taken_arrayText hbefore]
    exact taken_elements_filled hfills helements hinner

/-! ### A field that is refused -/

section

variable {e : ReadError} {f₀ : schema.Field}
  (hwritten : ∀ f v, written f v → (∃ a, ReadsAs (schema.read f) v a) ∨ RefusedAs (schema.read f) v e)
  (hrefused : ∀ v, written f₀ v → RefusedAs (schema.read f₀) v e)

include hwritten hrefused

lemma elements_refused {left : List schema.Field} {elements : List Element} (hmem : f₀ ∈ left)
    (hsaid : List.Forall₂ (fun f e => written f e.value) left elements) (helements : ∀ e ∈ elements, e.Valid)
    {d : schema.Draft} {count : Nat} {blank rest : List Char} (hblank : Blank blank) :
    taken (schema.elements d count left)
      (blank ++ (listed count elements ++ Bracket.array.closing :: rest)) = .error e := by
  induction hsaid generalizing d count blank with
  | nil => exact absurd hmem List.not_mem_nil
  | @cons f element left more hvalue _ ih =>
    obtain ⟨he, hmore⟩ := List.forall_mem_cons.mp helements
    obtain ⟨before, hbefore, hapart, hfirst⟩ := taken_elements_first he hblank
    have hhere : RefusedAs (schema.read f) element.value e ∨
        f₀ ∈ left ∧ ∃ a, ReadsAs (schema.read f) element.value a := by
      rcases List.mem_cons.mp hmem with rfl | hmem
      · exact Or.inl (hrefused _ hvalue)
      · exact (hwritten f _ hvalue).symm.imp_right fun hreads => ⟨hmem, hreads⟩
    rw [hfirst]
    rcases hhere with hno | ⟨hmem, a, hreads⟩
    · rw [hno hbefore hapart]
      rfl
    · rw [hreads hbefore hapart]
      exact ih hmem hmore he.spaced.behind

/-- The first member that is refused decides, and those in front of it can be told. -/
lemma members_refused (h : schema.Settled) {members : List Member} (hmembers : ∀ m ∈ members, m.Valid)
    (hdistinct : Distinct schema members) (hnamed : ∀ f : schema.Field, ∃ m ∈ members, m.Names f)
    (hsaid : ∀ m ∈ members, m.Foreign schema ∧ schema.lenient = true ∨
      ∃ f : schema.Field, m.Names f ∧ written f m.value)
    {before inner rest : List Char} (hbefore : Blank before) (hinner : Blank inner) :
    taken schema.record (before ++ (objectText inner members ++ rest)) = .error e := by
  have hsome : ∃ m ∈ members, ∃ f : schema.Field, m.Names f ∧ RefusedAs (schema.read f) m.value e := by
    obtain ⟨m, hm, hnames⟩ := hnamed f₀
    refine ⟨m, hm, f₀, hnames, ?_⟩
    rcases hsaid m hm with ⟨hforeign, -⟩ | ⟨f, hnames', hvalue⟩
    · exact absurd hnames (hforeign.not_names f₀)
    · obtain rfl := hnames'.unique h hnames
      exact hrefused _ hvalue
  obtain ⟨front, m, behind, rfl, ⟨f, hnames, hno⟩, hfront⟩ := exists_first hsome
  obtain ⟨hdistinctFront, -, hapart⟩ := List.pairwise_append.mp hdistinct
  have hfits : ∀ m' ∈ front, ∃ d : schema.Draft, m'.Fits d := by
    intro m' hm'
    rcases hsaid m' (List.mem_append_left _ hm') with ⟨hforeign, hlenient⟩ | ⟨g, hnames', hvalue⟩
    · exact ⟨schema.blank, .foreign hforeign hlenient⟩
    rcases hwritten g _ hvalue with ⟨a, hreads⟩ | hno'
    · exact ⟨schema.blank.set g a, .known hnames' hreads (Draft.set_same _ _ _)⟩
    · exact absurd ⟨g, hnames', hno'⟩ (hfront m' hm')
  obtain ⟨d, htells⟩ := exists_tells (d := schema.blank) hfits hdistinctFront fun _ _ _ _ => rfl
  have hfree : d f = none :=
    (h.tells_iff.mp htells).kept f fun m' hm' hnames' => hapart m' hm' m List.mem_cons_self f hnames' hnames
  refine h.taken_object_refused hmembers hbefore hinner htells ?_
  intro tail htail
  obtain ⟨hshaped, -⟩ := hmembers m (List.mem_append_right front List.mem_cons_self)
  rw [h.taken_known hshaped hnames hfree, hno hshaped.spaced.before (htail.append hshaped.spaced.behind)]
  rfl

/-- If a field is refused however it is written, and no other for another reason, the record is refused. -/
theorem refused (hform : schema.Form written v) (h : schema.Settled) : RefusedAs schema.record v e := by
  intro before rest hbefore _
  cases hform with
  | object hinner hmembers hdistinct hnamed hsaid =>
    exact members_refused hwritten hrefused h hmembers hdistinct hnamed hsaid hbefore hinner
  | array hinner helements hsaid =>
    rw [taken_arrayText hbefore]
    exact elements_refused hwritten hrefused (schema.complete f₀) hsaid helements hinner

end

end Schema.Form

end Mailwire.Json

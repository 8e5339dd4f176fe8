import Mailwire.Proofs.Json.Members

/-!
# Records as arrays of their values

The values of an array fill the fields in the order in which they are declared, one each
(`Json.Fills`), and the array is read exactly if there are as many values as fields
(`Schema.Settled.taken_elements`). So a record is read whole and everywhere in the same way, whether it is an
object or an array (`Schema.Settled.record`), and fields may be records themselves.
-/

namespace Mailwire.Json

variable {α : Type} {schema : Schema α}

/-- An element that has a value of the grammar. -/
structure Element.Valid (e : Element) : Prop where
  spaced : e.Spaced
  value : IsValue e.value

/-- What a draft becomes when the values of some elements are put into some fields, one each. -/
inductive Fills : List schema.Field → List Element → schema.Draft → schema.Draft → Prop
  | nil (d : schema.Draft) : Fills [] [] d d
  | cons {f : schema.Field} {fields : List schema.Field} {e : Element} {more : List Element}
      {d d' : schema.Draft} {v : schema.Value f} (reads : ReadsAs (schema.read f) e.value v)
      (h : Fills fields more (d.set f v) d') : Fills (f :: fields) (e :: more) d d'

/-- Values that are in a draft make up this draft, if they are for all fields that are not yet told. -/
lemma Fills.of_values {fields : List schema.Field} {elements : List Element} {d full : schema.Draft}
    (h : List.Forall₂ (fun f e => ∃ v, full f = some v ∧ ReadsAs (schema.read f) e.value v) fields elements)
    (hd : ∀ f, f ∈ fields ∨ d f = full f) : Fills fields elements d full := by
  induction h generalizing d with
  | nil =>
    obtain rfl : d = full := funext fun f => (hd f).resolve_left List.not_mem_nil
    exact .nil d
  | @cons f e fields more hvalue _ ih =>
    obtain ⟨v, hfull, hreads⟩ := hvalue
    refine .cons hreads (ih ?_)
    intro g
    by_cases hg : g = f
    · subst hg
      exact Or.inr (by rw [Schema.Draft.set_same, hfull])
    · rw [Schema.Draft.set_of_ne d v hg]
      exact (hd g).imp_left fun hmem => (List.mem_cons.mp hmem).resolve_left hg

/-- Elements with nothing in front of them, or behind some others. -/
def listed (count : Nat) (elements : List Element) : List Char :=
  if count = 0 then joined (elements.map Element.text) else further (elements.map Element.text)

namespace Schema

variable {e : Element} {elements : List Element} {count : Nat} {blank cs rest : List Char}

/-! ### Going from element to element -/

lemma listed_nil (count : Nat) : listed count [] = [] := by
  rw [listed]
  split_ifs <;> rfl

lemma nextElement_end (hblank : Blank blank) (first : Bool) (rest : List Char) :
    nextElement first (blank ++ Bracket.array.closing :: rest) = .ok none := by
  have hclosing := skipBlank_closing hblank .array rest
  rw [nextElement]
  split
  next hnil => rw [hclosing] at hnil; cases hnil
  next c behind hcons =>
    rw [hclosing] at hcons
    cases hcons
    rw [if_pos rfl]

lemma skipBlank_element (hblank : Blank blank) (he : e.Valid) (tail : List Char) :
    ∃ c more, skipBlank (blank ++ (e.text ++ tail)) = c :: more ∧ c ≠ Bracket.array.closing := by
  obtain ⟨c, more, hcons, hc, hclosing⟩ := he.value.begins
  refine ⟨c, more ++ (e.behind ++ tail), ?_, hclosing⟩
  rw [skipBlank_append hblank, Element.text, List.append_assoc, skipBlank_append he.spaced.before, hcons,
    List.append_assoc, List.cons_append, skipBlank_cons hc]

/-- Behind the comma, or at the beginning, the next element is found. -/
lemma nextElement_listed (hblank : Blank blank) (he : e.Valid) (count : Nat)
    (elements : List Element) (rest : List Char) :
    ∃ front next, Blank front ∧
      nextElement (count == 0) (blank ++ (listed count (e :: elements) ++ rest)) = .ok (some next) ∧
      next.val = front ++ (e.text ++ (further (elements.map Element.text) ++ rest)) := by
  rcases count with _ | count
  · have hsplit : listed 0 (e :: elements) ++ rest
        = e.text ++ (further (elements.map Element.text) ++ rest) := by
      simp [listed, joined]
    obtain ⟨c, more, hfirst, hc⟩ :=
      skipBlank_element hblank he (further (elements.map Element.text) ++ rest)
    rw [hsplit, nextElement]
    refine ⟨blank, ⟨_, Nat.le_refl _⟩, hblank, ?_, rfl⟩
    split
    next hnil => rw [hfirst] at hnil; cases hnil
    next d behind hcons =>
      rw [hfirst] at hcons
      cases hcons
      rw [if_neg hc]
      rfl
  · have hsplit : listed (count + 1) (e :: elements) ++ rest
        = ',' :: (e.text ++ (further (elements.map Element.text) ++ rest)) := by
      simp [listed, further]
    have hcomma := skipBlank_comma hblank (e.text ++ (further (elements.map Element.text) ++ rest))
    obtain ⟨c, more, hfirst, hc⟩ :=
      skipBlank_element .nil he (further (elements.map Element.text) ++ rest)
    rw [List.nil_append] at hfirst
    rw [hsplit, nextElement]
    refine ⟨[], ⟨_, length_le_of_skipBlank hcomma⟩, .nil, ?_, rfl⟩
    split
    next hnil => rw [hcomma] at hnil; cases hnil
    next d behind hcons =>
      rw [hcomma] at hcons
      cases hcons
      rw [if_neg (by decide), if_neg (by simp), if_pos rfl, hfirst]
      exact if_neg hc

/-- An array does not end in front of an element. -/
lemma taken_mark_listed (hblank : Blank blank) (he : e.Valid) (count : Nat) (elements : List Element)
    (rest : List Char) :
    taken (mark Bracket.array.closing) (blank ++ (listed count (e :: elements) ++ rest))
      = .error .malformed := by
  have hfirst : ∃ c more, skipBlank (blank ++ (listed count (e :: elements) ++ rest)) = c :: more ∧
      c ≠ Bracket.array.closing := by
    rw [listed, List.map_cons]
    split_ifs with hcount
    · rw [joined, List.append_assoc]
      exact skipBlank_element hblank he _
    · rw [further, List.flatMap_cons, List.cons_append, List.cons_append]
      exact ⟨_, _, skipBlank_comma hblank _, by decide⟩
  obtain ⟨c, more, hcons, hc⟩ := hfirst
  rw [taken, mark]
  split
  next hnil => rw [hcons] at hnil; cases hnil
  next d behind hcons' =>
    rw [hcons] at hcons'
    cases hcons'
    rw [if_neg hc]
    rfl

/-! ### One element after another -/

variable {d : schema.Draft} {f : schema.Field} {left : List schema.Field}

lemma taken_elements_nil : taken (schema.elements d count []) cs
    = (fit d.finish).bind fun a => (taken (mark Bracket.array.closing) cs).map fun p => (a, p.2) := by
  rw [taken, Schema.elements]
  simp only [bind, Except.bind, taken]
  cases fit d.finish with
  | error e => rfl
  | ok a =>
    simp only
    cases mark Bracket.array.closing cs with
    | error e => rfl
    | ok p => rfl

lemma taken_elements_end (h : nextElement (count == 0) cs = .ok none) :
    taken (schema.elements d count (f :: left)) cs
      = .error (.misfit (.wrongLength count schema.sequenceTitle)) := by
  rw [taken, Schema.elements, h]
  rfl

lemma taken_elements_next {next : { rest : List Char // rest.length ≤ cs.length }}
    (h : nextElement (count == 0) cs = .ok (some next)) :
    taken (schema.elements d count (f :: left)) cs = (taken (schema.read f) next.val).bind fun p =>
      taken (schema.elements (d.set f p.1) (count + 1) left) p.2 := by
  obtain ⟨behind, hle⟩ := next
  rw [taken, Schema.elements, h]
  simp only [bind, Except.bind, taken]
  cases schema.read f behind with
  | error e => rfl
  | ok value =>
    simp only [Except.map]
    cases schema.elements (d.set f value.value) (count + 1) left value.rest with
    | error e => rfl
    | ok record => rfl

/-- The first element is read for the first field, and the others are read behind it. -/
lemma taken_elements_first {more : List Element} (he : e.Valid) (hblank : Blank blank) :
    ∃ before, Blank before ∧
      Apart (e.behind ++ (listed (count + 1) more ++ Bracket.array.closing :: rest)) ∧
      taken (schema.elements d count (f :: left))
          (blank ++ (listed count (e :: more) ++ Bracket.array.closing :: rest))
        = (taken (schema.read f) (before ++ (e.value ++
            (e.behind ++ (listed (count + 1) more ++ Bracket.array.closing :: rest))))).bind fun p =>
          taken (schema.elements (d.set f p.1) (count + 1) left) p.2 := by
  obtain ⟨front, next, hfront, hnext, hplace⟩ :=
    nextElement_listed hblank he count more (Bracket.array.closing :: rest)
  have hlisted : further (more.map Element.text) = listed (count + 1) more :=
    (if_neg (Nat.succ_ne_zero count)).symm
  have hvalue : next.val = front ++ e.before ++ (e.value ++
      (e.behind ++ (listed (count + 1) more ++ Bracket.array.closing :: rest))) := by
    rw [hplace, Element.text, hlisted]
    simp
  refine ⟨front ++ e.before, hfront.append he.spaced.before, ?_, ?_⟩
  · rw [← hlisted]
    exact (apart_further .array _ rest).append he.spaced.behind
  · rw [taken_elements_next hnext, hvalue]

/-- If the values of an array fill the fields, what they say is judged. -/
lemma taken_elements_filled {d' : schema.Draft} (hfills : Fills left elements d d')
    (helements : ∀ e ∈ elements, e.Valid) (hblank : Blank blank) :
    taken (schema.elements d count left)
        (blank ++ (listed count elements ++ Bracket.array.closing :: rest))
      = (fit d'.finish).map fun a => (a, rest) := by
  induction hfills generalizing count blank with
  | nil d =>
    rw [taken_elements_nil, listed_nil, List.nil_append, mark_append hblank rfl]
    cases fit d.finish <;> rfl
  | @cons f left e more d d' v hreads _ ih =>
    obtain ⟨he, hmore⟩ := List.forall_mem_cons.mp helements
    obtain ⟨before, hbefore, hapart, hfirst⟩ := taken_elements_first he hblank
    rw [hfirst, hreads hbefore hapart]
    exact ih hmore he.spaced.behind

/-- An array is read element by element. -/
lemma taken_arrayText {before inner : List Char} (hbefore : Blank before) :
    taken schema.record (before ++ (arrayText inner elements ++ rest))
      = taken (schema.elements schema.blank 0 schema.fields)
          (inner ++ (listed 0 elements ++ Bracket.array.closing :: rest)) := by
  have hsplit : arrayText inner elements ++ rest = Bracket.array.opening
      :: (inner ++ (listed 0 elements ++ Bracket.array.closing :: rest)) := by
    simp [arrayText, bracketed, listed]
  rw [hsplit, taken_record_array (skipBlank_opening hbefore .array _)]

end Schema

namespace Schema.Settled

variable (h : schema.Settled)

include h

/-- An array is only read if its values fill the fields. -/
lemma fills_of_taken {left : List schema.Field} {elements : List Element}
    (helements : ∀ e ∈ elements, e.Valid) {count : Nat} {d : schema.Draft} {blank rest rest' : List Char}
    (hblank : Blank blank) {a : α}
    (hread : taken (schema.elements d count left)
      (blank ++ (listed count elements ++ Bracket.array.closing :: rest)) = .ok (a, rest')) :
    ∃ d', Fills left elements d d' := by
  induction left generalizing elements count d blank with
  | nil =>
    cases elements with
    | nil => exact ⟨d, .nil d⟩
    | cons e more =>
      rw [taken_elements_nil, taken_mark_listed hblank (helements e List.mem_cons_self)] at hread
      obtain ⟨b, -, hread⟩ := bind_eq_ok hread
      cases hread
  | cons f left ih =>
    cases elements with
    | nil =>
      rw [listed_nil, List.nil_append, taken_elements_end (nextElement_end hblank _ rest)] at hread
      cases hread
    | cons e more =>
      obtain ⟨he, hmore⟩ := List.forall_mem_cons.mp helements
      obtain ⟨before, hbefore, hapart, hfirst⟩ := taken_elements_first he hblank
      rw [hfirst] at hread
      obtain ⟨⟨v, behind⟩, hvalue, hread⟩ := bind_eq_ok hread
      obtain ⟨rfl, hreads⟩ := h.read f he.value hbefore hapart hvalue
      obtain ⟨d', hfills⟩ := ih hmore he.spaced.behind hread
      exact ⟨d', .cons hreads hfills⟩

/-- An array is read exactly if its values fill the fields, and what they say is then judged. -/
lemma taken_elements {left : List schema.Field} {elements : List Element}
    (helements : ∀ e ∈ elements, e.Valid) {count : Nat} {d : schema.Draft} {blank rest rest' : List Char}
    (hblank : Blank blank) {a : α} :
    taken (schema.elements d count left)
        (blank ++ (listed count elements ++ Bracket.array.closing :: rest)) = .ok (a, rest') ↔
      rest' = rest ∧ ∃ d', Fills left elements d d' ∧ fit d'.finish = .ok a := by
  constructor
  · intro hread
    obtain ⟨d', hfills⟩ := h.fills_of_taken helements hblank hread
    rw [taken_elements_filled hfills helements hblank] at hread
    cases hfinish : fit d'.finish with
    | error e =>
      rw [hfinish] at hread
      cases hread
    | ok b =>
      rw [hfinish] at hread
      cases hread
      exact ⟨rfl, d', hfills, hfinish⟩
  · rintro ⟨rfl, d', hfills, hfinish⟩
    rw [taken_elements_filled hfills helements hblank, hfinish]
    rfl

/-! ### Whole records -/

variable {before inner rest rest' : List Char} {a : α}

/-- If a draft can be told what the members of an object say, it is judged. -/
lemma taken_object_told {members : List Member} (hmembers : ∀ m ∈ members, m.Valid)
    (hbefore : Blank before) (hinner : Blank inner) {d : schema.Draft} (htells : Tells members schema.blank d) :
    taken schema.record (before ++ (objectText inner members ++ rest))
      = (fit d.finish).map fun a => (a, rest) := by
  have htold : taken (schema.furtherMembers schema.blank)
      (further (members.map Member.text) ++ Bracket.object.closing :: rest) = .ok (d, rest) :=
    (h.taken_furtherMembers hmembers .nil).mpr ⟨rfl, htells⟩
  rw [taken_objectText hbefore hinner fun m hm => (hmembers m hm).shaped.front, htold]
  rfl

/-- If one of the members of an object is refused, so is the object. -/
lemma taken_object_refused {front behind : List Member} {m : Member}
    (hmembers : ∀ m' ∈ front ++ m :: behind, m'.Valid) (hbefore : Blank before) (hinner : Blank inner)
    {d : schema.Draft} (htells : Tells front schema.blank d) {e : ReadError}
    (hrefused : ∀ {tail}, Apart tail → taken (schema.member d) (m.body tail) = .error e) :
    taken schema.record (before ++ (objectText inner (front ++ m :: behind) ++ rest)) = .error e := by
  obtain ⟨hfront, hm⟩ := List.forall_mem_append.mp hmembers
  have hsplit : further ((front ++ m :: behind).map Member.text) ++ Bracket.object.closing :: rest
      = further (front.map Member.text) ++ ',' :: (m.text ++
        (further (behind.map Member.text) ++ Bracket.object.closing :: rest)) := by
    simp [further]
  have hread : taken (schema.furtherMembers schema.blank) (further (front.map Member.text) ++ ',' :: (m.text ++
      (further (behind.map Member.text) ++ Bracket.object.closing :: rest))) = .error e :=
    h.taken_furtherMembers_refused hfront .nil htells (hm m List.mem_cons_self).shaped.front
      (hrefused (apart_further .object _ rest))
  rw [taken_objectText hbefore hinner fun m hm => (hmembers m hm).shaped.front, hsplit, hread]
  rfl

/-- An object is read exactly if a draft can be told what its members say, and this makes up a record. -/
theorem taken_object {members : List Member} (hmembers : ∀ m ∈ members, m.Valid) (hbefore : Blank before)
    (hinner : Blank inner) :
    taken schema.record (before ++ (objectText inner members ++ rest)) = .ok (a, rest') ↔
      rest' = rest ∧ ∃ d, Tells members schema.blank d ∧ fit d.finish = .ok a := by
  constructor
  · intro hread
    rw [taken_objectText hbefore hinner fun m hm => (hmembers m hm).shaped.front] at hread
    obtain ⟨⟨d, left⟩, htold, hjudged⟩ := bind_eq_ok hread
    obtain ⟨rfl, htells⟩ := (h.taken_furtherMembers hmembers .nil).mp htold
    dsimp only at hjudged
    cases hfinish : fit d.finish with
    | error e =>
      rw [hfinish] at hjudged
      cases hjudged
    | ok b =>
      rw [hfinish] at hjudged
      cases hjudged
      exact ⟨rfl, d, htells, hfinish⟩
  · rintro ⟨rfl, d, htells, hfinish⟩
    rw [h.taken_object_told hmembers hbefore hinner htells, hfinish]
    rfl

/-- An array is read exactly if its values fill the fields of a draft, and this makes up a record. -/
theorem taken_array {elements : List Element} (helements : ∀ e ∈ elements, e.Valid)
    (hbefore : Blank before) (hinner : Blank inner) :
    taken schema.record (before ++ (arrayText inner elements ++ rest)) = .ok (a, rest') ↔
      rest' = rest ∧ ∃ d, Fills schema.fields elements schema.blank d ∧ fit d.finish = .ok a := by
  rw [taken_arrayText hbefore, h.taken_elements helements hinner]

/-- A record is read whole, and everywhere in the same way. -/
theorem record : Json.Settled schema.record := by
  intro v before rest a rest' hv hbefore hrest hread
  obtain ⟨b, behind, hopening⟩ := head_of_taken_record hread
  obtain ⟨c, more, hcons, hskip⟩ := hv.skipBlank hbefore rest
  rw [hskip] at hopening
  cases hopening
  obtain ⟨-, -, harray, hobject⟩ := hv.of_cons hcons
  cases b with
  | array =>
    obtain ⟨inner, elements, rfl, hinner, helements⟩ := harray rfl
    have hvalid : ∀ e ∈ elements, e.Valid := fun e he => ⟨(helements e he).1, (helements e he).2⟩
    obtain ⟨rfl, hfills⟩ := (h.taken_array hvalid hbefore hinner).mp hread
    exact ⟨rfl, fun hbefore _ => (h.taken_array hvalid hbefore hinner).mpr ⟨rfl, hfills⟩⟩
  | object =>
    obtain ⟨inner, members, rfl, hinner, hmembers⟩ := hobject rfl
    have hvalid : ∀ m ∈ members, m.Valid := fun m hm => ⟨(hmembers m hm).1, (hmembers m hm).2⟩
    obtain ⟨rfl, htells⟩ := (h.taken_object hvalid hbefore hinner).mp hread
    exact ⟨rfl, fun hbefore _ => (h.taken_object hvalid hbefore hinner).mpr ⟨rfl, htells⟩⟩

end Schema.Settled

end Mailwire.Json

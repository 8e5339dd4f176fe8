import Mathlib.Tactic
import Mailwire.Json.Skip

/-!
# The grammar of JSON

What a JSON value is (`Json.IsValue`), and what text is meant by what stands between the marks of a string
(`Json.Spells`). The grammar says nothing about how a text is read. It knows arrays and objects by their
elements and members, each of which has its own blanks around it, so these can be moved about, left out and
put in.
-/

namespace Mailwire.Json

/-! ### Blanks -/

def Blank (cs : List Char) : Prop := ∀ c ∈ cs, isBlank c = true

lemma Blank.nil : Blank [] := by simp [Blank]

lemma skipBlank_append {blank : List Char} (h : Blank blank) (cs : List Char) :
    skipBlank (blank ++ cs) = skipBlank cs := by
  induction blank with
  | nil => rfl
  | cons c blank ih =>
    obtain ⟨hc, hblank⟩ := List.forall_mem_cons.mp h
    rw [List.cons_append, skipBlank, List.dropWhile_cons, if_pos hc]
    exact ih hblank

lemma Blank.append {front behind : List Char} (h : Blank front) (h' : Blank behind) :
    Blank (front ++ behind) :=
  List.forall_mem_append.mpr ⟨h, h'⟩

/-! ### Numbers -/

def Digits (cs : List Char) : Prop := cs ≠ [] ∧ ∀ c ∈ cs, isDigit c = true

/-- The integer part of a number. No zero stands in front of other digits. -/
inductive IsInteger : List Char → Prop
  | zero : IsInteger ['0']
  | digits {c : Char} {more : List Char} (hzero : c ≠ '0') (hall : ∀ d ∈ c :: more, isDigit d = true) :
      IsInteger (c :: more)

/-- What a number has of a fraction. -/
inductive IsFraction : List Char → Prop
  | absent : IsFraction []
  | digits {cs : List Char} (h : Digits cs) : IsFraction ('.' :: cs)

/-- What a number has of an exponent. -/
inductive IsExponent : List Char → Prop
  | absent : IsExponent []
  | digits {mark : Char} {sign cs : List Char} (hmark : isExponentMark mark = true)
      (hsign : sign = [] ∨ sign = ['+'] ∨ sign = ['-']) (h : Digits cs) :
      IsExponent (mark :: (sign ++ cs))

/-- A number without its sign. -/
inductive IsUnsigned : List Char → Prop
  | parts {whole fraction exponent : List Char} (hwhole : IsInteger whole)
      (hfraction : IsFraction fraction) (hexponent : IsExponent exponent) :
      IsUnsigned (whole ++ (fraction ++ exponent))

inductive IsNumber : List Char → Prop
  | plain {cs : List Char} (h : IsUnsigned cs) : IsNumber cs
  | minus {cs : List Char} (h : IsUnsigned cs) : IsNumber ('-' :: cs)

/-- A number may end in front of this. -/
def Apart (rest : List Char) : Prop :=
  ∀ c ∈ rest.head?, isDigit c = false ∧ c ≠ '.' ∧ isExponentMark c = false

lemma Apart.cons {c : Char} (hc : isDigit c = false ∧ c ≠ '.' ∧ isExponentMark c = false)
    (cs : List Char) : Apart (c :: cs) := by
  rintro d ⟨⟩
  exact hc

lemma Apart.append {blank rest : List Char} (hblank : Blank blank) (h : Apart rest) :
    Apart (blank ++ rest) := by
  cases blank with
  | nil => exact h
  | cons c more =>
    have hc : isBlank c = true := hblank c List.mem_cons_self
    simp only [isBlank, Bool.or_eq_true, beq_iff_eq] at hc
    apply Apart.cons
    rcases hc with ((rfl | rfl) | rfl) | rfl <;> decide

/-! ### Strings -/

/-- A character that stands in a string for itself. -/
def Plain (c : Char) : Prop := c ≠ '"' ∧ c ≠ '\\' ∧ ¬ c < ' '

/-- The number that four hexadecimal digits stand for. -/
def Code (a b c d : Char) (n : Nat) : Prop :=
  ∃ w x y z, hexValue? a = some w ∧ hexValue? b = some x ∧ hexValue? c = some y ∧
    hexValue? d = some z ∧ n = ((w * 16 + x) * 16 + y) * 16 + z

/-- What stands between the marks of a string. -/
inductive Contents : List Char → Prop
  | nil : Contents []
  | plain {c : Char} {cs : List Char} (hc : Plain c) (h : Contents cs) : Contents (c :: cs)
  | short {x c : Char} {cs : List Char} (hx : shortEscape? x = some c) (h : Contents cs) :
      Contents ('\\' :: x :: cs)
  | code {a b c d : Char} {n : Nat} {cs : List Char} (hn : Code a b c d n) (h : Contents cs) :
      Contents ('\\' :: 'u' :: a :: b :: c :: d :: cs)

/-- What stands between the marks of a string is meant as this text. Halves of surrogate pairs that stand
alone mean no text. -/
inductive Spells : List Char → List Char → Prop
  | nil : Spells [] []
  | plain {c : Char} {cs text : List Char} (hc : Plain c) (h : Spells cs text) :
      Spells (c :: cs) (c :: text)
  | short {x c : Char} {cs text : List Char} (hx : shortEscape? x = some c) (h : Spells cs text) :
      Spells ('\\' :: x :: cs) (c :: text)
  | code {a b c d : Char} {n : Nat} {cs text : List Char} (hn : Code a b c d n)
      (hleading : isLeading n = false) (htrailing : isTrailing n = false) (h : Spells cs text) :
      Spells ('\\' :: 'u' :: a :: b :: c :: d :: cs) (Char.ofNat n :: text)
  | pair {a b c d a' b' c' d' : Char} {n n' : Nat} {cs text : List Char} (hn : Code a b c d n)
      (hleading : isLeading n = true) (hn' : Code a' b' c' d' n') (htrailing : isTrailing n' = true)
      (h : Spells cs text) :
      Spells ('\\' :: 'u' :: a :: b :: c :: d :: '\\' :: 'u' :: a' :: b' :: c' :: d' :: cs)
        (Char.ofNat (0x10000 + (n - 0xd800) * 0x400 + (n' - 0xdc00)) :: text)

lemma Spells.contents {cs text : List Char} (h : Spells cs text) : Contents cs := by
  induction h with
  | nil => exact .nil
  | plain hc _ ih => exact .plain hc ih
  | short hx _ ih => exact .short hx ih
  | code hn _ _ _ ih => exact .code hn ih
  | pair hn _ hn' _ _ ih => exact .code hn (.code hn' ih)

/-! ### Values -/

/-- A value with the blanks around it. -/
structure Element where
  before : List Char
  value : List Char
  behind : List Char

/-- A value with a key in front of it. -/
structure Member extends Element where
  front : List Char
  /-- What stands between the marks of the key. -/
  key : List Char
  between : List Char

def Element.text (e : Element) : List Char := e.before ++ (e.value ++ e.behind)

def Member.text (m : Member) : List Char :=
  m.front ++ '"' :: (m.key ++ '"' :: (m.between ++ ':' :: m.toElement.text))

structure Element.Spaced (e : Element) : Prop where
  before : Blank e.before
  behind : Blank e.behind

structure Member.Shaped (m : Member) : Prop where
  spaced : m.toElement.Spaced
  front : Blank m.front
  key : Contents m.key
  between : Blank m.between

/-- Items behind others, each with the comma in front of it. -/
def further (items : List (List Char)) : List Char := items.flatMap (',' :: ·)

/-- Items with commas between them. -/
def joined : List (List Char) → List Char
  | [] => []
  | item :: more => item ++ further more

/-- Items between brackets. If there are none, there may still be blanks. -/
def bracketed (b : Bracket) (inner : List Char) (items : List (List Char)) : List Char :=
  b.opening :: (inner ++ (joined items ++ [b.closing]))

def arrayText (inner : List Char) (elements : List Element) : List Char :=
  bracketed .array inner (elements.map Element.text)

def objectText (inner : List Char) (members : List Member) : List Char :=
  bracketed .object inner (members.map Member.text)

inductive IsValue : List Char → Prop
  | word {cs : List Char} (h : cs ∈ ["null".toList, "true".toList, "false".toList]) : IsValue cs
  | number {cs : List Char} (h : IsNumber cs) : IsValue cs
  | string {cs : List Char} (h : Contents cs) : IsValue ('"' :: (cs ++ ['"']))
  | array {inner : List Char} {elements : List Element} (hinner : Blank inner)
      (hspaced : ∀ e ∈ elements, e.Spaced) (hvalue : ∀ e ∈ elements, IsValue e.value) :
      IsValue (arrayText inner elements)
  | object {inner : List Char} {members : List Member} (hinner : Blank inner)
      (hshaped : ∀ m ∈ members, m.Shaped) (hvalue : ∀ m ∈ members, IsValue m.value) :
      IsValue (objectText inner members)

end Mailwire.Json

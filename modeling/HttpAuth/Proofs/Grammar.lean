import HttpAuth.Challenge.Scanner
import HttpAuth.Proofs.Utf8

namespace HttpAuth.Grammar

open Scanner (equals comma quote backslash)

structure Blanks where
  bytes : List UInt8
  blank : ∀ b ∈ bytes, Ascii.isSpace b = true

structure Word where
  bytes : List UInt8
  ne_nil : bytes ≠ []
  alphanum : ∀ b ∈ bytes, Ascii.isAlphanum b = true

/-- What may stand between the quotes of a value. -/
inductive Piece where
  | plain (b : UInt8) (hq : b ≠ quote) (hb : b ≠ backslash)
  | escaped (b : UInt8)

inductive Value where
  | bare (bytes : List UInt8) (alphanum : ∀ b ∈ bytes, Ascii.isAlphanum b = true)
  | quoted (pieces : List Piece)

/-- A word with blanks behind it: the scheme of a challenge. -/
structure Opener where
  word : Word
  gap : Blanks
  apart : gap.bytes ≠ []

structure Front where
  lead : Blanks
  openers : List Opener

structure Element where
  front : Front
  key : Word
  value : Value
  tail : Blanks

/-- What stands behind the last comma. -/
inductive Ending where
  | parameter (e : Element)
  | words (front : Front) (last : Option Word)

/-- A parameter that is the first of the value needs a challenge before it. -/
def Opens : List Element → Prop
  | [] => True
  | e :: _ => e.front.openers ≠ []

def Ending.elements : Ending → List Element
  | parameter e => [e]
  | words _ _ => []

/-- A tree carries the shape of its parts, so every tree is a sentence. -/
structure Header where
  elements : List Element
  ending : Ending
  opens : Opens (elements ++ ending.elements)

def Piece.bytes : Piece → List UInt8
  | plain b _ _ => [b]
  | escaped b => [backslash, b]

def Value.bytes : Value → List UInt8
  | bare bytes _ => bytes
  | quoted pieces => quote :: pieces.flatMap Piece.bytes ++ [quote]

def Opener.bytes (o : Opener) : List UInt8 := o.word.bytes ++ o.gap.bytes

def Front.bytes (f : Front) : List UInt8 := f.lead.bytes ++ f.openers.flatMap Opener.bytes

def Element.bytes (e : Element) : List UInt8 :=
  e.front.bytes ++ e.key.bytes ++ equals :: e.value.bytes ++ e.tail.bytes

def Ending.bytes : Ending → List UInt8
  | parameter e => e.bytes
  | words front last => front.bytes ++ (last.map Word.bytes).getD []

/-- Elements with a comma behind each. -/
def commaBytes (es : List Element) : List UInt8 := es.flatMap fun e => e.bytes ++ [comma]

def Header.bytes (t : Header) : List UInt8 := commaBytes t.elements ++ t.ending.bytes

def Word.text (w : Word) : String := String.ofList (w.bytes.map fun b => Char.ofNat b.toNat)

def Piece.content : Piece → UInt8
  | plain b _ _ => b
  | escaped b => b

/-- The bytes of a value without its quotes and escape characters. -/
def Value.content : Value → List UInt8
  | bare bytes _ => bytes
  | quoted pieces => pieces.map Piece.content

def Value.text (v : Value) : String := Utf8.decodeLossy v.content

/-- The challenge opened last is the first of the list, here and below. -/
def Front.opened (f : Front) (cs : List Challenge) : List Challenge :=
  f.openers.foldl (fun cs o => .ofScheme o.word.text :: cs) cs

def assign (key value : String) : List Challenge → List Challenge
  | [] => []
  | c :: cs => c.set key value :: cs

def Element.opened (e : Element) (cs : List Challenge) : List Challenge :=
  assign e.key.text e.value.text (e.front.opened cs)

/-- A key with nothing at all behind its equals sign. -/
def Element.Dangling (e : Element) : Prop := e.value.bytes = [] ∧ e.tail.bytes = []

instance (e : Element) : Decidable e.Dangling := inferInstanceAs (Decidable (_ ∧ _))

/-- At the end of the value a dangling key is dropped. A last word is a scheme if it is the first of its
element; elsewhere it is credentials and dropped. -/
def Ending.opened (cs : List Challenge) : Ending → List Challenge
  | parameter e => if e.Dangling then e.front.opened cs else e.opened cs
  | words front last =>
    match last with
    | none => front.opened cs
    | some w => if front.openers = [] then .ofScheme w.text :: cs else front.opened cs

def allOpened (es : List Element) : List Challenge := es.foldl (fun cs e => e.opened cs) []

def Header.challenges (t : Header) : List Challenge := (t.ending.opened (allOpened t.elements)).reverse

/-- All values of a header, the dangling one included. -/
def Header.values (t : Header) : List Value := (t.elements ++ t.ending.elements).map Element.value

theorem isAlphanum_iff {b : UInt8} : Ascii.isAlphanum b = true ↔
    0x30 ≤ b.toNat ∧ b.toNat ≤ 0x39 ∨ 0x41 ≤ b.toNat ∧ b.toNat ≤ 0x5A ∨
      0x61 ≤ b.toNat ∧ b.toNat ≤ 0x7A := by
  simp only [Ascii.isAlphanum, Ascii.isDigit, Ascii.isUpper, Ascii.isLower, Bool.or_eq_true,
    Bool.and_eq_true, decide_eq_true_eq, UInt8.le_iff_toNat_le, or_assoc]
  rfl

theorem isSpace_iff {b : UInt8} : Ascii.isSpace b = true ↔
    b.toNat = 0x20 ∨ b.toNat = 0x09 ∨ b.toNat = 0x0D ∨ b.toNat = 0x0A := by
  simp only [Ascii.isSpace, Bool.or_eq_true, decide_eq_true_eq, ← UInt8.toNat_inj, or_assoc]
  rfl

theorem ascii_of_isAlphanum {b : UInt8} (h : Ascii.isAlphanum b = true) : b.toNat < 0x80 := by
  have := isAlphanum_iff.mp h
  omega

theorem ascii_of_isSpace {b : UInt8} (h : Ascii.isSpace b = true) : b.toNat < 0x80 := by
  have := isSpace_iff.mp h
  omega

theorem Blanks.ascii (ws : Blanks) : ∀ b ∈ ws.bytes, b.toNat < 0x80 :=
  fun b hb => ascii_of_isSpace (ws.blank b hb)

theorem not_isAlphanum_of_isSpace {b : UInt8} (h : Ascii.isSpace b = true) :
    Ascii.isAlphanum b = false := by
  rw [Bool.eq_false_iff]
  intro ha
  have := isAlphanum_iff.mp ha
  have := isSpace_iff.mp h
  omega

/-- Words are read as they are: a byte, a character. -/
theorem decodeLossy_word {bytes : List UInt8} (h : ∀ b ∈ bytes, Ascii.isAlphanum b = true) :
    Utf8.decodeLossy bytes = String.ofList (bytes.map fun b => Char.ofNat b.toNat) := by
  have he : Utf8.encodeChars (bytes.map fun b => Char.ofNat b.toNat) = bytes := by
    induction bytes with
    | nil => rfl
    | cons b bytes ih =>
      have hb := ascii_of_isAlphanum (h b List.mem_cons_self)
      have hn := Utf8.toNat_ofNat_of_range (n := b.toNat) (by omega) (by omega)
      rw [List.map_cons, Utf8.encodeChars_cons, Utf8.encodeChar_ascii (by omega), hn,
        UInt8.ofNat_toNat, ih (fun d hd => h d (List.mem_cons_of_mem _ hd))]
      rfl
  conv => lhs; rw [← he]
  exact Utf8.decodeLossy_encodeChars _

end HttpAuth.Grammar

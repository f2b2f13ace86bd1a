import PropertyFilter.Decimal

/-!
# JSON values

A JSON text as a tree. Object members stay in the order of the text and a name may occur more
than once; numbers keep the spelling of the text. What repeated names mean, and which numbers
fit, is for the reader of a particular document to say.

## Main definitions

* `Json` — the tree
* `Json.Number` — what a number literal denotes
* `Json.Number.Reader`, `Json.Number.ofLiteral?` — readers of number literals, and one of them
* `Json.isSound` — whether a tree holds only texts and numbers that exist, to a bounded depth
* `Json.member?` — a member that may be given at most once
-/

namespace PropertyFilter

/-- A JSON value. -/
inductive Json where
  /-- The literal for a missing value. -/
  | null
  | bool (b : Bool)
  /-- A number, as it is spelled. -/
  | number (literal : String)
  | text (s : String)
  /-- A string or an object with a name that stands for no text, because it escapes one half of
  a surrogate pair. -/
  | unreadable
  | array (items : List Json)
  | object (members : List (String × Json))

instance : Inhabited Json := ⟨.null⟩

namespace Json

/-- The number that a literal denotes. -/
inductive Number where
  /-- An integer of 64 bits. -/
  | integer (n : Int64)
  | double (x : Double)
deriving DecidableEq

/-- A reader of number literals, which refuses those that are out of its range. Readers agree on the
integers of 64 bits. Which double stands for another number, where none is that number, is up to the
reader: the nearest one, or one close to it that is found faster. -/
abbrev Number.Reader := String → Option Number

/-- The integer of 64 bits with a given value, if there is one. -/
def toInt64? (n : Int) : Option Int64 :=
  if h : Int64.minValue.toInt ≤ n ∧ n ≤ Int64.maxValue.toInt then some (.ofIntLE n h.1 h.2)
  else none

theorem toInt64?_eq_some_iff {n : Int} {i : Int64} : toInt64? n = some i ↔ i.toInt = n := by
  unfold toInt64?
  split
  · rename_i h
    rw [Option.some.injEq, ← Int64.toInt_inj, Int64.toInt_ofIntLE, eq_comm]
  · rename_i h
    simp only [reduceCtorEq, false_iff]
    rintro rfl
    exact h ⟨Int64.minValue_le_toInt i, Int64.toInt_le i⟩

/-- The reader that rounds to the nearest double. Literals of digits alone that fit 64 bits are
integers; all others are doubles, among them a zero with a minus sign, which is the negative zero. A
literal beyond the largest double denotes nothing. -/
def Number.ofLiteral? : Reader := fun literal =>
  let cs := literal.toList
  let asDouble := (Decimal.parse? cs).bind fun d => d.toDouble?.map Number.double
  match Decimal.integer? cs with
  | some n =>
    if n = 0 && cs.head? == some '-' then asDouble
    else
      match toInt64? n with
      | some i => some (.integer i)
      | none => asDouble
  | none => asDouble

/-- Whether every text can be read and every number exists, in at most `levels` levels of
arrays and objects. -/
def isSoundWithin : Nat → Json → Bool
  | _, null => true
  | _, bool _ => true
  | _, number literal => (Number.ofLiteral? literal).isSome
  | _, text _ => true
  | _, unreadable => false
  | 0, array _ => false
  | 0, object _ => false
  | levels + 1, array items => items.all (isSoundWithin levels)
  | levels + 1, object members => members.all fun m => isSoundWithin levels m.2

/-- The depth to which documents may nest. -/
def maxLevels : Nat := 127

/-- Whether every text can be read, every number exists and the nesting is not too deep. -/
def isSound (j : Json) : Bool := isSoundWithin maxLevels j

/-- The text of a string value. -/
def text? : Json → Option String
  | text s => some s
  | _ => none

/-- The values of an array. -/
def array? : Json → Option (List Json)
  | array items => some items
  | _ => none

/-- The members of an object. -/
def object? : Json → Option (List (String × Json))
  | object members => some members
  | _ => none

/-- The value of a member that may be given once: nothing at all if it is given twice, and no
value if it is not given. -/
def member? (members : List (String × Json)) (name : String) : Option (Option Json) :=
  match members.filter (·.1 == name) with
  | [] => some none
  | [m] => some (some m.2)
  | _ => none

/-- The whole number `n`. -/
def ofInt (n : Int) : Json := number (toString n)

end Json

end PropertyFilter

import PropertyFilter.Text.Word

/-!
# Parameter names

Names for the parameters of one query: a word, and a number that counts the names given out so
far.

## Main definitions

* `NameSource` — how many names have been given out
* `NameSource.next` — a new name
* `NameSource.take` — several new names
-/

namespace PropertyFilter

/-- A source of names. -/
structure NameSource where
  /-- How many names have been given out. -/
  count : Nat
deriving DecidableEq, Repr

namespace NameSource

/-- The source that has given out no name. -/
def fresh : NameSource := ⟨0⟩

/-- The name with a given number: the word characters of a text, and the number. -/
def nameAt (seed : String) (number : Nat) : String :=
  String.ofList (seed.toList.filter Text.isWord) ++ "_p" ++ toString number

/-- A new name. -/
def next (s : NameSource) (seed : String) : String × NameSource :=
  (nameAt seed s.count, ⟨s.count + 1⟩)

/-- Several new names of one word. -/
def take (s : NameSource) (seed : String) (n : Nat) : List String × NameSource :=
  ((List.range n).map fun i => nameAt seed (s.count + i), ⟨s.count + n⟩)

@[simp] theorem length_take (s : NameSource) (seed : String) (n : Nat) :
    (s.take seed n).1.length = n := by
  simp [take]

end NameSource

end PropertyFilter

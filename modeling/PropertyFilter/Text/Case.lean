import PropertyFilter.Text.Case.Table

/-!
# Lower case

The full lower-case form of a text. It is found character by character, with two
exceptions: a capital I with a dot above becomes two characters, and a capital sigma at
the end of a word becomes the final form of the letter. Whether a sigma ends a word is
decided by the nearest letters on both sides, skipping characters such as apostrophes.

## Main definitions

* `Text.lowerChar` — the lower-case form of one character away from such exceptions
* `Text.lower` — the lower-case form of a text
-/

namespace PropertyFilter.Text

/-- Whether a code point lies in one of the ranges. -/
def inRanges (ranges : List (Nat × Nat)) (n : Nat) : Bool :=
  ranges.any fun r => r.1 ≤ n && n ≤ r.2

/-- The simple lower-case form of a character; most characters are their own. -/
def lowerChar (c : Char) : Char :=
  let n := c.toNat
  if n < 0x80 then c.toLower
  else
    match lowerRuns.find? fun r => r.1 ≤ n && n ≤ r.2.1 && (n - r.1) % r.2.2.1 == 0 with
    | some r => Char.ofNat (n + r.2.2.2).toNat
    | none => c

/-- Whether the first character that counts is a cased letter. -/
def meetsLetter (cs : List Char) : Bool :=
  match cs.dropWhile fun c => inRanges caseIgnorableRanges c.toNat with
  | [] => false
  | c :: _ => inRanges casedRanges c.toNat

/-- The lower-case form of a text that follows `before`, whose characters come last one first. -/
def lowerAfter (before : List Char) : List Char → List Char
  | [] => []
  | c :: cs =>
    let form :=
      if c = 'Σ' then
        if meetsLetter before && !meetsLetter cs then ['ς'] else ['σ']
      else if c = 'İ' then ['i', '\u0307']
      else [lowerChar c]
    form ++ lowerAfter (c :: before) cs

/-- The lower-case form of a text. -/
def lower (cs : List Char) : List Char := lowerAfter [] cs

end PropertyFilter.Text

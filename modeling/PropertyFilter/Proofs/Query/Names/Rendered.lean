import PropertyFilter.Proofs.Query.Names
import PropertyFilter.Proofs.Query.Placeholder

/-!
# Names that are drawn and bound

One source draws names for any texts. All of them differ, even where one text merges with another
or already looks like a name, and where one name is the beginning of another. Once they are bound
in the order in which they were drawn, rendering finds each of them behind a colon and puts its
position there, unless the name starts with a digit.

## Main definitions

* `NameSource.drawEach` — the names for several texts, drawn one after the other

## Main results

* `NameSource.nodup_drawEach` — all of them differ
* `Placeholder.render_name_append` — a bound name is rendered as its position
* `NameSource.rendered_drawEach` — so is every name that is drawn
-/

namespace PropertyFilter

open Text Sql

namespace NameSource

variable {source : NameSource} {seeds : List String} {name seed : String}

/-- The names for several texts, drawn one after the other. -/
def drawEach (source : NameSource) : List String → List String
  | [] => []
  | seed :: seeds => (source.next seed).1 :: drawEach (source.next seed).2 seeds

theorem drawEach_cons (seed : String) (seeds : List String) :
    source.drawEach (seed :: seeds) =
      nameAt seed source.count :: drawEach ⟨source.count + 1⟩ seeds := rfl

/-- Each name has the number that the source has reached. -/
theorem getElem?_drawEach (source : NameSource) (seeds : List String) (i : Nat) :
    (source.drawEach seeds)[i]? = seeds[i]?.map fun seed => nameAt seed (source.count + i) := by
  induction seeds generalizing source i with
  | nil => simp [drawEach]
  | cons seed seeds ih =>
    rw [drawEach_cons]
    cases i with
    | zero => rfl
    | succ i =>
      rw [List.getElem?_cons_succ, List.getElem?_cons_succ, ih, Nat.add_assoc, Nat.add_comm 1 i]

/-- Numbers only grow. -/
theorem exists_number_of_mem_drawEach (h : name ∈ source.drawEach seeds) :
    ∃ seed number, source.count ≤ number ∧ name = nameAt seed number := by
  obtain ⟨i, hi⟩ := List.mem_iff_getElem?.1 h
  rw [getElem?_drawEach] at hi
  obtain ⟨seed, -, rfl⟩ := Option.map_eq_some_iff.1 hi
  exact ⟨seed, source.count + i, Nat.le_add_right _ _, rfl⟩

/-- Names that one source draws differ, whatever texts they are drawn for. -/
theorem nodup_drawEach (source : NameSource) (seeds : List String) :
    (source.drawEach seeds).Nodup := by
  induction seeds generalizing source with
  | nil => exact List.nodup_nil
  | cons seed seeds ih =>
    rw [drawEach_cons]
    refine List.nodup_cons.2 ⟨fun hmem => ?_, ih _⟩
    -- all later names have larger numbers
    obtain ⟨seed', number, hle, heq⟩ := exists_number_of_mem_drawEach hmem
    obtain rfl := eq_of_nameAt_eq heq
    exact Nat.not_succ_le_self _ hle

end NameSource

/-- Behind a colon, a bound name is rendered as its position, and the text behind it as if it stood
alone. -/
theorem Placeholder.render_name_append {names : List String} {name rest : String} {i : Nat}
    (hnodup : names.Nodup) (hi : names[i]? = some name) (hname : isIdentifier name)
    (hrest : ∀ c ∈ rest.toList.head?, !isWord c) :
    render names (":" ++ name ++ rest) = "$" ++ toString (i + 1) ++ render names rest := by
  obtain ⟨c, cs, htext, -, hall⟩ := exists_cons_of_isIdentifier hname
  have hword : ofWord? names ((name.toList ++ rest.toList).takeWhile isWord) = some (i + 1) :=
    (ofWord?_takeWhile_append hname hrest).trans (position?_of_getElem? hnodup hi)
  have hbehind : (name.toList ++ rest.toList).dropWhile isWord = rest.toList :=
    dropWhile_append_stop (by rw [htext]; exact hall) hrest
  have hlist : (":" ++ name ++ rest).toList = ':' :: (name.toList ++ rest.toList) := by simp
  rw [← String.toList_inj, render, render, hlist, renderFrom_name hword, hbehind]
  simp [Sql.placeholder]

/-- Whatever texts names are drawn for, the names differ. Bound in the order in which they were
drawn, each is rendered as its position behind a colon, if the word characters of its text do not
start with a digit and no word character follows; what follows is rendered as if it stood alone. -/
theorem NameSource.rendered_drawEach (source : NameSource) (seeds : List String) :
    (source.drawEach seeds).Nodup ∧ ∀ (i : Nat) (seed : String), seeds[i]? = some seed →
      ∃ name, (source.drawEach seeds)[i]? = some name ∧
        ((∀ c ∈ (seed.toList.filter isWord).head?, !c.isDigit) →
          ∀ rest : String, (∀ c ∈ rest.toList.head?, !isWord c) →
            Placeholder.render (source.drawEach seeds) (":" ++ name ++ rest) =
              "$" ++ toString (i + 1) ++ Placeholder.render (source.drawEach seeds) rest) := by
  have hnodup := nodup_drawEach source seeds
  refine ⟨hnodup, fun i seed hseed => ?_⟩
  have hname : (source.drawEach seeds)[i]? = some (nameAt seed (source.count + i)) := by
    rw [getElem?_drawEach, hseed]
    rfl
  exact ⟨_, hname, fun hdigit rest hrest =>
    Placeholder.render_name_append hnodup hname (isIdentifier_nameAt hdigit) hrest⟩

/-- One of the texts looks like a name, and another one is its beginning. -/
theorem NameSource.rendered_drawEach_beginning :
    fresh.drawEach ["a_p1", "a", "9a", "é"] = ["a_p1_p0", "a_p1", "9a_p2", "_p3"] ∧
    (fresh.drawEach ["a_p1", "a", "9a", "é"]).Nodup ∧
    Placeholder.render (fresh.drawEach ["a_p1", "a", "9a", "é"])
        (":" ++ "a_p1" ++ "::TEXT = :_p3") =
      "$" ++ toString 2 ++
        Placeholder.render (fresh.drawEach ["a_p1", "a", "9a", "é"]) "::TEXT = :_p3" := by
  obtain ⟨hnodup, hrendered⟩ := rendered_drawEach fresh ["a_p1", "a", "9a", "é"]
  obtain ⟨name, hname, hposition⟩ := hrendered 1 "a" rfl
  obtain rfl : "a_p1" = name := Option.some.inj hname
  refine ⟨by decide, hnodup, hposition (fun c hc => ?_) _ fun c hc => ?_⟩
  · obtain rfl : 'a' = c := Option.some.inj hc
    rfl
  · obtain rfl : ':' = c := Option.some.inj hc
    rfl

end PropertyFilter

import BrowserScript.Baseline.Lookup
import BrowserScript.Proofs.Files
import Mathlib.Data.String.Basic

/-!
# Keys of compatibility data

The points of a key cut it into parts. The second part names a kind of syntax; all that follows
the point after it is the identifier, whatever points it has itself.
-/

namespace BrowserScript.Baseline

theorem splitOnAux_point (text : String) (start here : String.Pos.Raw) (found : List String) :
    text.splitOnAux "." start here 0 found = text.splitAux (· == '.') start here found := by
  have mark : String.Pos.Raw.get "." 0 = '.' := by decide
  have after : String.Pos.Raw.next "." 0 = ⟨1⟩ := by decide
  have whole : String.Pos.Raw.atEnd "." ⟨1⟩ = true := by decide
  fun_induction String.splitAux text (· == '.') start here found with
  | case1 start here found atEnd => rw [String.splitOnAux, if_pos atEnd]
  | case2 start here found atEnd _ isMark next ih =>
      -- The piece ends before the point, from which the search has moved on by one byte.
      have back : (String.Pos.Raw.next text here).unoffsetBy ⟨1⟩ = here := by
        rw [String.Pos.Raw.next, eq_of_beq isMark]
        exact String.Pos.Raw.ext (Nat.add_sub_cancel here.byteIdx 1)
      rw [String.splitOnAux, if_neg atEnd, mark, if_pos isMark, after]
      dsimp only
      rw [if_pos whole, back]
      exact ih
  | case3 start here found atEnd _ isMark ih =>
      rw [String.splitOnAux, if_neg atEnd, mark, if_neg isMark]
      exact ih

/-- The parts of a text between its points. -/
theorem splitOn_point (text : String) :
    text.splitOn "." = (text.toList.splitOnP (· == '.')).map String.ofList := by
  rw [← String.splitToList_of_valid]
  exact splitOnAux_point text 0 0 []

namespace CompatKey

/-- The parts of a text, joined by points again. -/
theorem intercalate_splitOn_point (text : String) :
    String.intercalate "." (text.splitOn ".") = text := by
  apply String.toList_injective
  rw [splitOn_point, String.toList_intercalate, List.map_map]
  simp only [Function.comp_def, String.toList_ofList, List.map_id']
  exact List.intercalate_splitOn '.'

/-- A part without a point ends at the first point. -/
theorem splitOn_point_append {part : String} (free : '.' ∉ part.toList) (rest : String) :
    (part ++ "." ++ rest).splitOn "." = part :: rest.splitOn "." := by
  have others : ∀ c ∈ part.toList, (c == '.') = false := fun c member =>
    beq_false_of_ne fun isMark => free (isMark ▸ member)
  have shape : (part ++ "." ++ rest).toList = part.toList ++ '.' :: rest.toList := by simp
  rw [splitOn_point, splitOn_point, shape, List.splitOnP_append_cons _ _ rfl,
    List.splitOnP_eq_singleton others]
  simp

theorem not_mem_of_mem_splitOn_point {text part : String} (isPart : part ∈ text.splitOn ".") :
    '.' ∉ part.toList := by
  rw [splitOn_point] at isPart
  obtain ⟨piece, between, rfl⟩ := List.mem_map.1 isPart
  rw [String.toList_ofList]
  exact Files.not_mem_of_mem_splitOn between

/-- A key has an identifier exactly if it is a first part, a kind of syntax and a rest with points
between them, and then the identifier is the whole rest in lower case. -/
theorem identifier_is_rest_of_key (key identifier : String) :
    identifier? key = some identifier ↔
      ∃ first category rest : String, '.' ∉ first.toList ∧ '.' ∉ category.toList ∧
        category ∈ categories ∧ key = first ++ "." ++ category ++ "." ++ rest ∧
        identifier = String.ofList (Text.lower rest.toList) := by
  constructor
  · intro found
    unfold identifier? at found
    split at found
    next first category second others parts =>
      split at found
      next known =>
        cases found
        have joined := intercalate_splitOn_point key
        rw [parts] at joined
        refine ⟨first, category, String.intercalate "." (second :: others), ?_, ?_,
          List.contains_iff_mem.1 known, ?_, rfl⟩
        · exact not_mem_of_mem_splitOn_point (parts ▸ List.mem_cons_self)
        · exact not_mem_of_mem_splitOn_point (parts ▸ List.mem_cons_of_mem _ List.mem_cons_self)
        · rw [← joined, String.intercalate_cons_cons, String.intercalate_cons_cons,
            ← String.append_assoc, ← String.append_assoc]
      next => cases found
    next => cases found
  · rintro ⟨first, category, rest, freeFirst, freeCategory, known, rfl, rfl⟩
    obtain ⟨second, others, parts⟩ : ∃ second others, rest.splitOn "." = second :: others := by
      rw [splitOn_point]
      exact List.exists_cons_of_ne_nil (by simp [List.splitOnP_ne_nil])
    have joined := intercalate_splitOn_point rest
    rw [parts] at joined
    have shape : first ++ "." ++ category ++ "." ++ rest =
        first ++ "." ++ (category ++ "." ++ rest) := by simp only [String.append_assoc]
    rw [identifier?, shape, splitOn_point_append freeFirst, splitOn_point_append freeCategory,
      parts]
    dsimp only
    rw [if_pos (List.contains_iff_mem.2 known), joined]

end CompatKey

end BrowserScript.Baseline

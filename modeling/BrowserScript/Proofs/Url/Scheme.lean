import Mathlib.Data.List.TakeWhile
import BrowserScript.Url.Address

/-!
# Schemes of addresses

An address starts with a scheme, a letter followed by letters, digits and a few marks. The scheme
decides how the host behind it is read, but no scheme is refused: with a plain host, every one of
them makes an address.
-/

namespace BrowserScript.Url

variable {scheme text : List Char}

def isSchemeChar (c : Char) : Bool := c.isAlphanum || c == '+' || c == '-' || c == '.'

structure IsSchemeName (name : List Char) : Prop where
  starts : ∃ first rest, name = first :: rest ∧ first.isAlpha = true
  chars : ∀ c ∈ name, isSchemeChar c = true

/-- What follows a scheme and its colon is fit for the kind of the scheme: the host of a web address
stands behind any number of slashes, that of a file behind two, if at all, and that of other
addresses too. -/
def FitsScheme (scheme rest : List Char) : Prop :=
  match Scheme.ofName scheme with
  | .web => authorityRefusal? .web (rest.dropWhile isSlash) = none
  | .file => fileRefusal? rest = none
  | .other => ∀ authority, rest = '/' :: '/' :: authority → authorityRefusal? .other authority = none

/-- The scheme of a text ends at its first colon. -/
theorem takeWhile_scheme (named : IsSchemeName scheme) (rest : List Char) :
    (scheme ++ ':' :: rest).takeWhile isSchemeChar = scheme := by
  rw [List.takeWhile_append_of_pos named.chars, List.takeWhile_cons_of_neg (by decide),
    List.append_nil]

/-- What starts a text before a mark, and what stands behind the mark. -/
theorem eq_append_of_head?_drop {length : Nat} {mark : Char}
    (found : (text.drop length).head? = some mark) :
    text = text.take length ++ mark :: text.drop (length + 1) := by
  obtain ⟨behind, same⟩ := List.head?_eq_some_iff.1 found
  have dropped : text.drop (length + 1) = behind := by
    rw [← List.drop_drop, same, List.drop_one, List.tail_cons]
  rw [dropped, ← same, List.take_append_drop]

theorem splitScheme?_eq_some_iff {rest : List Char} :
    splitScheme? text = some (scheme, rest) ↔
      text = scheme ++ ':' :: rest ∧ IsSchemeName scheme := by
  constructor
  · intro found
    unfold splitScheme? at found
    dsimp only at found
    -- The split tests its characters by the condition that `isSchemeChar` names.
    change (if _ then some (text.takeWhile isSchemeChar,
      text.drop ((text.takeWhile isSchemeChar).length + 1)) else none) = _ at found
    split at found
    · rename_i opens
      obtain ⟨alpha, colon⟩ := Bool.and_eq_true_iff.1 opens
      obtain ⟨rfl, rfl⟩ := Prod.mk.inj (Option.some.inj found)
      refine ⟨?_, ?_, fun c member => List.mem_takeWhile_imp member⟩
      · have behind : (text.drop (text.takeWhile isSchemeChar).length).head? = some ':' :=
          beq_iff_eq.1 colon
        have parts := eq_append_of_head?_drop behind
        rwa [← List.prefix_iff_eq_take.1 (List.takeWhile_prefix isSchemeChar)] at parts
      · obtain ⟨first, isFirst, letter⟩ := (Option.any_eq_true _ _).1 alpha
        obtain ⟨others, same⟩ := List.head?_eq_some_iff.1 isFirst
        exact ⟨first, others, same, letter⟩
    · cases found
  · rintro ⟨rfl, named⟩
    obtain ⟨first, others, same, alpha⟩ := named.starts
    have taken := takeWhile_scheme named rest
    unfold isSchemeChar at taken
    unfold splitScheme?
    dsimp only
    rw [taken, if_pos]
    · rw [← List.drop_drop, List.drop_left]
      rfl
    · rw [List.drop_left, same]
      simp [alpha]

/-! ## Addresses -/

/-- What follows a scheme is refused exactly if it is not fit for the scheme. -/
theorem fitsScheme_iff (scheme rest : List Char) :
    FitsScheme scheme rest ↔ (match Scheme.ofName scheme with
      | .web => authorityRefusal? .web (rest.dropWhile isSlash)
      | .file => fileRefusal? rest
      | .other =>
          match rest with
          | '/' :: '/' :: authority => authorityRefusal? .other authority
          | _ => none) = none := by
  unfold FitsScheme
  cases Scheme.ofName scheme with
  | web => rfl
  | file => rfl
  | other =>
      dsimp only
      split
      · rename_i authority
        constructor
        · intro fits
          exact fits authority rfl
        · rintro accepted other ⟨⟩
          exact accepted
      · rename_i without
        exact iff_of_true (fun authority same => absurd same (without authority)) rfl

/-- A text is an address exactly if it starts with a scheme that what follows is fit for. -/
theorem refusal?_eq_none_iff {text : String} :
    refusal? text = none ↔ ∃ scheme rest, clean text.toList = scheme ++ ':' :: rest ∧
      IsSchemeName scheme ∧ FitsScheme scheme rest := by
  unfold refusal?
  by_cases empty : text = ""
  · subst empty
    refine iff_of_false nofun ?_
    rintro ⟨scheme, rest, same, _, _⟩
    exact List.append_ne_nil_of_right_ne_nil scheme (List.cons_ne_nil ':' rest) same.symm
  · rw [if_neg (by simpa using empty)]
    cases parts : splitScheme? (clean text.toList) with
    | none =>
        refine iff_of_false nofun ?_
        rintro ⟨scheme, rest, same, named, _⟩
        cases parts.symm.trans (splitScheme?_eq_some_iff.2 ⟨same, named⟩)
    | some found =>
        obtain ⟨scheme, rest⟩ := found
        refine (fitsScheme_iff scheme rest).symm.trans ?_
        obtain ⟨same, named⟩ := splitScheme?_eq_some_iff.1 parts
        constructor
        · intro fits
          exact ⟨scheme, rest, same, named, fits⟩
        · rintro ⟨other, behind, again, otherNamed, fits⟩
          have alike := parts.symm.trans (splitScheme?_eq_some_iff.2 ⟨again, otherNamed⟩)
          obtain ⟨rfl, rfl⟩ := Prod.mk.inj (Option.some.inj alike)
          exact fits

/-! ## Every scheme -/

/-- A text without blanks and controls is clean. -/
theorem clean_eq_self (visible : ∀ c ∈ text, 0x20 < c.toNat) : clean text = text := by
  have kept : text.dropWhile (fun c => decide (c.toNat ≤ 0x20)) = text := by
    refine List.dropWhile_eq_self_iff.2 fun nonempty => ?_
    have first := visible _ (List.getElem_mem nonempty)
    simpa using first
  have keptBack : text.reverse.dropWhile (fun c => decide (c.toNat ≤ 0x20)) = text.reverse := by
    refine List.dropWhile_eq_self_iff.2 fun nonempty => ?_
    have last := visible _ (List.mem_reverse.1 (List.getElem_mem nonempty))
    simpa using last
  unfold clean
  dsimp only
  rw [kept, keptBack, List.reverse_reverse, List.filter_eq_self]
  intro c member
  have seen := visible c member
  rw [Bool.not_eq_true', Bool.or_eq_false_iff, Bool.or_eq_false_iff]
  refine ⟨⟨?_, ?_⟩, ?_⟩ <;> rw [beq_eq_false_iff_ne] <;> rintro rfl <;> exact absurd seen (by decide)

theorem lt_toNat_of_isSchemeChar {c : Char} (allowed : isSchemeChar c = true) : 0x20 < c.toNat := by
  have none : ∀ point ≤ 0x20, isSchemeChar (Char.ofNat point) = false := by decide
  refine Nat.lt_of_not_le fun small => ?_
  have refused := none c.toNat small
  rw [Char.ofNat_toNat, allowed] at refused
  cases refused

/-- Whatever its kind, a scheme fits a plain host behind two slashes. -/
theorem fitsScheme_plainHost (scheme : List Char) : FitsScheme scheme "//a".toList := by
  unfold FitsScheme
  cases Scheme.ofName scheme with
  | web => decide +kernel
  | file => decide +kernel
  | other =>
      intro authority same
      obtain rfl : ['a'] = authority := (List.cons.inj (List.cons.inj same).2).2
      with_unfolding_all rfl

/-- The address of a scheme with a plain host is clean. -/
theorem clean_plainHost (named : IsSchemeName scheme) :
    clean (String.ofList (scheme ++ ':' :: "//a".toList)).toList =
      scheme ++ ':' :: "//a".toList := by
  rw [String.toList_ofList]
  refine clean_eq_self fun c member => ?_
  rcases List.mem_append.1 member with inScheme | behind
  · exact lt_toNat_of_isSchemeChar (named.chars c inScheme)
  · have visible : (':' :: "//a".toList).all (fun c => 0x20 < c.toNat) = true := rfl
    exact of_decide_eq_true (List.all_eq_true.1 visible c behind)

end BrowserScript.Url

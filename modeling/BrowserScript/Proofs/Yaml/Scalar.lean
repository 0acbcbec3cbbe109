import Mathlib.Algebra.Group.Nat.Defs
import BrowserScript.Proofs.Yaml.Reading
import BrowserScript.Yaml.Scalar

/-!
# Why a scalar is not read

Plain and block scalars are refused for their characters alone. A quoted scalar also ends with the
fault of an escape that names no code point; only the widest escape can.
-/

namespace BrowserScript.Text

theorem hexDigit?_getD_lt (c : Char) : (hexDigit? c).getD 0 < 16 := by
  unfold hexDigit?
  split
  · rename_i digit
    have upper : c.toNat ≤ '9'.toNat := of_decide_eq_true (Bool.and_eq_true_iff.1 digit).2
    have bound : '9'.toNat = 57 := rfl
    rw [Option.getD_some]
    omega
  · split
    · rename_i lower
      have upper : c.toNat ≤ 'f'.toNat := of_decide_eq_true (Bool.and_eq_true_iff.1 lower).2
      have bound : 'f'.toNat = 102 := rfl
      rw [Option.getD_some]
      omega
    · split
      · rename_i upper
        have bounded : c.toNat ≤ 'F'.toNat := of_decide_eq_true (Bool.and_eq_true_iff.1 upper).2
        have bound : 'F'.toNat = 70 := rfl
        rw [Option.getD_some]
        omega
      · decide

/-- Hexadecimal digits write a number below the power of their count. -/
theorem ofHex_lt (digits : List Char) : ofHex digits < 16 ^ digits.length := by
  -- The digits are folded from the left, so the bound is one on any total so far.
  have step (digits : List Char) (total : Nat) :
      digits.foldl (fun total c => 16 * total + (hexDigit? c).getD 0) total <
        (total + 1) * 16 ^ digits.length := by
    induction digits generalizing total with
    | nil => simp
    | cons c digits ih =>
        have bound := hexDigit?_getD_lt c
        rw [List.foldl_cons, List.length_cons, Nat.pow_succ', ← Nat.mul_assoc]
        refine Nat.lt_of_lt_of_le (ih _) (Nat.mul_le_mul_right _ ?_)
        omega
  have all := step digits 0
  rwa [Nat.zero_add, Nat.one_mul] at all

end BrowserScript.Text

namespace BrowserScript.Yaml.Scalar

open Scan

variable {text : List Char}
variable (rounds : Nat)

/-! ## Quoted scalars -/

theorem quotedBreaks_keeps : StaysIn text (quotedBreaks rounds) := by
  induction rounds with
  | zero => exact .pure _
  | succ rounds ih =>
      unfold quotedBreaks
      refine .get_bind fun cursor _ => ?_
      have rest : StaysIn text (do
          let _ ← span fun c => c == ' ' || c == '\t'
          let ending ← lineEnd
          if ending.isEmpty then return []
          else return ending ++ (← quotedBreaks rounds)) := by
        refine (span_keeps _).bind fun _ => lineEnd_keeps.bind fun ending => ?_
        split
        · exact .pure _
        · exact ih.bind fun _ => .pure _
      split
      · exact refuse_keeps.bind fun _ => rest
      · exact rest

theorem ofCodePoint_keeps {holds : Cursor → Prop} {point : Nat}
    (explained : 0x110000 ≤ point → Misread text (codePointFault point)) :
    Keeps (Misread text) holds (ofCodePoint point) := by
  unfold ofCodePoint
  split
  · exact .pure _
  · rename_i beyond
    have fault := explained (Nat.le_of_not_lt beyond)
    unfold codePointFault at fault
    split
    · rename_i small
      rw [if_pos small] at fault
      exact .throw fault
    · rename_i large
      rw [if_neg large] at fault
      exact .throw fault

/-- Only the widest escape names code points beyond the last one. -/
theorem eq_of_beyond {c : Char} {width : Nat} {digits : List Char}
    (wide : escapeWidth? c = some width) (count : digits.length = width)
    (beyond : 0x110000 ≤ Text.ofHex digits) : c = 'U' ∧ width = 8 := by
  have bound := Text.ofHex_lt digits
  unfold escapeWidth? at wide
  split at wide
  · cases wide
    rw [count] at bound
    omega
  · cases wide
    rw [count] at bound
    omega
  · cases wide
    exact ⟨rfl, rfl⟩
  · cases wide

/-- The digits of an escape explain the fault of their code point. -/
theorem misread_escape {mark : Char} {cursor : Cursor} {width : Nat}
    (wide : escapeWidth? mark = some width) (behind : Behind text ['\\', mark] cursor)
    (written : ((cursor.rest.take width).length == width &&
      (cursor.rest.take width).all Text.isHexDigit) = true)
    (beyond : 0x110000 ≤ Text.ofHex (cursor.rest.take width)) :
    Misread text (codePointFault (Text.ofHex (cursor.rest.take width))) := by
  obtain ⟨count, hexadecimal⟩ := Bool.and_eq_true_iff.1 written
  have length := beq_iff_eq.1 count
  obtain ⟨rfl, rfl⟩ := eq_of_beyond wide length beyond
  obtain ⟨before, same⟩ := behind
  have parts : text = before ++ '\\' :: 'U' :: cursor.rest.take 8 ++ cursor.rest.drop 8 := by
    rw [← same]
    simp
  exact .escape parts length hexadecimal beyond

/-- An escape ends with the fault of its code point at most. -/
theorem escape_brings :
    Brings (Misread text) (Behind text ['\\']) (escape rounds) fun _ => Within text := by
  unfold escape
  refine (peek_brings 0).bind fun seen => ?_
  split
  · exact .throw (.unreadable .token)
  · rename_i mark
    split
    · exact (skip_behind mark).bind fun _ => .pure fun _ behind => behind.within
    · rename_i width _ wide
      refine (skip_behind mark).bind fun _ => Brings.get.bind fun seen => ?_
      refine (require_brings _).bind fun _ => ?_
      -- The cursor has not moved since it was looked at: the digits seen are those of the escape.
      refine .knowing (fun _ fits => And.intro (fits.1.2 ▸ fits.1.1) fits.2) fun known => ?_
      have point : Keeps (Misread text) (Behind text ['\\', mark])
          (ofCodePoint (Text.ofHex (seen.rest.take width))) :=
        ofCodePoint_keeps (misread_escape wide known.1 known.2)
      refine (point.strengthen fun _ fits => fits.1.1).bind fun _ => ?_
      exact ((skip_keeps width).strengthen fun _ behind => behind.within).bind fun _ =>
        .pure fun _ fits => fits
    · refine Brings.bind ((require_brings _).weaken fun _ _ fits => fits.1.1.within) fun _ => ?_
      exact lineEnd_keeps.bind fun _ => quotedBreaks_keeps rounds

theorem quotedRun_keeps (double : Bool) (rounds : Nat) :
    StaysIn text (quotedRun double rounds) := by
  induction rounds with
  | zero => exact .pure _
  | succ rounds ih =>
      unfold quotedRun
      refine (span_keeps _).bind fun plain => ?_
      refine Brings.get.bind fun cursor => ?_
      split
      · exact .pure fun _ fits => fits.1
      · rename_i c rest same
        have again (width : Nat) (next : List Char → List Char) :
            Brings (Misread text) (fun state => Within text state ∧ cursor = state)
              (do skip width; return next (← quotedRun double rounds)) fun _ => Within text :=
          Brings.strengthen ((skip_keeps width).bind fun _ => ih.bind fun _ => .pure _)
            fun _ fits => fits.1
        split
        · exact again 2 _
        · split
          · exact again 1 _
          · split
            · rename_i backslash
              obtain rfl : c = '\\' := beq_iff_eq.1 (Bool.and_eq_true_iff.1 backslash).2
              refine ((skip_first '\\').strengthen fun state fits => ⟨fits.1, ?_⟩).bind fun _ => ?_
              · rw [← fits.2, Cursor.at?, same]
                rfl
              refine (escape_brings rounds).bind fun _ => ?_
              exact ih.bind fun _ => .pure _
            · exact .pure fun _ fits => fits.1

theorem quotedGap_keeps : StaysIn text (quotedGap rounds) := by
  have rest (blanks : List Char) : StaysIn text (do
      let ending ← lineEnd
      if ending.isEmpty then return blanks
      else
        let breaks ← quotedBreaks rounds
        if ending != ['\n'] then return ending ++ breaks
        else if breaks.isEmpty then return [' ']
        else return breaks) := by
    refine lineEnd_keeps.bind fun ending => ?_
    split
    · exact .pure _
    · refine (quotedBreaks_keeps rounds).bind fun breaks => ?_
      split
      · exact .pure _
      · split
        · exact .pure _
        · exact .pure _
  unfold quotedGap
  refine (span_keeps _).bind fun blanks => (peek_keeps 0).bind fun seen => ?_
  split
  · exact refuse_keeps.bind fun _ => rest blanks
  · exact rest blanks

theorem quotedRest_keeps (double : Bool) (rounds : Nat) :
    StaysIn text (quotedRest double rounds) := by
  induction rounds with
  | zero => exact .pure _
  | succ rounds ih =>
      unfold quotedRest
      refine (peek_keeps 0).bind fun _ => .ite ?_ ?_
      · exact (skip_keeps 1).bind fun _ => .pure _
      · refine (quotedGap_keeps rounds).bind fun _ => (quotedRun_keeps double rounds).bind fun _ => ?_
        exact ih.bind fun _ => .pure _

theorem quoted_keeps (double : Bool) : StaysIn text (quoted double) := by
  unfold quoted
  refine .get_bind fun cursor _ => (skip_keeps 1).bind fun _ => ?_
  refine (quotedRun_keeps double _).bind fun _ => (quotedRest_keeps double _).bind fun _ => ?_
  exact .pure _

/-! ## Plain scalars -/

theorem plainBreaks_keeps : StaysIn text (plainBreaks rounds) := by
  induction rounds with
  | zero => exact .pure _
  | succ rounds ih =>
      unfold plainBreaks
      refine (span_keeps _).bind fun _ => lineEnd_keeps.bind fun ending => ?_
      split
      · exact .pure _
      · refine .get_bind fun cursor _ => ?_
        split
        · exact .pure _
        · exact ih.bind fun _ => .pure _

theorem plainGap_keeps : StaysIn text (plainGap rounds) := by
  unfold plainGap
  refine (span_keeps _).bind fun _ => lineEnd_keeps.bind fun ending => ?_
  split
  · exact .pure _
  · refine .get_bind fun cursor _ => ?_
    split
    · exact .pure _
    · refine (plainBreaks_keeps rounds).bind fun breaks => ?_
      split
      · exact .pure _
      · split
        · exact .pure _
        · split
          · exact .pure _
          · exact .pure _

theorem plainFrom_keeps (inFlow : Bool) (indent : Int) (between : List Char) (lineEnded : Bool)
    (rounds : Nat) : StaysIn text (plainFrom inFlow indent between lineEnded rounds) := by
  induction rounds generalizing between lineEnded with
  | zero => exact .pure _
  | succ rounds ih =>
      unfold plainFrom
      refine .get_bind fun cursor _ => ?_
      dsimp only
      split
      · exact .pure _
      · refine (skip_keeps _).bind fun _ => (plainGap_keeps rounds).bind fun gap => ?_
        refine .get_bind fun after _ => ?_
        split
        · exact .pure _
        · exact (ih _ _).bind fun _ => .pure _

theorem plain_keeps (inFlow : Bool) (indent : Int) : StaysIn text (plain inFlow indent) := by
  unfold plain
  exact .get_bind fun _ _ => plainFrom_keeps inFlow indent [] false _

/-! ## Block scalars -/

theorem blockIndent_keeps : StaysIn text blockIndent := by
  unfold blockIndent
  refine (peek_keeps 0).bind fun _ => ?_
  split
  · exact (require_keeps _).bind fun _ => (skip_keeps 1).bind fun _ => .pure _
  · exact .pure _

theorem blockHeader_keeps : StaysIn text blockHeader := by
  have finish (chomp : Chomp) (indent : Option Nat) : StaysIn text (do
      require (endsField (← peek 0))
      return (chomp, indent)) :=
    (peek_keeps 0).bind fun _ => (require_keeps _).bind fun _ => .pure _
  unfold blockHeader
  refine (peek_keeps 0).bind fun _ => ?_
  split
  · exact (skip_keeps 1).bind fun _ => blockIndent_keeps.bind fun _ => finish _ _
  · refine blockIndent_keeps.bind fun _ => (peek_keeps 0).bind fun _ => ?_
    dsimp only
    split
    · exact (skip_keeps 1).bind fun _ => (Keeps.pure _).bind fun _ => finish _ _
    · exact (Keeps.pure _).bind fun _ => finish _ _

theorem blockLead_keeps : StaysIn text (blockLead rounds) := by
  induction rounds with
  | zero => exact .pure _
  | succ rounds ih =>
      unfold blockLead
      refine (span_keeps _).bind fun _ => .get_bind fun _ _ => lineEnd_keeps.bind fun _ => ?_
      split
      · exact .pure _
      · exact ih.bind fun _ => .pure _

theorem spacesTo_keeps (indent : Nat) : StaysIn text (spacesTo indent) := by
  unfold spacesTo
  exact .get_bind fun _ _ => skip_keeps _

theorem blockBreaks_keeps (indent rounds : Nat) : StaysIn text (blockBreaks indent rounds) := by
  induction rounds with
  | zero => exact .pure _
  | succ rounds ih =>
      unfold blockBreaks
      refine (spacesTo_keeps indent).bind fun _ => lineEnd_keeps.bind fun _ => ?_
      split
      · exact .pure _
      · exact ih.bind fun _ => .pure _

theorem blockLines_keeps (folded : Bool) (indent : Nat) (breaks : List Char) (rounds : Nat) :
    StaysIn text (blockLines folded indent breaks rounds) := by
  induction rounds generalizing breaks with
  | zero => exact .pure _
  | succ rounds ih =>
      unfold blockLines
      refine .get_bind fun cursor _ => ?_
      split
      · refine (span_keeps _).bind fun _ => lineEnd_keeps.bind fun _ => ?_
        refine (blockBreaks_keeps indent rounds).bind fun _ => .get_bind fun after _ => ?_
        split
        · exact (ih _).bind fun _ => .pure _
        · exact .pure _
      · exact .pure _

theorem block_keeps (folded : Bool) (outer : Int) : StaysIn text (block folded outer) := by
  unfold block
  refine .get_bind fun cursor _ => (skip_keeps 1).bind fun _ => blockHeader_keeps.bind fun header => ?_
  refine emptyLine_keeps.bind fun _ => ?_
  have lines (indent : Nat) (breaks : List Char) (finish : _ → List Char) :
      StaysIn text (do
        let parts ← blockLines folded indent breaks (cursor.rest.length + 1)
        return finish parts) :=
    (blockLines_keeps folded indent breaks _).bind fun _ => .pure _
  dsimp only
  split
  · exact (blockLead_keeps _).bind fun _ => (Keeps.pure _).bind fun _ => lines _ _ _
  · exact (blockBreaks_keeps _ _).bind fun _ => (Keeps.pure _).bind fun _ => lines _ _ _

end BrowserScript.Yaml.Scalar

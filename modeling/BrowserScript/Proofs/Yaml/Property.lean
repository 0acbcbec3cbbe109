import BrowserScript.Proofs.Yaml.Reading
import BrowserScript.Yaml.Property

/-!
# Why a property is not read

Anchors, tags and directives are refused for their characters alone, but for the two numbers of a
version: one with more digits than integers may have in text ends with a fault of its own.
-/

namespace BrowserScript.Yaml.Property

open Scan

variable {text : List Char}

/-! ## Anchors and tags -/

theorem name_brings {seen : List Char} :
    Brings (Misread text) (Behind text seen) name fun taken => Behind text (seen ++ taken) := by
  unfold name
  refine (span_behind _).bind fun taken => (require_brings _).bind fun _ => ?_
  exact .pure fun _ fits => fits.1.2

theorem name_keeps : StaysIn text name := by
  have named : Brings (Misread text) (Behind text []) name fun taken => Behind text ([] ++ taken) :=
    name_brings
  exact named.weaken fun _ _ behind => behind.within

theorem anchorName_keeps : StaysIn text anchorName := by
  unfold anchorName
  refine (skip_keeps 1).bind fun _ => name_keeps.bind fun _ => (peek_keeps 0).bind fun _ => ?_
  exact (require_keeps _).bind fun _ => .pure _

theorem escapedBytes_keeps (rounds : Nat) : StaysIn text (escapedBytes rounds) := by
  induction rounds with
  | zero => exact .pure _
  | succ rounds ih =>
      unfold escapedBytes
      refine (peek_keeps 0).bind fun _ => .ite ?_ (.pure _)
      refine (skip_keeps 1).bind fun _ => .get_bind fun _ _ => (require_keeps _).bind fun _ => ?_
      exact (skip_keeps 2).bind fun _ => ih.bind fun _ => .pure _

theorem uriFrom_keeps (rounds : Nat) : StaysIn text (uriFrom rounds) := by
  induction rounds with
  | zero => exact .pure _
  | succ rounds ih =>
      unfold uriFrom
      refine (span_keeps _).bind fun _ => (peek_keeps 0).bind fun _ => .ite ?_ (.pure _)
      refine (escapedBytes_keeps rounds).bind fun bytes => ?_
      split
      · exact ih.bind fun _ => .pure _
      · exact refuse_keeps

theorem uri_keeps : StaysIn text uri := by
  unfold uri
  refine (peek_keeps 0).bind fun _ => (require_keeps _).bind fun _ => .get_bind fun _ _ => ?_
  exact (uriFrom_keeps _).bind fun _ => .pure _

theorem handle_keeps : StaysIn text handle := by
  unfold handle
  refine (peek_keeps 0).bind fun _ => (require_keeps _).bind fun _ => .get_bind fun _ _ => ?_
  refine (peek_keeps 1).bind fun _ => .ite ?_ ?_
  · exact (skip_keeps 1).bind fun _ => .pure _
  · refine (peek_keeps _).bind fun _ => (require_keeps _).bind fun _ => ?_
    exact (skip_keeps _).bind fun _ => .pure _

theorem tag_keeps : StaysIn text tag := by
  have finish (result : Token) : StaysIn text (do
      require (endsField (← peek 0))
      return result) :=
    (peek_keeps 0).bind fun _ => (require_keeps _).bind fun _ => .pure _
  unfold tag
  refine (peek_keeps 1).bind fun next => ?_
  dsimp only
  split
  · refine (skip_keeps 2).bind fun _ => uri_keeps.bind fun _ => (peek_keeps 0).bind fun _ => ?_
    refine (require_keeps _).bind fun _ => (skip_keeps 1).bind fun _ => ?_
    exact (Keeps.pure _).bind fun _ => finish _
  · refine .ite ?_ (.get_bind fun _ _ => .ite ?_ ?_)
    · exact (skip_keeps 1).bind fun _ => (Keeps.pure _).bind fun _ => finish _
    · exact handle_keeps.bind fun _ => uri_keeps.bind fun _ => (Keeps.pure _).bind fun _ => finish _
    · exact (skip_keeps 1).bind fun _ => uri_keeps.bind fun _ =>
        (Keeps.pure _).bind fun _ => finish _

/-! ## Directives -/

/-- The place is in a version, where a number may follow. -/
def InVersion (text : List Char) (cursor : Cursor) : Prop :=
  ∃ lead, lead.all leadsVersion = true ∧ Behind text ("%YAML".toList ++ lead) cursor

theorem InVersion.within {cursor : Cursor} (inside : InVersion text cursor) : Within text cursor := by
  obtain ⟨_, _, behind⟩ := inside
  exact behind.within

/-- A run of characters that may stand in a version leads on in it. -/
theorem span_version {accepts : Char → Bool} :
    Brings (Misread text) (InVersion text) (span accepts) fun taken cursor =>
      taken.all accepts = true ∧ ∃ lead, lead.all leadsVersion = true ∧
        Behind text ("%YAML".toList ++ lead ++ taken) cursor := by
  rintro cursor ⟨lead, leads, behind⟩
  obtain ⟨accepted, further⟩ := span_behind accepts cursor behind
  exact ⟨accepted, lead, leads, further⟩

theorem inVersion_append {lead taken : List Char} {cursor : Cursor}
    (leads : lead.all leadsVersion = true) (more : taken.all leadsVersion = true)
    (behind : Behind text ("%YAML".toList ++ lead ++ taken) cursor) : InVersion text cursor := by
  refine ⟨lead ++ taken, ?_, ?_⟩
  · rw [List.all_append, leads, more]
    rfl
  · rwa [← List.append_assoc]

theorem all_leadsVersion {accepts : Char → Bool} {taken : List Char}
    (allowed : ∀ c, accepts c = true → leadsVersion c = true) (accepted : taken.all accepts = true) :
    taken.all leadsVersion = true :=
  List.all_eq_true.2 fun c member => allowed c (List.all_eq_true.1 accepted c member)

theorem spaces_inVersion : Keeps (Misread text) (InVersion text) (span (· == ' ')) := by
  refine span_version.weaken fun taken cursor fits => ?_
  obtain ⟨accepted, lead, leads, behind⟩ := fits
  refine inVersion_append leads (all_leadsVersion (fun c space => ?_) accepted) behind
  unfold leadsVersion
  rw [space]
  rfl

/-- A number of a version that is too long explains its fault. -/
theorem versionNumber_keeps : Keeps (Misread text) (InVersion text) versionNumber := by
  unfold versionNumber
  refine span_version.bind fun digits => (require_brings _).bind fun _ => ?_
  refine .knowing (fun cursor fits => Exists.intro cursor fits.1) fun known => ?_
  obtain ⟨cursor, decimal, lead, leads, before, same⟩ := known
  -- The refusal stands in front of the result, which both branches share.
  have finish : Brings (Misread text)
      (fun cursor => (digits.all Char.isDigit = true ∧ ∃ lead, lead.all leadsVersion = true ∧
        Behind text ("%YAML".toList ++ lead ++ digits) cursor) ∧ (!digits.isEmpty) = true)
      (pure (Numeral.ofDigits digits)) fun _ => InVersion text := by
    refine .pure fun cursor fits => ?_
    obtain ⟨⟨_, lead, leads, behind⟩, _⟩ := fits
    refine inVersion_append leads (all_leadsVersion (fun c digit => ?_) decimal) behind
    unfold leadsVersion
    rw [digit, Bool.or_true]
    rfl
  split
  · rename_i long
    have parts : text = before ++ "%YAML".toList ++ lead ++ digits ++ cursor.rest := by
      rw [← same]
      simp only [List.append_assoc]
    exact Brings.bind (.throw (.version parts leads decimal long)) fun _ => finish
  · exact finish

theorem point_inVersion :
    Brings (Misread text) (fun cursor => InVersion text cursor ∧ some '.' = cursor.at? 0) (skip 1)
      fun _ => InVersion text := by
  rintro cursor ⟨⟨lead, leads, behind⟩, here⟩
  exact inVersion_append leads rfl (skip_behind '.' cursor ⟨behind, here⟩)

/-- The two numbers of a version, behind its name. -/
theorem version_brings :
    Brings (Misread text) (Behind text "%YAML".toList) (directiveOf "YAML") fun _ => Within text := by
  have start : ∀ cursor, Behind text "%YAML".toList cursor → InVersion text cursor :=
    fun _ behind => ⟨[], rfl, behind⟩
  have finish (major : Nat) : Brings (Misread text) (InVersion text) (do
      require (endsField (← peek 0))
      return Directive.version major) fun _ => Within text :=
    (((peek_keeps 0).bind fun _ => (require_keeps _).bind fun _ => .pure _).strengthen
      fun _ inside => inside.within : Brings _ _ _ _)
  change Brings _ _ (do
    let _ ← span (· == ' ')
    let major ← versionNumber
    require ((← peek 0) == some '.')
    skip 1
    let _ ← versionNumber
    require (endsField (← peek 0))
    return Directive.version major) _
  refine (spaces_inVersion.strengthen start).bind fun _ => ?_
  refine Brings.bind versionNumber_keeps fun major => (peek_brings 0).bind fun seen => ?_
  refine (require_brings _).bind fun _ => ?_
  refine (point_inVersion.strengthen fun cursor fits => ⟨fits.1.1, ?_⟩).bind fun _ => ?_
  · rw [← beq_iff_eq.1 fits.2]
    exact fits.1.2
  · exact Brings.bind versionNumber_keeps fun _ => finish major

theorem directiveOf_brings (word : List Char) :
    Brings (Misread text) (Behind text ('%' :: word)) (directiveOf (String.ofList word))
      fun _ => Within text := by
  by_cases version : String.ofList word = "YAML"
  · obtain rfl : word = "YAML".toList := by
      have same := congrArg String.toList version
      rwa [String.toList_ofList] at same
    exact version_brings
  · have unnamed : (String.ofList word == "YAML") = false := beq_eq_false_iff_ne.2 version
    refine Brings.strengthen ?_ fun _ behind => behind.within
    unfold directiveOf
    rw [unnamed, if_neg Bool.false_ne_true]
    refine Keeps.ite ?_ ?_
    · refine (span_keeps _).bind fun _ => handle_keeps.bind fun _ => (peek_keeps 0).bind fun _ => ?_
      refine (require_keeps _).bind fun _ => (span_keeps _).bind fun _ => uri_keeps.bind fun _ => ?_
      exact (peek_keeps 0).bind fun _ => (require_keeps _).bind fun _ => .pure _
    · exact (span_keeps _).bind fun _ => .pure _

/-- A directive starts at its mark. -/
theorem directive_brings :
    Brings (Misread text) (AtMark text '%') directive fun _ => Within text := by
  unfold directive
  refine (skip_first '%').bind fun _ => name_brings.bind fun word => ?_
  refine Brings.bind ((peek_brings 0).weaken fun _ _ fits => fits.1) fun _ => ?_
  refine Brings.bind ((require_brings _).weaken fun _ _ fits => fits.1) fun _ => ?_
  refine (directiveOf_brings word).bind fun _ => ?_
  exact emptyLine_keeps.bind fun _ => .pure _

end BrowserScript.Yaml.Property

import BrowserScript.Baseline.Lookup
import BrowserScript.Proofs.Number.Rounding
import Mathlib.Algebra.Order.Monoid.Unbundled.WithTop
import Mathlib.Data.List.TakeWhile

/-!
# Earliest versions

Versions are compared by their first number, and those without one come last. One pass through the
releases keeps, for each browser, the first of the versions that no other one precedes.
-/

namespace BrowserScript

namespace Binary64

def isUnsigned : Binary64 → Bool
  | .finite negative _ _ => !negative
  | .infinite negative => !negative
  | .nan => false

def magnitude : Binary64 → WithTop ℚ
  | .finite _ significand exponent => ((significand * 2 ^ exponent : ℚ) : WithTop ℚ)
  | _ => ⊤

theorem less_iff_magnitude_lt {left right : Binary64} (plain : left.isUnsigned = true)
    (plain' : right.isUnsigned = true) :
    left.less right = true ↔ left.magnitude < right.magnitude := by
  rcases left with ⟨_ | _, significand, exponent⟩ | ⟨_ | _⟩ | _ <;> try cases plain
  all_goals rcases right with ⟨_ | _, significand', exponent'⟩ | ⟨_ | _⟩ | _ <;> try cases plain'
  · have positive : (0 : ℚ) < (ratio significand exponent).2 := mod_cast ratio_pos _ _
    have positive' : (0 : ℚ) < (ratio significand' exponent').2 := mod_cast ratio_pos _ _
    rw [magnitude, magnitude, WithTop.coe_lt_coe, ← ratio_div, ← ratio_div,
      div_lt_div_iff₀ positive positive']
    simp only [less, signed, Bool.false_eq_true, if_false, decide_eq_true_eq]
    exact_mod_cast Iff.rfl
  · exact iff_of_true rfl (WithTop.coe_lt_top _)
  · exact iff_of_false Bool.false_ne_true not_top_lt
  · exact iff_of_false Bool.false_ne_true (lt_irrefl _)

theorem isUnsigned_ofDecimal (digits : Nat) (exponent : Int) :
    (ofDecimal false digits exponent).isUnsigned = true := by
  unfold ofDecimal ofQuotient
  dsimp only
  repeat' split
  all_goals rfl

end Binary64

namespace Baseline.Version

/-! ## The order of versions -/

/-- What a version is compared by: its first number, or more than any number. -/
def key (version : String) : WithTop ℚ := (number version.toList).magnitude

theorem isEarlier_iff (version : String) (known : Option String) :
    isEarlier version known = true ↔ ∀ other ∈ known, key version < key other := by
  have plain (text : List Char) : (number text).isUnsigned = true := by
    unfold number
    dsimp only
    split
    · rfl
    · exact Binary64.isUnsigned_ofDecimal _ _
  cases known with
  | none => simp [isEarlier]
  | some known => simp [isEarlier, key, Binary64.less_iff_magnitude_lt (plain _) (plain _)]

/-- A version without a digit comes last. -/
theorem key_eq_top {version : String} (wordy : ∀ c ∈ version.toList, Text.isDigit c = false) :
    key version = ⊤ := by
  have rest : version.toList.dropWhile (fun c => !Text.isDigit c) = [] :=
    List.dropWhile_eq_nil_iff.2 fun c member => by rw [wordy c member]; rfl
  unfold key number
  rw [rest]
  rfl

/-! ## The releases of a browser -/

def releases (status : Entries) : Entries :=
  match Entries.get? status "support" with
  | some (.map entries) => entries
  | _ => []

/-- A release is a version of a browser, whose text is not empty. -/
def IsVersion (browser : Browser) (release : Value × Value) (version : String) : Prop :=
  Browser.ofRelease? release.1 = some browser ∧ release.2 = .str version ∧ version ≠ ""

/-- The earliest version of a browser is the first of those that no other one precedes; there is
none exactly if no release is a version of the browser. -/
def IsEarliest (browser : Browser) (support : Entries) : Option String → Prop
  | none => ∀ release ∈ support, ∀ version, ¬ IsVersion browser release version
  | some version =>
      ∃ before release after, support = before ++ release :: after ∧
        IsVersion browser release version ∧
        (∀ sooner ∈ before, ∀ other, IsVersion browser sooner other → key version < key other) ∧
        ∀ later ∈ after, ∀ other, IsVersion browser later other → key version ≤ key other

theorem ofRelease?_eq_some_iff {browser : Browser} {release : Value × Value} {version : String} :
    ofRelease? release = some (browser, version) ↔ IsVersion browser release version := by
  unfold ofRelease? IsVersion
  split
  next family text isFamily isText =>
    rw [isFamily, isText]
    by_cases empty : text = ""
    · rw [if_pos (beq_iff_eq.2 empty)]
      refine iff_of_false (by simp) ?_
      rintro ⟨_, same, filled⟩
      exact filled ((Value.str.inj same).symm.trans empty)
    · rw [if_neg (mt beq_iff_eq.1 empty)]
      simp only [Option.some.injEq, Prod.mk.injEq, Value.str.injEq]
      refine and_congr_right fun _ => (and_iff_left_of_imp ?_).symm
      rintro rfl
      exact empty
  next other =>
    refine iff_of_false (by simp) ?_
    rintro ⟨isFamily, isText, _⟩
    exact other browser version isFamily isText

/-- What is known of one browser after a release. -/
def laterKnown (browser : Browser) (known : Option String) (release : Value × Value) :
    Option String :=
  match ofRelease? release with
  | none => known
  | some (family, version) =>
      if browser == family && isEarlier version known then some version else known

/-- The earliest version of one browser, apart from the others. -/
def earliest? (browser : Browser) (support : Entries) : Option String :=
  support.foldl (laterKnown browser) none

/-- The table of all browsers is kept row by row. -/
theorem addRelease_map (browsers : List Browser) (known : Browser → Option String)
    (release : Value × Value) :
    addRelease (browsers.map fun browser => (browser, known browser)) release =
      browsers.map fun browser => (browser, laterKnown browser (known browser) release) := by
  unfold addRelease laterKnown
  cases ofRelease? release with
  | none => rfl
  | some version =>
      dsimp only
      rw [List.map_map]
      refine List.map_congr_left fun browser _ => ?_
      dsimp only [Function.comp]
      split
      next taken =>
        rw [Bool.and_eq_true, beq_iff_eq] at taken
        rw [taken.1]
      next => rfl

/-- One pass through the releases gives every browser what a pass of its own would give it. -/
theorem compat_eq (status : Entries) :
    compat status =
      Browser.all.map fun browser => (browser, earliest? browser (releases status)) := by
  have pass (support : Entries) (known : Browser → Option String) :
      support.foldl addRelease (Browser.all.map fun browser => (browser, known browser)) =
        Browser.all.map fun browser =>
          (browser, support.foldl (laterKnown browser) (known browser)) := by
    induction support generalizing known with
    | nil => rfl
    | cons release support ih => rw [List.foldl_cons, addRelease_map, ih]; rfl
  exact pass (releases status) fun _ => none

namespace IsEarliest

variable {browser : Browser} {support : Entries} {release : Value × Value} {version : String}
  {known : Option String}

theorem le (earliest : IsEarliest browser support (some version)) (member : release ∈ support)
    {other : String} (isVersion : IsVersion browser release other) : key version ≤ key other := by
  obtain ⟨before, own, after, rfl, ⟨_, text, _⟩, sooner, later⟩ := earliest
  rcases List.mem_append.1 member with early | member
  · exact (sooner release early other isVersion).le
  · rcases List.mem_cons.1 member with rfl | late
    · obtain rfl : version = other := by simpa [text] using isVersion.2.1
      exact le_rfl
    · exact later release late other isVersion

/-- A release that does not precede the earliest version leaves it. -/
theorem keep (earliest : IsEarliest browser support known)
    (others : ∀ other, IsVersion browser release other → isEarlier other known = false) :
    IsEarliest browser (support ++ [release]) known := by
  cases known with
  | none =>
      refine List.forall_mem_append.2 ⟨earliest, List.forall_mem_singleton.2 ?_⟩
      intro other isOther
      cases others other isOther
  | some version =>
      obtain ⟨before, own, after, rfl, isVersion, sooner, later⟩ := earliest
      refine ⟨before, own, after ++ [release], by simp, isVersion, sooner, ?_⟩
      refine List.forall_mem_append.2 ⟨later, List.forall_mem_singleton.2 fun other isOther => ?_⟩
      have behind := mt (isEarlier_iff other (some version)).2 (by simp [others other isOther])
      simpa using behind

/-- A release that precedes the earliest version takes its place. -/
theorem replace (earliest : IsEarliest browser support known)
    (isVersion : IsVersion browser release version) (ahead : isEarlier version known = true) :
    IsEarliest browser (support ++ [release]) (some version) := by
  refine ⟨support, release, [], rfl, isVersion, ?_, List.forall_mem_nil _⟩
  intro sooner member other isOther
  cases known with
  | none => exact absurd isOther (earliest sooner member other)
  | some known =>
      exact ((isEarlier_iff version _).1 ahead known rfl).trans_le (earliest.le member isOther)

/-- The least key, in words that do not mention an order of the releases. -/
theorem map_key_eq_some_iff (earliest : IsEarliest browser support known) (least : WithTop ℚ) :
    known.map key = some least ↔
      (∃ release ∈ support, ∃ version, IsVersion browser release version ∧ key version = least) ∧
        ∀ release ∈ support, ∀ other, IsVersion browser release other → least ≤ key other := by
  cases known with
  | none =>
      refine iff_of_false (by simp) ?_
      rintro ⟨⟨release, member, version, isVersion, _⟩, _⟩
      exact earliest release member version isVersion
  | some version =>
      obtain ⟨before, own, after, shape, isVersion, _⟩ := id earliest
      have member : own ∈ support := by simp [shape]
      constructor
      · rintro ⟨⟩
        exact ⟨⟨own, member, version, isVersion, rfl⟩, fun _ listed _ => earliest.le listed⟩
      · rintro ⟨⟨release, listed, other, isOther, rfl⟩, lower⟩
        exact congrArg some (le_antisymm (earliest.le listed isOther)
          (lower own member version isVersion))

end IsEarliest

/-- One pass through the releases finds the earliest version. -/
theorem isEarliest_earliest? (browser : Browser) (support : Entries) :
    IsEarliest browser support (earliest? browser support) := by
  induction support using List.reverseRecOn with
  | nil => exact List.forall_mem_nil _
  | append_singleton support release ih =>
      rw [earliest?, List.foldl_append, ← earliest?, List.foldl_cons, List.foldl_nil, laterKnown]
      generalize earliest? browser support = known at ih ⊢
      split
      next noVersion =>
        refine ih.keep fun other isOther => ?_
        rw [ofRelease?_eq_some_iff.2 isOther] at noVersion
        cases noVersion
      next family version isVersion =>
        split
        next taken =>
          rw [Bool.and_eq_true, beq_iff_eq] at taken
          obtain ⟨rfl, ahead⟩ := taken
          exact ih.replace (ofRelease?_eq_some_iff.1 isVersion) ahead
        next left =>
          refine ih.keep fun other isOther => ?_
          rw [ofRelease?_eq_some_iff.2 isOther] at isVersion
          cases isVersion
          simpa using left

/-- Every browser has its earliest version: none if no release is a version of it, else the first
of those with the least key. Versions without a number are last, and the least key is the same in
whatever order the releases are listed. -/
theorem earliest_version_of_each_browser (status : Entries) :
    ∃ found : Browser → Option String,
      compat status = [(.chrome, found .chrome), (.firefox, found .firefox),
        (.safari, found .safari), (.edge, found .edge)] ∧
      (∀ browser, IsEarliest browser (releases status) (found browser)) ∧
      (∀ version other, isEarlier version (some other) = true ↔ key version < key other) ∧
      (∀ version, (∀ c ∈ version.toList, Text.isDigit c = false) → key version = ⊤) ∧
      ∀ other, (releases status).Perm (releases other) →
        (compat other).map (fun entry => (entry.1, entry.2.map key)) =
          (compat status).map fun entry => (entry.1, entry.2.map key) := by
  refine ⟨fun browser => earliest? browser (releases status), compat_eq status,
    fun browser => isEarliest_earliest? browser _, fun version other => ?_,
    fun _ => key_eq_top, fun other perm => ?_⟩
  · simp [isEarlier_iff]
  · have same (browser : Browser) : (earliest? browser (releases other)).map key =
        (earliest? browser (releases status)).map key := by
      refine Option.ext fun least => ?_
      rw [(isEarliest_earliest? browser _).map_key_eq_some_iff,
        (isEarliest_earliest? browser _).map_key_eq_some_iff]
      simp only [perm.mem_iff]
    simp only [compat_eq, List.map_map, Function.comp_def, same]

end Baseline.Version

end BrowserScript

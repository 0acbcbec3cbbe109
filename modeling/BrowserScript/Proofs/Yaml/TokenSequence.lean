import BrowserScript.Proofs.Yaml.Property
import BrowserScript.Proofs.Yaml.Scalar
import BrowserScript.Yaml.TokenSequence

/-!
# Why the tokens of a text stop

Tokens are found at the place of a cursor that never leaves the text. Keeping books on keys and
indentation does not move it, so what stops the tokens early is explained by the text.
-/

namespace BrowserScript.Yaml

namespace Fetch

variable {text : List Char} {α : Type} {holds : Cursor → Prop}

/-- A step leaves its cursor as it should be, or the text explains its fault. -/
abbrev KeepsCursor (text : List Char) (holds : Cursor → Prop) (step : Fetch α) : Prop :=
  Keeps (Misread text) (fun scanner => holds scanner.cursor) step

/-! ## Keys and indentation -/

theorem refuse_keeps : KeepsCursor text holds
    (refuse : Fetch α) := .throw (.unreadable .token)

/-- Reading characters does to the cursor what it does by itself. -/
theorem scan_brings {reading : Scan α} {after : α → Cursor → Prop}
    (brings : Brings (Misread text) holds reading after) :
    Brings (Misread text) (fun scanner => holds scanner.cursor) (scan reading)
      fun result scanner => after result scanner.cursor := by
  intro scanner fits
  have done := brings scanner.cursor fits
  have moved : (scan reading).run scanner =
      (fun answer => (answer.1, { scanner with cursor := answer.2 })) <$>
        reading.run scanner.cursor := by
    unfold scan
    cases run : reading.run scanner.cursor with
    | error fault => simp [run]
    | ok answer => simp [run]
  rw [moved]
  cases run : reading.run scanner.cursor with
  | error fault =>
      rw [run] at done
      exact done
  | ok answer =>
      rw [run] at done
      exact done

theorem scan_keeps {reading : Scan α} (keeps : Keeps (Misread text) holds reading) :
    KeepsCursor text holds (scan reading) := scan_brings keeps

theorem emit_keeps (token : Token) : KeepsCursor text holds (emit token) :=
  .modify fun _ fits => fits

theorem allowKey_keeps (allowed : Bool) : KeepsCursor text holds (allowKey allowed) :=
  .modify fun _ fits => fits

theorem dropStale_keeps : KeepsCursor text holds dropStale := by
  unfold dropStale
  refine .get_bind fun scanner fits => ?_
  dsimp only
  split
  · exact refuse_keeps.bind fun _ => .set fits
  · exact .set fits

theorem dropKey_keeps : KeepsCursor text holds dropKey := by
  unfold dropKey
  refine .get_bind fun scanner fits => ?_
  dsimp only
  split
  · exact refuse_keeps.bind fun _ => .set fits
  · exact .set fits

theorem noteKey_keeps : KeepsCursor text holds noteKey := by
  unfold noteKey
  refine .get_bind fun scanner _ => .ite ?_ (.pure _)
  exact dropKey_keeps.bind fun _ => .modify fun _ fits => fits

theorem unwind_keeps (column : Int) : KeepsCursor text holds (unwind column) := by
  unfold unwind
  exact .get_bind fun scanner fits => .ite (.set fits) (.pure _)

theorem openBlock_keeps (column position : Nat) (token : Token) :
    KeepsCursor text holds (openBlock column position token) := by
  refine .modify fun scanner fits => ?_
  split
  · exact fits
  · exact fits

theorem openHere_keeps (token : Token) : KeepsCursor text holds (openHere token) := by
  unfold openHere
  refine .get_bind fun scanner _ => .ite ?_ (.pure _)
  dsimp only
  split
  · exact refuse_keeps.bind fun _ => openBlock_keeps _ _ _
  · exact openBlock_keeps _ _ _

/-- A line that belongs to no document leaves to its reading what it meets. -/
theorem documentMark_brings {reading : Fetch Unit} {after : Unit → Scanner → Prop}
    (brings : Brings (Misread text) (fun scanner => holds scanner.cursor) reading after) :
    Brings (Misread text) (fun scanner => holds scanner.cursor) (documentMark reading) after := by
  unfold documentMark
  refine Brings.bind (unwind_keeps (-1)) fun _ => Brings.bind dropKey_keeps fun _ => ?_
  exact Brings.bind (allowKey_keeps false) fun _ => brings

theorem streamEnd_keeps : KeepsCursor text holds streamEnd := by
  unfold streamEnd
  refine (unwind_keeps (-1)).bind fun _ => dropKey_keeps.bind fun _ => ?_
  exact Keeps.bind (.modify fun _ fits => fits) fun _ => emit_keeps _

/-! ## Tokens -/

theorem indicator_keeps (token : Token) (width : Nat) :
    KeepsCursor text (Within text) (indicator token width) :=
  (emit_keeps token).bind fun _ => scan_keeps (Scan.skip_keeps width)

theorem openFlow_keeps (token : Token) : KeepsCursor text (Within text) (openFlow token) :=
  noteKey_keeps.bind fun _ => (Keeps.modify fun _ fits => fits).bind fun _ =>
    (allowKey_keeps true).bind fun _ => indicator_keeps token 1

theorem closeFlow_keeps (token : Token) : KeepsCursor text (Within text) (closeFlow token) :=
  dropKey_keeps.bind fun _ => (Keeps.modify fun _ fits => fits).bind fun _ =>
    (allowKey_keeps false).bind fun _ => indicator_keeps token 1

theorem flowEntry_keeps : KeepsCursor text (Within text) flowEntry :=
  (allowKey_keeps true).bind fun _ => dropKey_keeps.bind fun _ => indicator_keeps _ 1

theorem blockEntry_keeps : KeepsCursor text (Within text) blockEntry :=
  (openHere_keeps _).bind fun _ => (allowKey_keeps true).bind fun _ =>
    dropKey_keeps.bind fun _ => indicator_keeps _ 1

theorem key_keeps : KeepsCursor text (Within text) key :=
  (openHere_keeps _).bind fun _ => .get_bind fun _ _ => (allowKey_keeps _).bind fun _ =>
    dropKey_keeps.bind fun _ => indicator_keeps _ 1

theorem value_keeps : KeepsCursor text (Within text) value := by
  unfold value
  refine .get_bind fun scanner fits => ?_
  dsimp only
  split
  · refine Keeps.bind (.set fits) fun _ => ?_
    split
    · exact (openBlock_keeps _ _ _).bind fun _ => (allowKey_keeps false).bind fun _ =>
        indicator_keeps _ 1
    · exact (allowKey_keeps false).bind fun _ => indicator_keeps _ 1
  · exact (openHere_keeps _).bind fun _ => (allowKey_keeps _).bind fun _ =>
      dropKey_keeps.bind fun _ => indicator_keeps _ 1

theorem keyLike_keeps {reading : Scan Token} (keeps : StaysIn text reading) :
    KeepsCursor text (Within text) (keyLike reading) :=
  noteKey_keeps.bind fun _ => (allowKey_keeps false).bind fun _ =>
    (scan_keeps keeps).bind fun token => emit_keeps token

theorem plain_keeps : KeepsCursor text (Within text) plain :=
  noteKey_keeps.bind fun _ => .get_bind fun _ _ =>
    (scan_keeps (Scalar.plain_keeps _ _)).bind fun _ => (allowKey_keeps _).bind fun _ => emit_keeps _

theorem block_keeps (folded : Bool) : KeepsCursor text (Within text) (block folded) :=
  (allowKey_keeps true).bind fun _ => dropKey_keeps.bind fun _ => .get_bind fun _ _ =>
    (scan_keeps (Scalar.block_keeps folded _)).bind fun _ => emit_keeps _

theorem quoted_keeps (double : Bool) : KeepsCursor text (Within text) (quoted double) :=
  keyLike_keeps ((Scalar.quoted_keeps double).bind fun _ => .pure _)

/-- A token is found where its first character stands; a directive needs to know that. -/
theorem tokenAt_brings (c : Char) :
    Brings (Misread text) (fun scanner => AtMark text c scanner.cursor) (tokenAt c)
      fun _ scanner => Within text scanner.cursor := by
  have named {reading : String → Token} : StaysIn text (do
      return reading (← Property.anchorName)) :=
    Property.anchorName_keeps.bind fun _ => .pure _
  unfold tokenAt
  refine Brings.get.bind fun scanner => Brings.strengthen ?_ fun _ fits => fits.1
  refine Brings.ite (fun percent => ?_) ?_
  · obtain rfl : c = '%' := beq_iff_eq.1 (Bool.and_eq_true_iff.1 percent).1
    exact documentMark_brings
      ((scan_brings Property.directive_brings).bind fun token => emit_keeps token)
  -- The other tokens need no more than a cursor within the text.
  · refine Brings.strengthen ?_ fun _ fits => fits.1
    refine Keeps.ite (documentMark_brings (indicator_keeps _ _)) ?_
    refine .ite (documentMark_brings (indicator_keeps _ _)) ?_
    refine .ite (openFlow_keeps _) (.ite (openFlow_keeps _) ?_)
    refine .ite (closeFlow_keeps _) (.ite (closeFlow_keeps _) ?_)
    refine .ite flowEntry_keeps (.ite blockEntry_keeps ?_)
    refine .ite key_keeps (.ite value_keeps ?_)
    refine .ite (keyLike_keeps named) (.ite (keyLike_keeps named) ?_)
    refine .ite (keyLike_keeps Property.tag_keeps) ?_
    refine .ite (block_keeps false) (.ite (block_keeps true) ?_)
    refine .ite (quoted_keeps false) (.ite (quoted_keeps true) ?_)
    exact .ite plain_keeps refuse_keeps

theorem toToken_keeps : KeepsCursor text (Within text) toToken := by
  have onward (cursor : Cursor) : KeepsCursor text (Within text)
      (do
        let lineEnded ← scan (Scan.gap (cursor.rest.length + 1))
        if lineEnded && !(← get).inFlow then allowKey true) :=
    (scan_keeps (Scan.gap_keeps _)).bind fun _ => .get_bind fun _ _ =>
      .ite (allowKey_keeps true) (.pure _)
  unfold toToken
  refine .get_bind fun scanner _ => ?_
  dsimp only
  split
  · exact (scan_keeps (Scan.skip_keeps 1)).bind fun _ => onward _
  · exact onward _

theorem more_keeps : KeepsCursor text (Within text) more := by
  unfold more
  refine toToken_keeps.bind fun _ => dropStale_keeps.bind fun _ => .get_bind fun _ _ => ?_
  refine (unwind_keeps _).bind fun _ => Brings.get.bind fun scanner => ?_
  split
  · exact streamEnd_keeps.strengthen fun _ fits => fits.1
  · rename_i c here
    refine (tokenAt_brings c).strengthen fun state fits => ⟨fits.1, ?_⟩
    rw [← fits.2]
    exact here.symm

theorem isPending_keeps : KeepsCursor text (Within text) isPending := by
  unfold isPending
  refine .get_bind fun _ _ => .get_bind fun _ _ => .ite (.pure _) ?_
  exact dropStale_keeps.bind fun _ => .get_bind fun _ _ => .pure _

end Fetch

/-- What stops the tokens of a text early is explained by the text. -/
theorem Scanner.misread_of_readAll {text : List Char} {scanner : Scanner} {rounds : Nat}
    (within : Within text scanner.cursor) {fault : Fault}
    (stopped : (scanner.readAll rounds).refusal = some fault) : Misread text fault := by
  induction rounds generalizing scanner with
  | zero =>
      obtain rfl := Option.some.inj stopped
      exact .unreadable .token
  | succ rounds ih =>
      unfold readAll at stopped
      have pending := Fetch.isPending_keeps scanner within
      split at stopped
      · cases stopped
      · dsimp only at stopped
        split at stopped
        · rename_i failed
          rw [show Fetch.isPending.run scanner = _ from failed] at pending
          obtain rfl := Option.some.inj stopped
          exact pending
        · rename_i settled done
          rw [show Fetch.isPending.run scanner = _ from done] at pending
          have onward : Within text ({ settled with taken := settled.certain }).cursor := pending
          exact ih onward stopped
        · rename_i settled done
          rw [show Fetch.isPending.run scanner = _ from done] at pending
          have found := Fetch.more_keeps settled pending
          split at stopped
          · rename_i failed
            rw [show Fetch.more.run settled = _ from failed] at found
            obtain rfl := Option.some.inj stopped
            exact found
          · rename_i next further
            rw [show Fetch.more.run settled = _ from further] at found
            exact ih found stopped

theorem misread_of_tokens {text : List Char} {fault : Fault}
    (stopped : (tokens text).refusal = some fault) : Misread text fault := by
  have start : Within text (Scanner.start text).cursor := List.suffix_refl text
  exact Scanner.misread_of_readAll start stopped

end BrowserScript.Yaml

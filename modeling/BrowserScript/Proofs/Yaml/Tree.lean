import BrowserScript.Proofs.Yaml.TokenSequence
import BrowserScript.Yaml.Node

/-!
# Why a text has no tree

The grammar and the composition of the tree take tokens and events one by one. Where none is left
they hand on why, and what they refuse by themselves is unreadable, so a text without a tree is one
that is not read.
-/

namespace BrowserScript.Yaml

/-- A computation within a reading that ends with faults that are explained. -/
theorem Keeps.lift {σ α : Type} {explains : Fault → Prop} {holds : σ → Prop}
    {outcome : Except Fault α} (explained : ∀ fault, outcome = .error fault → explains fault) :
    Keeps explains holds (liftM outcome : StateT σ (Except Fault) α) := by
  intro state fits
  cases outcome with
  | ok result => exact fits
  | error fault => exact explained fault rfl

/-! ## The grammar -/

namespace Parse

variable {text : List Char} {α : Type}

/-- What is known of the end of the tokens is explained by the text. -/
def Known (text : List Char) (grammar : Grammar) : Prop := Misread text grammar.refusal

/-- A step knows as much of the end of the tokens as before, or the text explains its fault. -/
abbrev Explained (text : List Char) (step : Parse α) : Prop :=
  Keeps (Misread text) (Known text) step

theorem refuse_keeps : Explained text (refuse : Parse α) :=
  .throw (.unreadable .grammar)

theorem peek_keeps : Explained text peek := by
  unfold peek
  refine .get_bind fun grammar known => ?_
  split
  · exact .pure _
  · exact .get_bind fun _ later => .throw later

theorem drop_keeps : Explained text drop :=
  peek_keeps.bind fun _ => .modify fun _ known => known

theorem returnTo_keeps (place : Place) : Explained text (returnTo place) :=
  .modify fun _ known => known

theorem done_keeps (event : Event) : Explained text (done event) :=
  .get_bind fun _ known => Keeps.bind (.set known) fun _ => .pure _

theorem go_keeps (event : Event) (place : Place) :
    Explained text (go event place) := .pure _

/-- Settings before a document are refused by the grammar alone. -/
theorem directives_error {version : Bool} {handles : List (String × String)} {tokens : List Token}
    {fault : Fault} (failed : directives version handles tokens = .error fault) :
    fault = .unreadable .grammar := by
  fun_induction directives version handles tokens with
  | case1 => exact (Except.error.inj failed).symm
  | case2 _ _ _ _ _ ih => exact ih failed
  | case3 => exact (Except.error.inj failed).symm
  | case4 _ _ _ _ _ _ ih => exact ih failed
  | case5 _ _ _ ih => exact ih failed
  | case6 => cases failed

theorem tagOf_keeps (handle : Option String) (rest : String) :
    Explained text (tagOf handle rest) := by
  unfold tagOf
  split
  · exact .pure _
  · refine .get_bind fun _ _ => ?_
    split
    · exact .pure _
    · exact refuse_keeps

theorem properties_keeps : Explained text properties := by
  unfold properties
  refine peek_keeps.bind fun token => ?_
  split
  · refine drop_keeps.bind fun _ => peek_keeps.bind fun token => ?_
    split
    · exact drop_keeps.bind fun _ => (tagOf_keeps _ _).bind fun _ => .pure _
    · exact .pure _
  · refine drop_keeps.bind fun _ => peek_keeps.bind fun token => ?_
    split
    · exact drop_keeps.bind fun _ => (tagOf_keeps _ _).bind fun _ => .pure _
    · exact (tagOf_keeps _ _).bind fun _ => .pure _
  · exact .pure _

theorem node_keeps (inBlock indentless : Bool) : Explained text (node inBlock indentless) := by
  unfold node
  refine peek_keeps.bind fun token => ?_
  split
  · exact drop_keeps.bind fun _ => done_keeps _
  · refine properties_keeps.bind fun found => peek_keeps.bind fun token => ?_
    split
    · exact go_keeps _ _
    · exact drop_keeps.bind fun _ => done_keeps _
    · exact go_keeps _ _
    · exact go_keeps _ _
    · exact go_keeps _ _
    · exact go_keeps _ _
    · exact .ite (done_keeps _) refuse_keeps

/-- A node after which a place goes on, unless it is absent. -/
theorem nodeThen_keeps (place : Place) (inBlock indentless : Bool) :
    Explained text (do returnTo place; node inBlock indentless) :=
  (returnTo_keeps place).bind fun _ => node_keeps inBlock indentless

theorem documentStart_keeps : Explained text documentStart := by
  unfold documentStart
  refine Keeps.bind (.modify fun _ known => known) fun _ => peek_keeps.bind fun token => ?_
  split
  · exact drop_keeps.bind fun _ => .pure _
  · refine .get_bind fun grammar known => Keeps.bind (.lift fun fault failed => ?_) fun found => ?_
    · rw [directives_error failed]
      exact .unreadable .grammar
    · refine Keeps.bind (.set known) fun _ => peek_keeps.bind fun token => ?_
      split
      · exact drop_keeps.bind fun _ => (returnTo_keeps _).bind fun _ => go_keeps _ _
      · exact refuse_keeps

theorem blockSequenceEntry_keeps : Explained text blockSequenceEntry := by
  unfold blockSequenceEntry
  refine peek_keeps.bind fun token => ?_
  split
  · refine drop_keeps.bind fun _ => peek_keeps.bind fun token => ?_
    split
    · exact go_keeps _ _
    · exact go_keeps _ _
    · exact nodeThen_keeps _ _ _
  · exact drop_keeps.bind fun _ => done_keeps _
  · exact refuse_keeps

theorem indentlessEntry_keeps : Explained text indentlessEntry := by
  unfold indentlessEntry
  refine peek_keeps.bind fun token => ?_
  split
  · refine drop_keeps.bind fun _ => peek_keeps.bind fun token => ?_
    split
    · exact go_keeps _ _
    · exact go_keeps _ _
    · exact go_keeps _ _
    · exact go_keeps _ _
    · exact nodeThen_keeps _ _ _
  · exact done_keeps _

theorem blockMappingNode_keeps (place : Place) : Explained text (blockMappingNode place) := by
  unfold blockMappingNode
  refine drop_keeps.bind fun _ => peek_keeps.bind fun token => ?_
  split
  · exact go_keeps _ _
  · exact go_keeps _ _
  · exact go_keeps _ _
  · exact nodeThen_keeps _ _ _

theorem blockMappingKey_keeps : Explained text blockMappingKey := by
  unfold blockMappingKey
  refine peek_keeps.bind fun token => ?_
  split
  · exact blockMappingNode_keeps _
  · exact drop_keeps.bind fun _ => done_keeps _
  · exact refuse_keeps

theorem blockMappingValue_keeps : Explained text blockMappingValue := by
  unfold blockMappingValue
  refine peek_keeps.bind fun token => ?_
  split
  · exact blockMappingNode_keeps _
  · exact go_keeps _ _

theorem comma_keeps (first : Bool) : Explained text (comma first) := by
  unfold comma
  refine .ite (peek_keeps.bind fun token => ?_) (.pure _)
  split
  · exact drop_keeps
  · exact refuse_keeps

theorem flowSequenceEntry_keeps (first : Bool) : Explained text (flowSequenceEntry first) := by
  unfold flowSequenceEntry
  refine peek_keeps.bind fun token => ?_
  split
  · exact drop_keeps.bind fun _ => done_keeps _
  · refine (comma_keeps first).bind fun _ => peek_keeps.bind fun token => ?_
    split
    · exact go_keeps _ _
    · exact drop_keeps.bind fun _ => done_keeps _
    · exact nodeThen_keeps _ _ _

theorem flowPairKey_keeps : Explained text flowPairKey := by
  unfold flowPairKey
  refine drop_keeps.bind fun _ => peek_keeps.bind fun token => ?_
  split
  · exact go_keeps _ _
  · exact go_keeps _ _
  · exact go_keeps _ _
  · exact nodeThen_keeps _ _ _

theorem flowPairValue_keeps : Explained text flowPairValue := by
  unfold flowPairValue
  refine peek_keeps.bind fun token => ?_
  split
  · refine drop_keeps.bind fun _ => peek_keeps.bind fun token => ?_
    split
    · exact go_keeps _ _
    · exact go_keeps _ _
    · exact nodeThen_keeps _ _ _
  · exact go_keeps _ _

theorem flowMappingKey_keeps (first : Bool) : Explained text (flowMappingKey first) := by
  unfold flowMappingKey
  refine peek_keeps.bind fun token => ?_
  split
  · exact drop_keeps.bind fun _ => done_keeps _
  · refine (comma_keeps first).bind fun _ => peek_keeps.bind fun token => ?_
    split
    · refine drop_keeps.bind fun _ => peek_keeps.bind fun token => ?_
      split
      · exact go_keeps _ _
      · exact go_keeps _ _
      · exact go_keeps _ _
      · exact nodeThen_keeps _ _ _
    · exact drop_keeps.bind fun _ => done_keeps _
    · exact nodeThen_keeps _ _ _

theorem flowMappingValue_keeps : Explained text flowMappingValue := by
  unfold flowMappingValue
  refine peek_keeps.bind fun token => ?_
  split
  · refine drop_keeps.bind fun _ => peek_keeps.bind fun token => ?_
    split
    · exact go_keeps _ _
    · exact go_keeps _ _
    · exact nodeThen_keeps _ _ _
  · exact go_keeps _ _

/-- A step of the grammar, from any place. -/
theorem step_keeps (place : Place) : Explained text (step place) := by
  cases place with
  | streamStart => exact drop_keeps.bind fun _ => go_keeps _ _
  | implicitDocument =>
      refine peek_keeps.bind fun token => ?_
      split
      · exact documentStart_keeps
      · exact documentStart_keeps
      · exact documentStart_keeps
      · exact Keeps.bind (.modify fun _ known => known) fun _ =>
          (returnTo_keeps _).bind fun _ => go_keeps _ _
  | documentStart => exact documentStart_keeps
  | documentContent =>
      refine peek_keeps.bind fun token => ?_
      split
      · exact done_keeps _
      · exact done_keeps _
      · exact done_keeps _
      · exact done_keeps _
      · exact node_keeps true false
  | documentEnd =>
      refine peek_keeps.bind fun token => ?_
      dsimp only
      split
      · exact drop_keeps.bind fun _ => go_keeps _ _
      · exact go_keeps _ _
  | blockNode => exact node_keeps true false
  | blockSequenceFirst => exact drop_keeps.bind fun _ => blockSequenceEntry_keeps
  | blockSequenceEntry => exact blockSequenceEntry_keeps
  | indentlessEntry => exact indentlessEntry_keeps
  | blockMappingFirst => exact drop_keeps.bind fun _ => blockMappingKey_keeps
  | blockMappingKey => exact blockMappingKey_keeps
  | blockMappingValue => exact blockMappingValue_keeps
  | flowSequenceFirst => exact drop_keeps.bind fun _ => flowSequenceEntry_keeps true
  | flowSequenceEntry => exact flowSequenceEntry_keeps false
  | flowPairKey => exact flowPairKey_keeps
  | flowPairValue => exact flowPairValue_keeps
  | flowPairEnd => exact peek_keeps.bind fun _ => go_keeps _ _
  | flowMappingFirst => exact drop_keeps.bind fun _ => flowMappingKey_keeps true
  | flowMappingKey => exact flowMappingKey_keeps false
  | flowMappingValue => exact flowMappingValue_keeps
  | flowMappingNoValue => exact peek_keeps.bind fun _ => go_keeps _ _

/-- What stops the steps of the grammar early is explained by the text. -/
theorem misread_of_walk {place : Place} {grammar : Grammar} {rounds : Nat}
    (known : Known text grammar) {fault : Fault}
    (stopped : (walk place grammar rounds).refusal = some fault) : Misread text fault := by
  induction rounds generalizing place grammar with
  | zero =>
      obtain rfl := Option.some.inj stopped
      exact known
  | succ rounds ih =>
      have stepped := step_keeps place grammar known
      unfold walk at stopped
      split at stopped
      · rename_i failed
        rw [show (step place).run grammar = _ from failed] at stepped
        obtain rfl := Option.some.inj stopped
        exact stepped
      · cases stopped
      · rename_i event next rest done
        rw [show (step place).run grammar = _ from done] at stepped
        exact ih stepped stopped

end Parse

theorem misread_of_events {text : List Char} {fault : Fault}
    (stopped : (events (tokens text)).refusal = some fault) : Misread text fault := by
  unfold events at stopped
  refine Parse.misread_of_walk ?_ stopped
  change Misread text ((tokens text).refusal.getD (.unreadable .grammar))
  cases ended : (tokens text).refusal with
  | none => exact .unreadable .grammar
  | some other => exact misread_of_tokens ended

/-! ## The tree -/

namespace Compose

variable {text : List Char} {α : Type}

/-- What is known of the end of the events is explained by the text. -/
def Known (text : List Char) (state : Composition) : Prop := Misread text state.refusal

/-- A step knows as much of the end of the events as before, or the text explains its fault. -/
abbrev Explained (text : List Char) (step : Compose α) : Prop :=
  Keeps (Misread text) (Known text) step

theorem refuse_keeps : Explained text (refuse : Compose α) :=
  .throw (.unreadable .composition)

theorem peek_keeps : Explained text peek := by
  unfold peek
  refine .get_bind fun state known => ?_
  split
  · exact .pure _
  · exact .get_bind fun _ later => .throw later

theorem drop_keeps : Explained text drop :=
  peek_keeps.bind fun _ => .modify fun _ known => known

theorem name_keeps (anchor : Option String) (node : Node) : Explained text (name anchor node) := by
  unfold name
  split
  · exact .pure _
  · exact .modify fun _ known => known

theorem requireFresh_keeps (anchor : Option String) : Explained text (requireFresh anchor) :=
  .get_bind fun _ _ => .ite refuse_keeps (.pure _)

/-- Nodes, items and pairs, whatever their number is bounded by. -/
theorem node_items_pairs_keep (rounds : Nat) :
    Explained text (node rounds) ∧
      Explained text (items rounds) ∧
      Explained text (pairs rounds) := by
  induction rounds with
  | zero => exact ⟨refuse_keeps, refuse_keeps, refuse_keeps⟩
  -- Each calls the others with one round less.
  | succ rounds ih =>
      obtain ⟨nodeKeeps, itemsKeep, pairsKeep⟩ := ih
      refine ⟨?_, ?_, ?_⟩
      · unfold node
        refine peek_keeps.bind fun event => ?_
        split
        · refine drop_keeps.bind fun _ => .get_bind fun _ _ => ?_
          split
          · exact .pure _
          · exact refuse_keeps
        · exact (requireFresh_keeps _).bind fun _ => drop_keeps.bind fun _ =>
            (name_keeps _ _).bind fun _ => .pure _
        · refine (requireFresh_keeps _).bind fun _ => drop_keeps.bind fun _ => ?_
          exact (name_keeps _ _).bind fun _ => itemsKeep.bind fun _ =>
            (name_keeps _ _).bind fun _ => .pure _
        · refine (requireFresh_keeps _).bind fun _ => drop_keeps.bind fun _ => ?_
          exact (name_keeps _ _).bind fun _ => pairsKeep.bind fun _ =>
            (name_keeps _ _).bind fun _ => .pure _
        · exact refuse_keeps
      · unfold items
        refine peek_keeps.bind fun event => ?_
        split
        · exact drop_keeps.bind fun _ => .pure _
        · exact nodeKeeps.bind fun _ => itemsKeep.bind fun _ => .pure _
      · unfold pairs
        refine peek_keeps.bind fun event => ?_
        split
        · exact drop_keeps.bind fun _ => .pure _
        · exact nodeKeeps.bind fun _ => nodeKeeps.bind fun _ => pairsKeep.bind fun _ => .pure _

/-- Nothing but the end of the events follows a document. -/
theorem endsThen_keeps (result : Option Node) : Explained text (do
    match ← peek with
    | .streamEnd => return result
    | _ => refuse) := by
  refine peek_keeps.bind fun event => ?_
  split
  · exact .pure _
  · exact refuse_keeps

theorem document_keeps : Explained text document := by
  unfold document
  refine .get_bind fun state _ => drop_keeps.bind fun _ => peek_keeps.bind fun event => ?_
  dsimp only
  split
  · exact (Keeps.pure _).bind fun _ => endsThen_keeps _
  · refine drop_keeps.bind fun _ => (node_items_pairs_keep _).1.bind fun _ => ?_
    exact drop_keeps.bind fun _ => (Keeps.pure _).bind fun _ => endsThen_keeps _

theorem misread_of_document {state : Composition} (known : Known text state) {fault : Fault}
    (failed : document.run' state = .error fault) : Misread text fault := by
  have composed := document_keeps state known
  rw [StateT.run'_eq] at failed
  cases run : document.run state with
  | ok answer =>
      rw [run] at failed
      cases failed
  | error other =>
      rw [run] at failed composed
      obtain rfl := Except.error.inj failed
      exact composed

end Compose

/-- A text has no tree only if it is not read. -/
theorem misread_of_ofEvents? {text : List Char} {fault : Fault}
    (failed : Node.ofEvents? (events (tokens text)) = .error fault) : Misread text fault := by
  refine Compose.misread_of_document ?_ failed
  change Misread text ((events (tokens text)).refusal.getD (.unreadable .composition))
  cases ended : (events (tokens text)).refusal with
  | none => exact .unreadable .composition
  | some other => exact misread_of_events ended

end BrowserScript.Yaml

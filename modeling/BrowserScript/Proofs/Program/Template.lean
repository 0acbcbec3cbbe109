import BrowserScript.Program.Compile
import BrowserScript.Proofs.Value.OneLine

/-!
# Templates of blocks

A block is program text of its own with the literals of values in it. The template of a block says
which text is fixed and which values are written, and where. A computation that reads a payload and
writes a block is followed step by step by one that reads the same entries and gives the template.
Every line starts with program text and takes up payloads as literals only, so that no payload,
accepted or not, can start a further line.
-/

namespace BrowserScript

open Text

abbrev IsProgramLine (line : String) : Prop := IsLine line.toList

/-- A block of one line or more, none of which is blank or holds a line break. -/
def Block.HoldsLines (block : Block) : Prop := block ≠ [] ∧ ∀ line ∈ block, IsProgramLine line

instance (block : Block) : Decidable block.HoldsLines :=
  inferInstanceAs (Decidable (_ ∧ _))

theorem Block.holdsLines_single {line : String} (isLine : IsProgramLine line) :
    Block.HoldsLines [line] :=
  ⟨List.cons_ne_nil _ _, List.forall_mem_singleton.2 isLine⟩

/-- A line that goes on with a text without line breaks is a line. -/
theorem Text.IsLine.followedBy {line part : String} (isLine : IsProgramLine line)
    (unbroken : Unbroken part.toList) : IsProgramLine (line ++ part) := by
  rw [IsProgramLine, String.toList_append]
  exact isLine.append unbroken

theorem acknowledge_isLine (name : String) : IsProgramLine (Block.acknowledge name) := by
  have quoted : Unbroken (String.ofList (Quoted.encode ("✅ Step " ++ name).toList)).toList := by
    rw [String.toList_ofList]
    exact Quoted.encode_unbroken _
  exact (IsLine.followedBy (by decide) quoted).followedBy (by decide)

/-- A part of a program line: fixed text, or the literal of a value. -/
inductive Piece where
  | code (text : String)
  | literal (value : Value)

namespace Piece

variable {pieces : List Piece} {text : String}

def write : Piece → Except Fault String
  | .code text => .ok text
  | .literal value => value.literalText

def value? : Piece → Option Value
  | .code _ => none
  | .literal value => some value

def writeAll : List Piece → Except Fault String
  | [] => .ok ""
  | piece :: pieces => do
      let text ← piece.write
      return text ++ (← writeAll pieces)

def separated : List (List Piece) → List Piece
  | [] => []
  | [part] => part
  | part :: parts => part ++ .code ", " :: separated parts

def literals (values : List Value) : List Piece :=
  separated (values.map fun value => [.literal value])

def call (start : String) (values : List Value) (finish : String) : List Piece :=
  .code start :: literals values ++ [.code finish]

/-- Named arguments of a call; null ones are left out. -/
def arguments (options : List (String × Value)) : List Piece :=
  separated ((options.filter fun option => !option.2.isNull).map fun option =>
    [.code (option.1 ++ "="), .literal option.2])

def reportStart : List Char := "print(".toList

def differs (text : List Char) : Bool :=
  !reportStart.isPrefixOf text && !text.isPrefixOf reportStart

def startsLine (text : List Char) : Bool := differs text && decide (IsLine text)

/-- Whether a piece holds no line break, as literals never do. -/
def isPlain : Piece → Bool
  | .code text => decide (Unbroken text.toList)
  | .literal _ => true

theorem differs_append {text : List Char} (start : differs text = true) (rest : List Char) :
    differs (text ++ rest) = true := by
  simp only [differs, Bool.and_eq_true, Bool.not_eq_true', ← Bool.not_eq_true,
    List.isPrefixOf_iff_prefix] at start ⊢
  refine ⟨fun longer => ?_, fun shorter => start.2 ((List.prefix_append _ _).trans shorter)⟩
  -- Two starts of one text are comparable, and neither of these is a start of the other.
  rcases List.prefix_or_prefix_of_prefix longer (List.prefix_append _ _) with below | below
  · exact start.1 below
  · exact start.2 below

theorem startsLine_append {text rest : List Char} (starts : startsLine text = true)
    (unbroken : Unbroken rest) : startsLine (text ++ rest) = true := by
  obtain ⟨apart, isLine⟩ := Bool.and_eq_true_iff.1 starts
  exact Bool.and_eq_true_iff.2 ⟨differs_append apart rest,
    decide_eq_true ((of_decide_eq_true isLine).append unbroken)⟩

@[simp] theorem writeAll_nil : writeAll [] = .ok "" := rfl

@[simp] theorem writeAll_code (text : String) (pieces : List Piece) :
    writeAll (.code text :: pieces) = (writeAll pieces).map (text ++ ·) := by
  rw [writeAll]
  cases writeAll pieces <;> rfl

theorem writeAll_literal {value : Value} (written : value.literalText = .ok text)
    (pieces : List Piece) :
    writeAll (.literal value :: pieces) = (writeAll pieces).map (text ++ ·) := by
  rw [writeAll, write, written]
  cases writeAll pieces <;> rfl

theorem writeAll_append {left right : List Piece} {start rest : String}
    (first : writeAll left = .ok start) (second : writeAll right = .ok rest) :
    writeAll (left ++ right) = .ok (start ++ rest) := by
  induction left generalizing start with
  | nil =>
      cases first
      rw [List.nil_append, second, String.empty_append]
  | cons piece left ih =>
      rw [writeAll] at first
      obtain ⟨text, written, first⟩ := bind_eq_ok first
      obtain ⟨others, further, first⟩ := bind_eq_ok first
      cases first
      rw [List.cons_append, writeAll, written, ih further, String.append_assoc]
      rfl

/-- Fixed text around pieces. -/
theorem writeAll_around (start finish : String) (written : writeAll pieces = .ok text) :
    writeAll (.code start :: pieces ++ [.code finish]) = .ok (start ++ text ++ finish) := by
  have ended : writeAll (pieces ++ [.code finish]) = .ok (text ++ finish) :=
    writeAll_append written (by simp [Except.map])
  rw [List.cons_append, writeAll_code, ended, String.append_assoc]
  rfl

@[simp] theorem literals_single (value : Value) : literals [value] = [.literal value] := rfl

@[simp] theorem literals_pair (first second : Value) :
    literals [first, second] = [.literal first, .code ", ", .literal second] := rfl

@[simp] theorem literals_triple (first second third : Value) :
    literals [first, second, third] =
      [.literal first, .code ", ", .literal second, .code ", ", .literal third] := rfl

/-- A call with one literal. -/
theorem writeAll_call {value : Value} (start finish : String)
    (written : value.literalText = .ok text) :
    writeAll (call start [value] finish) = .ok (start ++ text ++ finish) :=
  writeAll_around start finish (by simp [writeAll_literal written, Except.map])

/-- Parts are written with commas between them. -/
theorem writeAll_separated {α : Type} {parts : α → List Piece} {write : α → Except Fault String}
    (each : ∀ item text, write item = .ok text → writeAll (parts item) = .ok text)
    {items : List α} {texts : List String} (written : items.mapM write = .ok texts) :
    writeAll (separated (items.map parts)) = .ok (String.intercalate ", " texts) := by
  induction items generalizing texts with
  | nil =>
      cases written
      rfl
  | cons item items ih =>
      rw [List.mapM_cons] at written
      obtain ⟨text, first, written⟩ := bind_eq_ok written
      obtain ⟨others, further, written⟩ := bind_eq_ok written
      cases written
      cases items with
      | nil =>
          cases further
          exact each item text first
      | cons next items =>
          have more : others ≠ [] := by
            rintro rfl
            rw [List.mapM_cons] at further
            obtain ⟨_, _, further⟩ := bind_eq_ok further
            obtain ⟨_, _, further⟩ := bind_eq_ok further
            cases further
          have rest : writeAll (.code ", " :: separated ((next :: items).map parts)) =
              .ok (", " ++ String.intercalate ", " others) := by
            rw [writeAll_code, ih further]
            rfl
          rw [String.intercalate_cons_of_ne_nil more, String.append_assoc]
          exact writeAll_append (each item text first) rest

/-- Named arguments are written with their names. -/
theorem writeAll_arguments {options : List (String × Value)}
    (written : Block.arguments (options.map fun option => (.str option.1, option.2)) = .ok text) :
    writeAll (arguments options) = .ok text := by
  obtain ⟨parts, each, written⟩ := bind_eq_ok written
  cases written
  rw [List.filter_map, List.mapM_map] at each
  refine writeAll_separated (fun option part literal => ?_) each
  obtain ⟨name, shown, literal⟩ := bind_eq_ok literal
  obtain ⟨value, found, literal⟩ := bind_eq_ok literal
  cases shown
  cases literal
  simp [writeAll_literal found, Except.map, String.append_assoc]

theorem writeAll_unbroken
    (plain : pieces.all isPlain = true) (written : writeAll pieces = .ok text) :
    Unbroken text.toList := by
  induction pieces generalizing text with
  | nil =>
      cases written
      exact unbroken_nil
  | cons piece pieces ih =>
      obtain ⟨first, others⟩ := Bool.and_eq_true_iff.1 plain
      obtain ⟨start, shown, written⟩ := bind_eq_ok written
      obtain ⟨rest, further, written⟩ := bind_eq_ok written
      cases written
      rw [String.toList_append]
      refine unbroken_append.2 ⟨?_, ih others further⟩
      cases piece with
      | code text =>
          cases shown
          exact of_decide_eq_true first
      | literal value => exact Value.literalText_unbroken value start shown

theorem startsLine_of_written {start line : String}
    (starts : startsLine start.toList = true) (plain : pieces.all isPlain = true)
    (written : writeAll (.code start :: pieces) = .ok line) : startsLine line.toList = true := by
  obtain ⟨_, same, written⟩ := bind_eq_ok written
  obtain ⟨rest, others, written⟩ := bind_eq_ok written
  cases same
  cases written
  rw [String.toList_append]
  exact startsLine_append starts (writeAll_unbroken plain others)

theorem plain_separated {parts : List (List Piece)} (each : ∀ part ∈ parts, part.all isPlain = true) :
    (separated parts).all isPlain = true := by
  induction parts with
  | nil => rfl
  | cons part parts ih =>
      obtain ⟨first, others⟩ := List.forall_mem_cons.1 each
      cases parts with
      | nil => exact first
      | cons next parts =>
          rw [separated, List.all_append, first, List.all_cons, ih others]
          · rfl
          · rintro ⟨⟩

theorem plain_literals (values : List Value) (finish : String) (unbroken : Unbroken finish.toList) :
    (literals values ++ [code finish]).all isPlain = true := by
  rw [List.all_append, literals, plain_separated fun part member => ?_]
  · simp [isPlain, unbroken]
  · obtain ⟨value, _, rfl⟩ := List.mem_map.1 member
    rfl

theorem plain_arguments {options : List (String × Value)} (names : List String)
    (same : options.map (·.1) = names) (plain : ∀ name ∈ names, Unbroken (name ++ "=").toList) :
    (arguments options ++ [code ")"]).all isPlain = true := by
  rw [List.all_append, arguments, plain_separated fun part member => ?_]
  · decide
  · obtain ⟨option, kept, rfl⟩ := List.mem_map.1 member
    have named : option.1 ∈ names := same ▸ List.mem_map_of_mem (List.mem_filter.1 kept).1
    rw [List.all_cons, isPlain, decide_eq_true (plain option.1 named)]
    rfl

end Piece

abbrev Template := List (List Piece)

namespace Template

variable {pieces : List Piece} {start : String}

def write (template : Template) : Except Fault Block := template.mapM Piece.writeAll

def values (template : Template) : List Value := template.flatten.filterMap Piece.value?

def ofBlock (block : Block) : Template := block.map fun line => [.code line]

/-- A template fits lines if they are the template filled in, and each of them is one line and no
report. -/
structure Fits (template : Template) (block : Block) : Prop where
  written : template.write = .ok block
  each : ∀ line ∈ block, Piece.startsLine line.toList = true

structure Fills (template : Template) (block : Block) : Prop extends Fits template block where
  nonempty : block ≠ []

/-- A computed block is made from a computed template: if the block is written, the template is
found and stands in a relation to it. -/
def MakesBy (relation : Template → Block → Prop) (template : Except Fault Template)
    (outcome : Except Fault Block) : Prop :=
  Returns (fun block => ∃ found, template = .ok found ∧ relation found block) outcome

/-- A computed block is made from a computed template that it fills. -/
abbrev Makes (template : Except Fault Template) (outcome : Except Fault Block) : Prop :=
  MakesBy Fills template outcome

theorem Fits.nil : Fits [] [] := ⟨rfl, List.forall_mem_nil _⟩

theorem Fits.add {line : String} {template : Template} {block : Block}
    (written : Piece.writeAll (.code start :: pieces) = .ok line)
    (starts : Piece.startsLine start.toList = true) (plain : pieces.all Piece.isPlain = true)
    (rest : Fits template block) : Fits ((.code start :: pieces) :: template) (line :: block) := by
  refine ⟨?_, List.forall_mem_cons.2 ⟨Piece.startsLine_of_written starts plain written, rest.each⟩⟩
  have others : template.mapM Piece.writeAll = .ok block := rest.written
  rw [write, List.mapM_cons, written, others]
  rfl

/-- A line that starts with a given text is looked at through its characters. -/
theorem Fits.cons {line : String} {chars : List Char} {template : Template} {block : Block}
    (written : Piece.writeAll (.code start :: pieces) = .ok line)
    (same : start = String.ofList chars) (starts : Piece.startsLine chars = true)
    (plain : pieces.all Piece.isPlain = true)
    (rest : Fits template block) : Fits ((.code start :: pieces) :: template) (line :: block) := by
  refine .add written ?_ plain rest
  rw [same, String.toList_ofList]
  exact starts

theorem Fits.single {line : String} {chars : List Char}
    (written : Piece.writeAll (.code start :: pieces) = .ok line)
    (same : start = String.ofList chars) (starts : Piece.startsLine chars = true)
    (plain : pieces.all Piece.isPlain = true) :
    Fits [.code start :: pieces] [line] := .cons written same starts plain .nil

/-- A line without literals. -/
theorem Fits.line {line : String} {chars : List Char} {template : Template} {block : Block}
    (same : line = String.ofList chars) (starts : Piece.startsLine chars = true)
    (rest : Fits template block) : Fits ([.code line] :: template) (line :: block) :=
  .cons (by simp [Except.map]) same starts rfl rest

theorem Fits.append {first second : Template} {left right : Block} (start : Fits first left)
    (rest : Fits second right) : Fits (first ++ second) (left ++ right) := by
  refine ⟨?_, List.forall_mem_append.2 ⟨start.each, rest.each⟩⟩
  have one : first.mapM Piece.writeAll = .ok left := start.written
  have two : second.mapM Piece.writeAll = .ok right := rest.written
  rw [write, List.mapM_append, one, two]
  rfl

theorem fits_ofBlock {block : Block}
    (starts : block.all (fun line => Piece.startsLine line.toList) = true) :
    Fits (ofBlock block) block := by
  induction block with
  | nil => exact .nil
  | cons line block ih =>
      obtain ⟨first, others⟩ := Bool.and_eq_true_iff.1 starts
      exact .add (by simp [Except.map]) first rfl (ih others)

theorem Fills.holdsLines {template : Template} {block : Block} (fills : Fills template block) :
    block.HoldsLines := by
  refine ⟨fills.nonempty, fun line member => ?_⟩
  exact of_decide_eq_true (Bool.and_eq_true_iff.1 (fills.each line member)).2

/-- No line of a block that is made from a template starts like a report. -/
theorem Fits.not_report {template : Template} {block : Block} (fits : Fits template block) :
    ∀ line ∈ block, Piece.reportStart.isPrefixOf line.toList = false := by
  intro line member
  have differs := (Bool.and_eq_true_iff.1 (fits.each line member)).1
  simpa using (Bool.and_eq_true_iff.1 differs).1

/-! ## Computations -/

theorem makes_ok {template : Template} {line : String} {block : Block}
    (fits : Fits template (line :: block)) : Makes (.ok template) (.ok (line :: block)) :=
  .ok ⟨template, rfl, fits, List.cons_ne_nil _ _⟩

variable {α : Type} {relation : Template → Block → Prop}

/-- What both computations read first is the same. -/
theorem makes_bind {read : Except Fault α} {template : α → Except Fault Template}
    {outcome : α → Except Fault Block}
    (rest : ∀ value, read = .ok value → MakesBy relation (template value) (outcome value)) :
    MakesBy relation (read >>= template) (read >>= outcome) := by
  intro block written
  obtain ⟨value, found, written⟩ := bind_eq_ok written
  rw [found]
  exact rest value found block written

/-- A step of the block alone, such as writing a literal. -/
theorem makes_after {step : Except Fault α} {template : Except Fault Template}
    {outcome : α → Except Fault Block}
    (rest : ∀ value, step = .ok value → MakesBy relation template (outcome value)) :
    MakesBy relation template (step >>= outcome) := by
  intro block written
  obtain ⟨value, found, written⟩ := bind_eq_ok written
  exact rest value found block written

theorem makes_ofBlock {outcome : Except Fault Block}
    (each : Returns (fun block => block ≠ [] ∧
      block.all (fun line => Piece.startsLine line.toList) = true) outcome) :
    Makes (ofBlock <$> outcome) outcome := by
  intro block written
  obtain ⟨nonempty, starts⟩ := each block written
  exact ⟨ofBlock block, by rw [written]; rfl, fits_ofBlock starts, nonempty⟩

end Template

end BrowserScript

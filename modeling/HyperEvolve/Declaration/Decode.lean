import HyperEvolve.Declaration.Tree
import HyperEvolve.Document.Reader
import HyperEvolve.Text.Lines

/-!
# Reading declaration trees

Decoding collects every fault of a tree, each with the path that leads to it. Fields are visited in
the order of their declaration, unknown fields are skipped, and of a repeated field the last one
counts. Where two shapes are allowed and none fits, the faults of both are reported. A part of a triple
has two names; a fault in it names the one that is there.
-/

namespace HyperEvolve

namespace Tree

/-- One step on the way to a fault. -/
inductive Step where
  | index (i : Nat)
  | field (name : String)
deriving DecidableEq, Repr

inductive FaultKind where
  | jsonInvalid
  | listType
  | stringType
  | stringUnicode
  | dictType
  | missing
  | tagNotFound
  | tagInvalid
  | intType
  | intParsing
  | intParsingSize
  | intFromFloat
  | finiteNumber
  | negative
deriving DecidableEq, Repr

def FaultKind.label : FaultKind → String
  | .jsonInvalid => "json_invalid"
  | .listType => "list_type"
  | .stringType => "string_type"
  | .stringUnicode => "string_unicode"
  | .dictType => "dict_type"
  | .missing => "missing"
  | .tagNotFound => "union_tag_not_found"
  | .tagInvalid => "union_tag_invalid"
  | .intType => "int_type"
  | .intParsing => "int_parsing"
  | .intParsingSize => "int_parsing_size"
  | .intFromFloat => "int_from_float"
  | .finiteNumber => "finite_number"
  | .negative => "greater_than_equal"

structure Fault where
  path : List Step
  kind : FaultKind
deriving DecidableEq, Repr

/-- A decoded value, or all the faults found. -/
abbrev Checked (α : Type) := Except (List Fault) α

namespace Checked

def fault {α : Type} (kind : FaultKind) : Checked α := .error [⟨[], kind⟩]

/-- Places all faults below a further step. -/
def under {α : Type} (step : Step) : Checked α → Checked α
  | .ok a => .ok a
  | .error fs => .error (fs.map fun f => { f with path := step :: f.path })

/-- Applies a decoded function, with the faults of both sides in order. -/
def ap {α β : Type} : Checked (α → β) → Checked α → Checked β
  | .ok f, .ok a => .ok (f a)
  | .ok _, .error gs => .error gs
  | .error fs, .ok _ => .error fs
  | .error fs, .error gs => .error (fs ++ gs)

/-- The first alternative that fits; otherwise the faults of both, each under its own name. -/
def orElse {α : Type} (first : String × Checked α) (second : String × Checked α) : Checked α :=
  match first.2, second.2 with
  | .ok a, _ => .ok a
  | _, .ok b => .ok b
  | .error fs, .error gs =>
    ap (under (.field first.1) (.error fs : Checked (α → α))) (under (.field second.1) (.error gs))

end Checked

abbrev Fields := List (Text × Document)

/-- A field that must be present, under the name that faults show. -/
def required {α : Type} (shown : String) (value : Option Document) (decode : Document → Checked α) :
    Checked α :=
  match value with
  | none => (Checked.fault .missing).under (.field shown)
  | some d => (decode d).under (.field shown)

/-- A field with a default. -/
def optional {α : Type} (fields : Fields) (name : String) (default : α)
    (decode : Document → Checked α) : Checked α :=
  match Document.field? fields name with
  | none => .ok default
  | some d => (decode d).under (.field name)

def field {α : Type} (fields : Fields) (name : String) (decode : Document → Checked α) : Checked α :=
  required name (Document.field? fields name) decode

/-- An object whose field `type` selects the decoder. -/
def tagged {α : Type} (select : String → Option (Fields → Checked α)) : Document → Checked α
  | .object fields =>
    match Document.field? fields "type" with
    | none => Checked.fault .tagNotFound
    | some (.text tag) =>
      match select tag.toString with
      | some decode => (decode fields).under (.field tag.toString)
      | none => Checked.fault .tagInvalid
    | some _ => Checked.fault .tagInvalid
  | _ => Checked.fault .dictType

def elements {α : Type} (decode : Document → Checked α) : Nat → List Document → Checked (List α)
  | _, [] => .ok []
  | i, d :: ds =>
    Checked.ap (((decode d).under (.index i)).map List.cons) (elements decode (i + 1) ds)

def list {α : Type} (decode : Document → Checked α) : Document → Checked (List α)
  | .array ds => elements decode 0 ds
  | _ => Checked.fault .listType

def string : Document → Checked String
  | .text t => if t.isScalar then .ok t.toString else Checked.fault .stringUnicode
  | _ => Checked.fault .stringType

def group : Document → Checked Group := list string

def groups : Document → Checked (List Group) := list group

/-! ## Counts -/

/-- Every Unicode space and the controls that move the position. -/
def isSpace (c : Char) : Bool := Text.isBlank c && !(28 ≤ c.toNat && c.toNat ≤ 31)

/-- What remains of a number after leading zeros, with underscores between and after them; `last` is
the character in front. A number of zeros only keeps its last character, and a fraction the one before
its point. -/
def afterZeros (last : Char) : List Char → Option (List Char)
  | [] => some [last]
  | c :: cs =>
    if c = '0' || c = '_' then afterZeros c cs
    else if c = '.' then some (last :: c :: cs)
    else if c = '-' || c.isDigit then some (c :: cs)
    else none

def dropZeros : List Char → Option (List Char)
  | [] => none
  | c :: cs => if c = '0' then afterZeros c cs else if c.isDigit then some (c :: cs) else none

/-- Drops a fraction of zeros. -/
def dropFraction (cs : List Char) : Option (List Char) :=
  match cs.dropWhile (· ≠ '.') with
  | [] => some cs
  | _ :: zeros =>
    if !zeros.isEmpty && zeros.all (· = '0') then some (cs.takeWhile (· ≠ '.')) else none

/-- Drops single underscores inside a number; `before` says that something else stands in front. -/
def dropBars (before : Bool) : List Char → Option (List Char)
  | [] => if before then some [] else none
  | c :: cs =>
    if c = '_' then if before then dropBars false cs else none
    else (dropBars true cs).map (c :: ·)

/-- Digits without a needless zero in front, and not too many of them. -/
def plainDigits? (cs : List Char) : Option Nat :=
  if cs.isEmpty || !cs.all Char.isDigit || (cs.head? = some '0' && cs ≠ ['0']) then none
  else if Decimal.maxDigits < cs.length then none
  else some (cs.foldl (fun n c => n * 10 + (c.toNat - 48)) 0)

def signedDigits? : List Char → Option Int
  | '-' :: cs => (plainDigits? cs).map fun n => -(n : Int)
  | cs => (plainDigits? cs).map Int.ofNat

/-- An integer written as text: spaces around it, a sign, digits, and a fraction of zeros. -/
def intOfText? (s : String) : Option Int := do
  let cs := ((s.toList.dropWhile isSpace).reverse.dropWhile isSpace).reverse
  let (negative, body) := match cs with
    | '-' :: r => (true, r)
    | '+' :: r => (false, r)
    | r => (false, r)
  let body ← dropBars false (← dropFraction (← dropZeros body))
  signedDigits? (if negative then '-' :: body else body)

/-- A text that begins with a number of too many digits, whatever follows them. -/
def startsTooLong (s : String) : Bool :=
  let body := match s.toList with
    | '-' :: r => r
    | r => r
  body.head? ≠ some '0' && Decimal.maxDigits < (body.takeWhile Char.isDigit).length

/-- A number without fraction inside the range of signed words of 64 bits. -/
def intOfFloat (x : Float) : Checked Int :=
  match Decimal.parts x with
  | .nan | .infinite _ => Checked.fault .finiteNumber
  | .zero _ => .ok 0
  | .finite negative v =>
    let (num, den) := v.quarters
    if num % den ≠ 0 then Checked.fault .intFromFloat
    else if num / den < 0x8000000000000000 then
      let n : Int := (num / den : Nat)
      .ok (if negative then -n else n)
    else Checked.fault .intParsingSize

def integer : Document → Checked Int
  | .int n => .ok n
  | .bool b => .ok (if b then 1 else 0)
  | .float x => intOfFloat x
  | .text t =>
    if startsTooLong t.toString then Checked.fault .intParsingSize
    else match intOfText? t.toString with
      | some n => .ok n
      | none => Checked.fault .intParsing
  | _ => Checked.fault .intType

def count : Document → Checked (Option Nat)
  | .null => .ok none
  | d => do
    let n ← integer d
    if n < 0 then Checked.fault .negative else .ok (some n.toNat)

/-! ## Declarations -/

def inlineItem (fields : Fields) : Checked Item :=
  (optional fields "value" [] group).map Item.inline

def arrayRefItem (fields : Fields) : Checked Item :=
  (field fields "name" string).map Item.arrayRef

def ruleRefItem (fields : Fields) : Checked Item :=
  (field fields "name" string).map Item.ruleRef

def selectItem : String → Option (Fields → Checked Item)
  | "inline" => some inlineItem
  | "varRef" => some arrayRefItem
  | "ruleRef" => some ruleRefItem
  | _ => none

def item : Document → Checked Item := tagged selectItem

/-- A part of a triple, under its letter or, when that is absent, under its word. A part that lacks both
is missed under its letter. -/
def part (fields : Fields) (letter word : String) : Checked Item :=
  match Document.field? fields letter, Document.field? fields word with
  | none, some d => required word (some d) item
  | d?, _ => required letter d? item

theorem part_of_letter {fields : Fields} {letter word : String} {d : Document}
    (h : Document.field? fields letter = some d) :
    part fields letter word = (item d).under (.field letter) := by
  rw [part, h]
  rfl

theorem part_of_word {fields : Fields} {letter word : String} {d : Document}
    (hletter : Document.field? fields letter = none) (h : Document.field? fields word = some d) :
    part fields letter word = (item d).under (.field word) := by
  rw [part, hletter, h]
  rfl

def tripleBody (fields : Fields) : Checked RuleBody :=
  Checked.ap (Checked.ap ((part fields "L" "left").map RuleBody.triple)
    (part fields "I" "interface")) (part fields "R" "right")

def sequenceBody (fields : Fields) : Checked RuleBody :=
  (optional fields "items" [] (list item)).map RuleBody.sequence

def selectBody : String → Option (Fields → Checked RuleBody)
  | "triple" => some tripleBody
  | "sequence" => some sequenceBody
  | _ => none

def body : Document → Checked RuleBody := tagged selectBody

def source (d : Document) : Checked Source :=
  Checked.orElse ("str", (string d).map Source.name)
    ("list[list[str]]", (groups d).map Source.groups)

def selectRule (tag : String) : Option (Fields → Checked StateRule) :=
  match selectBody tag with
  | some decode => some fun fields => (decode fields).map StateRule.body
  | none => (selectItem tag).map fun decode fields => (decode fields).map StateRule.item

def stateRule (d : Document) : Checked StateRule :=
  Checked.orElse
    ("tagged-union[Triple,Sequence,Inline,VarRef,RuleRef]", tagged selectRule d)
    ("list[tagged-union[Inline,VarRef,RuleRef]]", (list item d).map StateRule.items)

def arrayDecl (fields : Fields) : Checked Declaration :=
  Checked.ap ((field fields "name" string).map Declaration.array)
    (optional fields "value" [] groups)

def ruleDecl (fields : Fields) : Checked Declaration :=
  Checked.ap ((field fields "name" string).map Declaration.rule) (field fields "body" body)

def stateDecl (fields : Fields) : Checked Declaration :=
  (Checked.ap (Checked.ap (Checked.ap
    ((field fields "name" string).map StateDecl.mk)
    (field fields "source" source))
    (field fields "rule" stateRule))
    (optional fields "count" none count)).map Declaration.state

def selectDeclaration : String → Option (Fields → Checked Declaration)
  | "array" => some arrayDecl
  | "rule" => some ruleDecl
  | "state" => some stateDecl
  | _ => none

def declaration : Document → Checked Declaration := tagged selectDeclaration

def declarations : Document → Checked (List Declaration) := list declaration

/-- Greatest nesting of a declaration tree. -/
def maxNesting : Nat := 200

/-- Reads a text as a document; neither may hold a surrogate that stands alone, and the document may not
be nested too deeply. -/
def document (text : Text) : Checked Document :=
  if !text.isScalar then Checked.fault .stringUnicode
  else match Document.read text with
    | .ok d => if d.isScalar && d.nesting ≤ maxNesting then .ok d else Checked.fault .jsonInvalid
    | .error _ => Checked.fault .jsonInvalid

end Tree

/-- The declarations of a tree given as text, or every fault found. -/
def parseDeclarations (text : Text) : Tree.Checked (List Declaration) := do
  Tree.declarations (← Tree.document text)

end HyperEvolve

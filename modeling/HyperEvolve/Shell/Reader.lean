import HyperEvolve.Shell.Syntax

/-!
# Reading scripts

A script is read command by command: what stands on later lines is looked at only when the commands
before it have been read.
-/

namespace HyperEvolve

namespace Shell

/-- What is wrong with a script, and on which line. -/
structure SyntaxError where
  line : Nat
  text : String
deriving DecidableEq, Repr

inductive Token where
  | word (w : Word)
  | operator (sign : String)
  | redirection (descriptor : Option Nat) (sign : String)
  | newline
  | ending

/-- The keyword that a token is where a command may begin. -/
def Token.keyword? : Token → Option String
  | .word w => (bareText? w).filter keywords.contains
  | _ => none

/-- How a token is named in a complaint. -/
def Token.shown (t : Token) : String :=
  match t, t.keyword? with
  | _, some k => "\"" ++ k ++ "\""
  | .word _, _ => "word"
  | .operator s, _ => "\"" ++ s ++ "\""
  | .redirection _ _, _ => "redirection"
  | .newline, _ => "newline"
  | .ending, _ => "end of file"

/-- A script that is being read: what is left of it and the token in front of that, if one has been
looked at. -/
structure Source where
  chars : List Char
  line : Nat
  ahead : Option Token
  /-- How many lines have been taken out after the current one. -/
  hidden : Nat
  /-- Names that stand for other text where a command begins. -/
  aliases : List (String × String)
  /-- Names whose text is being read, with how much of the script follows it. -/
  replaced : List (String × Nat)

abbrev Reading := StateT Source (Except SyntaxError)

namespace Reading

def fail {α : Type} (text : String) : Reading α := do throw ⟨(← get).line, text⟩

def unexpected {α : Type} (t : Token) (wanted : Option String) : Reading α :=
  fail ("Syntax error: " ++ t.shown ++ " unexpected" ++
    match wanted with
    | some "word" => " (expecting word)"
    | some w => " (expecting \"" ++ w ++ "\")"
    | none => "")

/-- Moves over some characters. -/
def advance (n : Nat) : Reading Unit :=
  modify fun s =>
    let lines := (s.chars.take n).count '\n'
    { s with
      chars := s.chars.drop n
      line := s.line + lines + if lines = 0 then 0 else s.hidden
      hidden := if lines = 0 then s.hidden else 0 }

/-- The characters up to the first that is not of a class. -/
def takeWhile (p : Char → Bool) : Reading (List Char) := do
  let taken := (← get).chars.takeWhile p
  advance taken.length
  return taken

end Reading

open Reading

def backquote : Char := Char.ofNat 96

/-- Where parts of a word stand, which decides what ends them and what is special in them. -/
inductive Context where
  | bare
  | double
  | braces (quoted : Bool)
  | here
  | arithmetic (depth : Nat)
deriving DecidableEq

namespace Context

def isQuoted : Context → Bool
  | .bare => false
  | .braces q => q
  | _ => true

/-- Characters that a backslash protects where it does not protect all. -/
def protects (k : Context) (c : Char) : Bool :=
  c = '$' || c = backquote || c = '\\' || (c = '"' && k ≠ .here) || (c = '\x7d' && k = .braces true)

end Context

def endsWord (c : Char) : Bool :=
  c = ' ' || c = '\t' || c = '\n' || c = ';' || c = '&' || c = '|' || c = '<' || c = '>' || c = '(' ||
    c = ')'

/-- A character in front of the parts of a word. -/
def addChar (quoted : Bool) (c : Char) : Word → Word
  | .text s :: ps =>
    if quoted then .quoted (String.singleton c) :: .text s :: ps
    else .text (String.singleton c ++ s) :: ps
  | .quoted s :: ps =>
    if quoted then .quoted (String.singleton c ++ s) :: ps
    else .text (String.singleton c) :: .quoted s :: ps
  | ps => (if quoted then .quoted (String.singleton c) else .text (String.singleton c)) :: ps

def isSpecialParameter (c : Char) : Bool := "@*#?-$!".toList.contains c

/-- The name of a parameter at the start of a text. -/
def parameterName : List Char → List Char
  | [] => []
  | c :: cs =>
    if isNameStart c then c :: cs.takeWhile isNameChar
    else if c.isDigit then c :: cs.takeWhile Char.isDigit
    else if isSpecialParameter c then [c]
    else []

/-- What follows the name of a parameter in braces, and how long it is. -/
def actionAt (cs : List Char) : Option (Action × Nat) :=
  match cs with
  | ':' :: '-' :: _ => some (.otherwise true, 2)
  | ':' :: '=' :: _ => some (.assign true, 2)
  | ':' :: '?' :: _ => some (.complain true, 2)
  | ':' :: '+' :: _ => some (.alternative true, 2)
  | '-' :: _ => some (.otherwise false, 1)
  | '=' :: _ => some (.assign false, 1)
  | '?' :: _ => some (.complain false, 1)
  | '+' :: _ => some (.alternative false, 1)
  | '%' :: '%' :: _ => some (.trim true true, 2)
  | '%' :: _ => some (.trim true false, 1)
  | '#' :: '#' :: _ => some (.trim false true, 2)
  | '#' :: _ => some (.trim false false, 1)
  | _ => none

/-- The text up to the closing backquote, with the backslashes that protect something removed, and
how many characters it takes. -/
def backquoted (double : Bool) : List Char → Option (List Char × Nat)
  | [] => none
  | '\\' :: c :: cs =>
    let inside := if c = backquote || c = '$' || c = '\\' || (double && c = '"') then [c] else ['\\', c]
    (backquoted double cs).map fun r => (inside ++ r.1, r.2 + 2)
  | c :: cs =>
    if c = backquote then some ([], 1) else (backquoted double cs).map fun r => (c :: r.1, r.2 + 1)

/-- Operators, longer ones first. -/
def operators : List String := [";;", ";", "&&", "&", "||", "|", "(", ")"]

def redirectionSigns : List String := ["<<-", "<<", "<&", "<>", "<", ">>", ">&", ">|", ">"]

def signAt (signs : List String) (cs : List Char) : Option String :=
  signs.find? fun s => s.toList.isPrefixOf cs

/-- Lines up to one that is a given word, and what follows it. -/
def hereLines (word : List Char) (strip : Bool) : (fuel : Nat) → List Char → List Char × List Char
  | 0, cs => ([], cs)
  | _ + 1, [] => ([], [])
  | fuel + 1, cs =>
    let cs := if strip then cs.dropWhile (· = '\t') else cs
    let line := cs.takeWhile (· ≠ '\n')
    let rest := cs.drop (line.length + 1)
    if line = word then ([], rest)
    else
      let (more, rest) := hereLines word strip fuel rest
      (cs.take (line.length + 1) ++ more, rest)

/-- The text of a word, whatever of it is quoted. -/
def plainText (w : Word) : String :=
  String.join (w.map fun
    | .text s => s
    | .quoted s => s
    | _ => "")

/-- Takes the lines of a here-document out of what follows the current line. -/
def takeHere (word : Word) (strip : Bool) : Reading (List Char) := do
  let s ← get
  let line := s.chars.takeWhile (· ≠ '\n')
  let rest := s.chars.drop (line.length + 1)
  let (body, after) := hereLines (plainText word).toList strip (rest.length + 1) rest
  set { s with
    chars := line ++ '\n' :: after
    hidden := s.hidden + (rest.take (rest.length - after.length)).count '\n' }
  return body

mutual
/-- The parts of a word up to what ends them in their context. -/
def parts : (fuel : Nat) → Context → Reading Word
  | 0, _ => fail "Syntax error"
  | fuel + 1, k => do
    let quoted := k.isQuoted
    match (← get).chars with
    | [] =>
      match k with
      | .bare | .here => return []
      | .double => fail "Syntax error: Unterminated quoted string"
      | .braces _ => fail "Syntax error: Missing '\x7d'"
      | .arithmetic _ => fail "Syntax error: Missing '))'"
    | '\\' :: cs =>
      match cs with
      | '\n' :: _ =>
        advance 2
        parts fuel k
      | c :: _ =>
        advance 2
        let rest ← parts fuel k
        if !quoted || k.protects c then return addChar true c rest
        else return addChar true '\\' (addChar true c rest)
      | [] =>
        advance 1
        return addChar true '\\' (← parts fuel k)
    | '$' :: _ =>
      advance 1
      let p ← dollar fuel quoted
      match p with
      | none => return addChar quoted '$' (← parts fuel k)
      | some p => return p :: (← parts fuel k)
    | c :: cs =>
      if c = backquote then
        match backquoted (k = .double) cs with
        | none => fail "Syntax error: EOF in backquote substitution"
        | some (text, n) =>
          let body ← script fuel text
          advance (n + 1)
          return .command body quoted :: (← parts fuel k)
      else match k with
      | .bare =>
        if endsWord c then return []
        else if c = '\'' then single fuel k
        else if c = '"' then double fuel k
        else do
          advance 1
          return addChar false c (← parts fuel k)
      | .double =>
        advance 1
        if c = '"' then return [] else return addChar true c (← parts fuel k)
      | .here =>
        advance 1
        return addChar true c (← parts fuel k)
      | .braces q =>
        if c = '\x7d' then do
          advance 1
          return []
        else if c = '\'' && !q then single fuel k
        else if c = '"' then double fuel k
        else do
          advance 1
          return addChar q c (← parts fuel k)
      | .arithmetic depth =>
        if c = '(' then do
          advance 1
          return addChar true c (← parts fuel (.arithmetic (depth + 1)))
        else if c = ')' then
          if depth ≠ 0 then do
            advance 1
            return addChar true c (← parts fuel (.arithmetic (depth - 1)))
          else if cs.head? = some ')' then do
            advance 2
            return []
          else fail "Syntax error: Missing '))'"
        else do
          advance 1
          if c = '"' then parts fuel k else return addChar true c (← parts fuel k)

/-- A text between single quotes, and the parts after it. -/
def single : (fuel : Nat) → Context → Reading Word
  | 0, _ => fail "Syntax error"
  | fuel + 1, k => do
    advance 1
    let text ← Reading.takeWhile (· ≠ '\'')
    if (← get).chars.isEmpty then fail "Syntax error: Unterminated quoted string"
    advance 1
    return .quoted (String.ofList text) :: (← parts fuel k)

/-- Parts between double quotes, and the parts after them. The quotes alone make a field, unless they hold
all arguments and nothing else. -/
def double : (fuel : Nat) → Context → Reading Word
  | 0, _ => fail "Syntax error"
  | fuel + 1, k => do
    advance 1
    let inner ← parts fuel .double
    let inner := match inner with
      | [.parameter "@" .value [] true] => inner
      | _ => .quoted "" :: inner
    return inner ++ (← parts fuel k)

/-- The expansion after a dollar sign, none where the sign stands for itself. -/
def dollar : (fuel : Nat) → (quoted : Bool) → Reading (Option Part)
  | 0, _ => fail "Syntax error"
  | fuel + 1, quoted => do
    match (← get).chars with
    | '(' :: '(' :: _ =>
      advance 2
      return some (.arithmetic (← parts fuel (.arithmetic 0)) quoted)
    | '(' :: _ =>
      advance 1
      let body ← list fuel
      match ← token fuel with
      | .operator ")" => return some (.command body quoted)
      | t => unexpected t (some ")")
    | '{' :: _ =>
      advance 1
      return some (← braced fuel quoted)
    | c :: cs =>
      let name := if c.isDigit then [c] else parameterName (c :: cs)
      if name.isEmpty then return none
      advance name.length
      return some (.parameter (String.ofList name) .value [] quoted)
    | [] => return none

/-- A parameter in braces. -/
def braced : (fuel : Nat) → (quoted : Bool) → Reading Part
  | 0, _ => fail "Syntax error"
  | fuel + 1, quoted => do
    let cs := (← get).chars
    let measured := parameterName (cs.drop 1)
    if cs.head? = some '#' && !measured.isEmpty && (cs.drop (measured.length + 1)).head? = some '\x7d' then
      advance (measured.length + 2)
      return .parameter (String.ofList measured) .length [] quoted
    let name := parameterName cs
    advance name.length
    let rest := (← get).chars
    if !name.isEmpty && rest.head? = some '\x7d' then
      advance 1
      return .parameter (String.ofList name) .value [] quoted
    match if name.isEmpty then none else actionAt rest with
    | some (action, n) =>
      advance n
      let trims := match action with
        | .trim _ _ => true
        | _ => false
      return .parameter (String.ofList name) action (← parts fuel (.braces (quoted && !trims))) quoted
    | none =>
      let _ ← parts fuel (.braces quoted)
      return .parameter "" .unknown [] quoted

/-- The script in a text of its own. -/
def script : (fuel : Nat) → List Char → Reading Command
  | 0, _ => fail "Syntax error"
  | fuel + 1, text => do
    let outer ← get
    set { outer with chars := text, ahead := none, hidden := 0 }
    let body ← list fuel
    match ← token fuel with
    | .ending => pure ()
    | t => unexpected t none
    set outer
    return body

/-- The next token, which is taken. -/
def token : (fuel : Nat) → Reading Token
  | 0 => fail "Syntax error"
  | fuel + 1 => do
    match (← get).ahead with
    | some t =>
      modify fun s => { s with ahead := none }
      return t
    | none =>
      let _ ← Reading.takeWhile fun c => c = ' ' || c = '\t'
      match (← get).chars with
      | [] => return .ending
      | '\n' :: _ =>
        advance 1
        return .newline
      | '\\' :: '\n' :: _ =>
        advance 2
        token fuel
      | '#' :: _ =>
        let _ ← Reading.takeWhile (· ≠ '\n')
        token fuel
      | cs =>
        match signAt operators cs, signAt redirectionSigns cs with
        | some s, _ =>
          advance s.length
          return .operator s
        | none, some s =>
          advance s.length
          return .redirection none s
        | none, none =>
          let digits := cs.takeWhile Char.isDigit
          match if digits.isEmpty then none else signAt redirectionSigns (cs.drop digits.length) with
          | some s =>
            advance (digits.length + s.length)
            return .redirection (String.ofList digits).toNat? s
          | none => return .word (← parts fuel .bare)

/-- The next token, which stays. -/
def peek : (fuel : Nat) → Reading Token
  | 0 => fail "Syntax error"
  | fuel + 1 => do
    let t ← token fuel
    modify fun s => { s with ahead := some t }
    return t

def skipNewlines : (fuel : Nat) → Reading Unit
  | 0 => fail "Syntax error"
  | fuel + 1 => do
    match ← peek fuel with
    | .newline =>
      let _ ← token fuel
      skipNewlines fuel
    | _ => return

/-- Takes a keyword that must stand here. -/
def expect : (fuel : Nat) → String → Reading Unit
  | 0, _ => fail "Syntax error"
  | fuel + 1, keyword => do
    let t ← token fuel
    if t.keyword? = some keyword then return else unexpected t (some keyword)

/-- Commands up to a token that can begin none. -/
def list : (fuel : Nat) → Reading Command
  | 0 => fail "Syntax error"
  | fuel + 1 => do
    skipNewlines fuel
    let t ← peek fuel
    let stops := match t, t.keyword? with
      | _, some k => !(["!", "case", "for", "if", "until", "while", "\x7b"].contains k)
      | .operator s, _ => s = ")" || s = ";;"
      | .ending, _ => true
      | _, _ => false
    if stops then return .nothing
    let first ← chain fuel
    match ← peek fuel with
    | .operator ";" =>
      let _ ← token fuel
      return first.andThen (← list fuel)
    | .operator "&" =>
      let _ ← token fuel
      return (Command.background first).andThen (← list fuel)
    | .newline => return first.andThen (← list fuel)
    | _ => return first

/-- Pipelines joined by conditions. -/
def chain : (fuel : Nat) → Reading Command
  | 0 => fail "Syntax error"
  | fuel + 1 => do
    let first ← pipes fuel
    chainFrom fuel first

def chainFrom : (fuel : Nat) → Command → Reading Command
  | 0, _ => fail "Syntax error"
  | fuel + 1, first => do
    match ← peek fuel with
    | .operator "&&" =>
      let _ ← token fuel
      skipNewlines fuel
      let next ← pipes fuel
      chainFrom fuel (.both first next)
    | .operator "||" =>
      let _ ← token fuel
      skipNewlines fuel
      let next ← pipes fuel
      chainFrom fuel (.either first next)
    | _ => return first

/-- A pipeline, which may be negated. -/
def pipes : (fuel : Nat) → Reading Command
  | 0 => fail "Syntax error"
  | fuel + 1 => do
    if (← peek fuel).keyword? = some "!" then
      let _ ← token fuel
      return .negated (← pipes fuel)
    let stages ← stagesFrom fuel
    match stages with
    | [one] => return one
    | _ => return .pipeline stages

def stagesFrom : (fuel : Nat) → Reading (List Command)
  | 0 => fail "Syntax error"
  | fuel + 1 => do
    let first ← command fuel
    match ← peek fuel with
    | .operator "|" =>
      let _ ← token fuel
      skipNewlines fuel
      return first :: (← stagesFrom fuel)
    | _ => return [first]

/-- Puts the text that a name stands for in place of the name, if the next token is one. The name itself is
no such name in its own text. -/
def replaceAlias : (fuel : Nat) → Reading Bool
  | 0 => fail "Syntax error"
  | fuel + 1 => do
    match ← peek fuel with
    | .word w =>
      let s ← get
      let free (name : String) : Bool := !s.replaced.any fun r => r.1 = name && r.2 ≤ s.chars.length
      match ((bareText? w).filter free).bind fun name => (s.aliases.lookup name).map fun text => (name, text) with
      | some (name, text) =>
        set { s with
          ahead := none
          chars := text.toList ++ s.chars
          replaced := (name, s.chars.length) :: s.replaced }
        return true
      | none => return false
    | _ => return false

/-- A simple or compound command with its redirections. -/
def command : (fuel : Nat) → Reading Command
  | 0 => fail "Syntax error"
  | fuel + 1 => do
    if ← replaceAlias fuel then return ← command fuel
    let t ← peek fuel
    let line := (← get).line
    match t, t.keyword? with
    | _, some "if" =>
      let _ ← token fuel
      redirected fuel line (← conditional fuel)
    | _, some "while" =>
      let _ ← token fuel
      redirected fuel line (← looping fuel false)
    | _, some "until" =>
      let _ ← token fuel
      redirected fuel line (← looping fuel true)
    | _, some "for" =>
      let _ ← token fuel
      redirected fuel line (← iteration fuel line)
    | _, some "case" =>
      let _ ← token fuel
      redirected fuel line (← selection fuel line)
    | _, some "\x7b" =>
      let _ ← token fuel
      let body ← block fuel
      expect fuel "\x7d"
      redirected fuel line body
    | .operator "(", _ =>
      let _ ← token fuel
      let body ← block fuel
      match ← token fuel with
      | .operator ")" => redirected fuel line (.subshell body)
      | t => unexpected t (some ")")
    | _, some _ => unexpected t none
    | .word _, _ => simple fuel line [] [] []
    | .redirection _ _, _ => simple fuel line [] [] []
    | _, _ => unexpected t none

/-- A compound command with the redirections after it. -/
def redirected : (fuel : Nat) → (line : Nat) → Command → Reading Command
  | 0, _, _ => fail "Syntax error"
  | fuel + 1, line, body => do
    let rs ← redirections fuel
    return if rs.isEmpty then body else .redirected line body rs

def redirections : (fuel : Nat) → Reading (List Redirection)
  | 0 => fail "Syntax error"
  | fuel + 1 => do
    match ← peek fuel with
    | .redirection _ _ =>
      let r ← redirection fuel
      return r :: (← redirections fuel)
    | _ => return []

/-- A redirection with its target. -/
def redirection : (fuel : Nat) → Reading Redirection
  | 0 => fail "Syntax error"
  | fuel + 1 => do
    match ← token fuel with
    | .redirection descriptor sign =>
      match ← token fuel with
      | .word w =>
        let source := descriptor.getD 0
        let target := descriptor.getD 1
        if sign = "<<" || sign = "<<-" then
          let body ← takeHere w (sign = "<<-")
          if w.any Part.isQuoted then return .here source [.quoted (String.ofList body)]
          let outer ← get
          set { outer with chars := body, ahead := none }
          let ps ← parts fuel .here
          set outer
          return .here source ps
        if sign = "<" then return .file source .read w
        if sign = "<>" then return .file source .both w
        if sign = ">>" then return .file target .append w
        if sign = "<&" then return .duplicate source w
        if sign = ">&" then return .duplicate target w
        return .file target (if sign = ">|" then .replace else .write) w
      | t => unexpected t none
    | t => unexpected t none

/-- The words of a simple command; the lists hold what has been read, in reverse. -/
def simple : (fuel : Nat) → (line : Nat) → List (String × Word) → List Word → List Redirection →
    Reading Command
  | 0, _, _, _, _ => fail "Syntax error"
  | fuel + 1, line, as, ws, rs => do
    if ws.isEmpty && !as.isEmpty then
      if ← replaceAlias fuel then return ← simple fuel line as ws rs
    match ← peek fuel with
    | .redirection _ _ =>
      let r ← redirection fuel
      simple fuel line as ws (r :: rs)
    | .word w =>
      let _ ← token fuel
      match if ws.isEmpty then assignment? w else none with
      | some a => simple fuel line (a :: as) ws rs
      | none => simple fuel line as (w :: ws) rs
    | .operator "(" =>
      match ws, as, rs with
      | [w], [], [] =>
        let _ ← token fuel
        match ← token fuel with
        | .operator ")" =>
          match bareText? w with
          | some name =>
            if !isName name then fail "Syntax error: Bad function name"
            skipNewlines fuel
            return .define name (← command fuel)
          | none => fail "Syntax error: Bad function name"
        | t => unexpected t (some ")")
      | _, _, _ => unexpected (.operator "(") none
    | _ => return .simple line as.reverse ws.reverse rs.reverse

/-- What follows the word that begins a conditional. -/
def conditional : (fuel : Nat) → Reading Command
  | 0 => fail "Syntax error"
  | fuel + 1 => do
    let condition ← block fuel
    expect fuel "then"
    let yes ← block fuel
    let t ← token fuel
    match t.keyword? with
    | some "elif" => return .choice condition yes (← conditional fuel)
    | some "else" =>
      let no ← block fuel
      expect fuel "fi"
      return .choice condition yes no
    | some "fi" => return .choice condition yes .nothing
    | _ => unexpected t (some "fi")

/-- Commands, of which there must be one unless the script ends. -/
def block : (fuel : Nat) → Reading Command
  | 0 => fail "Syntax error"
  | fuel + 1 => do
    let body ← list fuel
    match body, ← peek fuel with
    | .nothing, .ending => return body
    | .nothing, t => unexpected t none
    | _, _ => return body

def looping : (fuel : Nat) → (untilTrue : Bool) → Reading Command
  | 0, _ => fail "Syntax error"
  | fuel + 1, untilTrue => do
    let condition ← block fuel
    expect fuel "do"
    let body ← block fuel
    expect fuel "done"
    return .loop untilTrue condition body

def iteration : (fuel : Nat) → (line : Nat) → Reading Command
  | 0, _ => fail "Syntax error"
  | fuel + 1, line => do
    match ← token fuel with
    | .word w =>
      match (bareText? w).filter isName with
      | none => fail "Syntax error: Bad for loop variable"
      | some name =>
        skipNewlines fuel
        let t ← peek fuel
        let words ← if t.keyword? = some "in" then do
            let _ ← token fuel
            let ws ← words fuel
            match ← token fuel with
            | .operator ";" | .newline => pure (some ws)
            | t => unexpected t none
          else do
            match t with
            | .operator ";" =>
              let _ ← token fuel
              pure none
            | _ => pure none
        skipNewlines fuel
        expect fuel "do"
        let body ← block fuel
        expect fuel "done"
        return .each line name words body
    | _ => fail "Syntax error: Bad for loop variable"

def words : (fuel : Nat) → Reading (List Word)
  | 0 => fail "Syntax error"
  | fuel + 1 => do
    match ← peek fuel with
    | .word w =>
      let _ ← token fuel
      return w :: (← words fuel)
    | _ => return []

def selection : (fuel : Nat) → (line : Nat) → Reading Command
  | 0, _ => fail "Syntax error"
  | fuel + 1, line => do
    match ← token fuel with
    | .word subject =>
      skipNewlines fuel
      expect fuel "in"
      return .select line subject (← clauses fuel)
    | t => unexpected t (some "word")

def clauses : (fuel : Nat) → Reading (List (List Word × Command))
  | 0 => fail "Syntax error"
  | fuel + 1 => do
    skipNewlines fuel
    let t ← token fuel
    if t.keyword? = some "esac" then return []
    let t ← match t with
      | .operator "(" => token fuel
      | t => pure t
    match t with
    | .word w =>
      let patterns ← alternatives fuel w
      let body ← list fuel
      let t ← token fuel
      match t, t.keyword? with
      | .operator ";;", _ => return (patterns, body) :: (← clauses fuel)
      | _, some "esac" => return [(patterns, body)]
      | _, _ => unexpected t (some ";;")
    | t => unexpected t none

/-- Patterns up to the closing parenthesis. -/
def alternatives : (fuel : Nat) → Word → Reading (List Word)
  | 0, _ => fail "Syntax error"
  | fuel + 1, w => do
    match ← token fuel with
    | .operator ")" => return [w]
    | .operator "|" =>
      match ← token fuel with
      | .word v => return w :: (← alternatives fuel v)
      | t => unexpected t none
    | t => unexpected t (some ")")
end

/-- A script that has not been read yet. -/
def Source.ofString (s : String) : Source := ⟨s.toList, 1, none, 0, [], []⟩

/-- The commands up to the end of a line that are complete there, none at the end of the script. -/
def lineCommands (fuel : Nat) : Reading (Option Command) := do
  skipNewlines fuel
  match ← peek fuel with
  | .ending => return none
  | _ => return some (← commandsFrom fuel fuel)
where
  commandsFrom : (n fuel : Nat) → Reading Command
    | 0, _ => fail "Syntax error"
    | n + 1, fuel => do
      let first ← chain fuel
      let t ← token fuel
      match t with
      | .operator ";" => more n fuel first
      | .operator "&" => more n fuel (.background first)
      | .newline | .ending => return first
      | _ => unexpected t none
  more : (n fuel : Nat) → Command → Reading Command
    | 0, _, _ => fail "Syntax error"
    | n + 1, fuel, first => do
      match ← peek fuel with
      | .newline | .ending =>
        let _ ← token fuel
        return first
      | _ => return .sequence first (← commandsFrom n fuel)

/-- The next commands of a script with what follows them. -/
def Source.next (s : Source) : Except SyntaxError (Option Command × Source) :=
  (lineCommands (16 * s.chars.length + 64)).run s

end Shell

end HyperEvolve

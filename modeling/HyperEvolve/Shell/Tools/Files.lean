import HyperEvolve.Shell.Tool

/-!
# Tools for files

Tools that create, copy, move and remove files and directories, and list them.
-/

namespace HyperEvolve

namespace Shell

namespace Tools

/-- Runs a step for each operand, on the tree that the one before left. -/
def forEach (c : Call) (operands : List String) (step : FileTree → String → Except String FileTree)
    (status : Nat) : Effect :=
  operands.foldl (fun (e : Effect) name =>
    match step e.tree name with
    | .ok tree => { e with tree }
    | .error text => e.complain (c.name ++ ": " ++ text) status) (Effect.quiet c 0)

def needsOperand (c : Call) (what : String) : Effect := c.fails (what ++ c.hint) 1

/-- Copies its input to its output and to files. -/
def tee : Tool := fun c =>
  c.withOptions [⟨'a', "append", .nothing⟩, ⟨'i', "ignore-interrupts", .nothing⟩] 1 fun o =>
    let e := forEach c o.operands (fun t name =>
      let before := if o.has 'a' then (contentAt t name).toOption.getD [] else []
      match storeAt t name (before ++ c.input) with
      | .ok t => .ok t
      | .error errno => .error (name ++ ": " ++ errno.text)) 1
    (e.write c.input).drain c

/-- Creates the directories above a path as far as they are missing. -/
def makeParents (t : FileTree) (p : Path) : (fuel : Nat) → Except Errno FileTree
  | 0 => .ok t
  | fuel + 1 =>
    if t.isDirectory p then .ok t
    else do
      let t ← makeParents t p.parent fuel
      t.createDirectory p

def mkdir : Tool := fun c =>
  c.withOptions [⟨'p', "parents", .nothing⟩, ⟨'v', "verbose", .nothing⟩, ⟨'m', "mode", .value⟩] 1 fun o =>
    if o.operands.isEmpty then needsOperand c "missing operand"
    else forEach c o.operands (fun t name =>
      let p := Path.ofString name
      let made := if o.has 'p' then makeParents t p (p.parts.length + 1) else t.createDirectory p
      made.mapError fun e => s!"cannot create directory {shownWord name}: {e.text}") 1

/-- The place of something that exists. -/
def placeOf (t : FileTree) (name : String) : Except Errno Place := do
  let _ ← entryAt t name
  t.locate (Path.ofString name)

def rmdir : Tool := fun c =>
  c.withOptions [] 1 fun o =>
    if o.operands.isEmpty then needsOperand c "missing operand"
    else forEach c o.operands (fun t name =>
      match entryAt t name, placeOf t name with
      | .ok .directory, .ok place =>
        if (t.children place).isEmpty then .ok (t.erase place)
        else .error s!"failed to remove {inQuotes name}: Directory not empty"
      | .ok _, _ => .error s!"failed to remove {inQuotes name}: Not a directory"
      | .error e, _ => .error s!"failed to remove {inQuotes name}: {e.text}") 1

def rm : Tool := fun c =>
  let rules := [⟨'r', "recursive", .nothing⟩, ⟨'f', "force", .nothing⟩, ⟨'d', "dir", .nothing⟩] ++ flags "Riv"
  c.withOptions rules 1 fun o =>
    if o.operands.isEmpty then if o.has 'f' then Effect.quiet c 0 else needsOperand c "missing operand"
    else forEach c o.operands (fun t name =>
      match entryAt t name, placeOf t name with
      | .ok .directory, .ok place =>
        if o.has 'r' || o.has 'R' then .ok (t.erase place)
        else .error s!"cannot remove {inQuotes name}: Is a directory"
      | .ok _, .ok place => .ok (t.erase place)
      | .error e, _ =>
        if o.has 'f' && (e = .noEntry || e = .notDirectory) then .ok t
        else .error s!"cannot remove {inQuotes name}: {e.text}"
      | _, .error e => .error s!"cannot remove {inQuotes name}: {e.text}") 1

def touch : Tool := fun c =>
  c.withOptions (flags "acm") 1 fun o =>
    if o.operands.isEmpty then needsOperand c "missing file operand"
    else forEach c o.operands (fun t name =>
      match entryAt t name with
      | .ok _ => .ok t
      | .error .noEntry =>
        if o.has 'c' then .ok t
        else (storeAt t name []).mapError fun e => s!"cannot touch {inQuotes name}: {e.text}"
      | .error e => .error s!"cannot touch {inQuotes name}: {e.text}") 1

/-- The name under which something arrives: inside a directory it keeps its own. -/
def arrival (t : FileTree) (source target : String) : String :=
  if t.isDirectory (Path.ofString target) then
    target ++ "/" ++ (((Path.ofString source).parts.getLast?).getD "")
  else target

/-- Copies an entry with all that is below it. -/
def copyTree (t : FileTree) (source target : Place) : FileTree :=
  t.entries.entries.foldl (fun (u : FileTree) e =>
    if source.isPrefixOf e.1 then u.put (target ++ e.1.drop source.length) e.2 else u) t

/-- The last operand and those before it. -/
def targetOf (c : Call) (operands : List String) (run : List String → String → Effect) : Effect :=
  match operands.reverse with
  | [] => needsOperand c "missing file operand"
  | [one] => needsOperand c s!"missing destination file operand after {inQuotes one}"
  | target :: sources =>
    if 1 < sources.length && !c.tree.isDirectory (Path.ofString target) then
      c.fails s!"target {inQuotes target}: {Errno.noEntry.text}" 1
    else run sources.reverse target

def cp : Tool := fun c =>
  c.withOptions ([⟨'r', "recursive", .nothing⟩] ++ flags "Rafpvi") 1 fun o =>
    targetOf c o.operands fun sources target =>
      forEach c sources (fun t name =>
        match entryAt t name, placeOf t name with
        | .error e, _ => .error s!"cannot stat {inQuotes name}: {e.text}"
        | _, .error e => .error s!"cannot stat {inQuotes name}: {e.text}"
        | .ok .directory, .ok place =>
          if !(o.has 'r' || o.has 'R' || o.has 'a') then .error s!"-r not specified; omitting directory {inQuotes name}"
          else (t.locate (Path.ofString (arrival t name target))).map (copyTree t place) |>.mapError fun e =>
            s!"cannot create directory {inQuotes target}: {e.text}"
        | .ok e, .ok _ =>
          let content := (FileTree.contentOf e).toOption.getD []
          (storeAt t (arrival t name target) content).mapError fun e =>
            s!"cannot create regular file {inQuotes target}: {e.text}") 1

def mv : Tool := fun c =>
  c.withOptions (flags "fivn") 1 fun o =>
    targetOf c o.operands fun sources target =>
      forEach c sources (fun t name =>
        match placeOf t name with
        | .error e => .error s!"cannot stat {inQuotes name}: {e.text}"
        | .ok place =>
          match t.locate (Path.ofString (arrival t name target)) with
          | .error e => .error s!"cannot move {inQuotes name} to {inQuotes target}: {e.text}"
          | .ok goal =>
            if (t.entry? goal.dropLast) ≠ some .directory then
              .error s!"cannot move {inQuotes name} to {inQuotes target}: {Errno.noEntry.text}"
            else if goal = place then .error s!"{inQuotes name} and {inQuotes target} are the same file"
            else .ok ((copyTree (t.erase goal) place goal).erase place)) 1

/-- Names in the order in which they are listed. -/
def sortedNames (names : List String) : List String := names.mergeSort fun a b => a ≤ b

/-- Lists names, one on a line. -/
def ls : Tool := fun c =>
  c.withOptions (flags "1aAF") 2 fun o =>
    let operands := if o.operands.isEmpty then ["."] else o.operands
    let visible (n : String) := o.has 'a' || o.has 'A' || !n.startsWith "."
    let listed (place : Place) : List String :=
      (if o.has 'a' then [".", ".."] else []) ++ sortedNames ((c.tree.children place).filter visible)
    let shown (names : List String) : Bytes := Utf8.encode (String.join (names.map (· ++ "\n")))
    let faults := operands.filterMap fun n =>
      match entryAt c.tree n with
      | .error e => some s!"{c.name}: cannot access {inQuotes n}: {e.text}"
      | .ok _ => none
    let e := faults.foldl (fun (e : Effect) t => e.complain t 2) (Effect.quiet c 0)
    let files := sortedNames (operands.filter fun n => match entryAt c.tree n with
      | .ok .directory => false
      | .ok _ => true
      | .error _ => false)
    let directories := sortedNames (operands.filter fun n => match entryAt c.tree n with
      | .ok .directory => true
      | _ => false)
    let titled := 1 < operands.length
    let e := if files.isEmpty then e else e.write (shown files)
    (directories.foldl (fun (acc : Effect × Bool) n =>
      let names := ((c.tree.locate (Path.ofString n)).toOption.map listed).getD []
      let title := if titled then Utf8.encode ((if acc.2 then "\n" else "") ++ n ++ ":\n") else []
      (acc.1.write (title ++ shown names), true)) (e, !files.isEmpty)).1

def pwd : Tool := fun c => c.writes (Utf8.encode ((Path.ofNames c.tree.cwd).toString ++ "\n"))

end Tools

end Shell

end HyperEvolve

import TreePipeline.Tools.Finding.Display

/-!
Reading what is looked for. The words are read one after the other into parts, and the parts are put
together: brackets bind more than a negation, that more than a conjunction, which needs no word between
its sides, that more than an alternative, and a comma binds least.
-/

namespace TreePipeline.Tools

open Shell Host

namespace Finding

inductive Following where
  | never
  | named
  | always
  deriving DecidableEq

structure Settings where
  following : Following := .never
  inwards : Bool := false
  deepest : Option Nat := none
  shallowest : Nat := 0
  wholeDays : Bool := false
  spelling : Regular.Spelling := .finding

structure Setting where
  fs : FileSystem
  now : Int
  zone : Zone

def commaRank : Nat := 1

def orRank : Nat := 2

def andRank : Nat := 3

def notRank : Nat := 4

inductive Part where
  | single (q : Query)
  | not (name : Chars)
  | joint (name : Chars) (rank : Nat)
  | open_ (name : Chars) (added : Bool)
  | close (added : Bool)

structure Reading where
  parts : List Part := []
  settings : Settings := {}
  warnings : List Chars := []
  commands : Nat := 0

namespace Reading

def add (r : Reading) (p : Part) : Reading :=
  let begins : Bool := match p with
    | .joint .. => false
    | .close _ => false
    | _ => true
  let ends : Bool := match r.parts with
    | .single _ :: _ => true
    | .close _ :: _ => true
    | _ => false
  { r with parts := if begins && ends then p :: .joint "-a".toList andRank :: r.parts else p :: r.parts }

def test (r : Reading) (t : Test) : Reading := r.add (.single (.test t))

def deed (r : Reading) (d : Deed) : Reading := r.add (.single (.deed d))

def set (r : Reading) (f : Settings → Settings) : Reading :=
  { r with settings := f r.settings }.test (.constant true)

end Reading

abbrev Step := Except (List Chars) (Reading × List Chars)

def fail {α : Type} (text : Chars) : Except (List Chars) α := .error [text]

def missing {α : Type} (word : Chars) : Except (List Chars) α :=
  fail ("missing argument to \x60".toList ++ word ++ ['\''])

def invalid {α : Type} (arg word : Chars) : Except (List Chars) α :=
  fail ("invalid argument \x60".toList ++ arg ++ "' to \x60".toList ++ word ++ ['\''])

def relationOf : Chars → Relation × Chars
  | '+' :: r => (.more, r)
  | '-' :: r => (.less, r)
  | r => (.exactly, r)

def readBound? (cs : Chars) : Option Bound :=
  let (relation, ds) := relationOf cs
  (number? ds).map fun n => ⟨relation, n⟩

def readUnits? (cs : Chars) : Option (Relation × Nat) :=
  let (relation, ds) := relationOf cs
  let whole := ds.takeWhile Char.isDigit
  match ds.drop whole.length with
  | [] => (number? whole).map fun n => (relation, n * 1000000000)
  | '.' :: part =>
    if part.all Char.isDigit ∧ !(whole.isEmpty ∧ part.isEmpty) then
      some (relation, ((number? whole).getD 0) * 1000000000 + ((number? ((part ++ List.replicate 9 '0').take 9)).getD 0))
    else none
  | _ => none

def day : Int := 86400

def ageTest (w : Setting) (s : Settings) (minutes : Bool) (relation : Relation) (billionths : Nat) : Test :=
  let second : Int := 1000000000
  let unit := if minutes then 60 else day
  let length := unit * (billionths : Int)
  if s.wholeDays then
    let (secs, _) := instantOf w.now
    let today := ((secs + w.zone.ahead).fdiv day * day - w.zone.ahead) * second
    let origin := if minutes ∨ relation = .less then today + day * second else today
    .changed relation (origin - length) (unit * second)
  else
    let origin := if minutes then w.now else if relation = .less then w.now - second else w.now - day * second
    .changed relation (origin - length) (unit * second)

def sizeUnits : List (Char × Nat) :=
  [('b', 512), ('c', 1), ('w', 2), ('k', 1024), ('M', 1048576), ('G', 1073741824)]

def readSize (arg : Chars) : Except (List Chars) Test :=
  match arg.getLast? with
  | none => fail "invalid null argument to -size".toList
  | some last =>
    let unit? : Option (Nat × Chars) :=
      if last.isDigit then some (512, arg) else (sizeUnits.lookup last).map fun u => (u, arg.dropLast)
    match unit? with
    | none => fail ("invalid -size type \x60".toList ++ [last, '\''])
    | some (unit, digits) =>
      match readBound? digits with
      | some b => .ok (.size b unit)
      | none => fail ("Invalid argument \x60".toList ++ arg ++ "' to -size".toList)

def kindLetters : Chars := "bcdflps".toList

def readKinds (word : Chars) : Chars → Chars → Except (List Chars) Chars
  | [], _ => fail ("Arguments to ".toList ++ word ++ " should contain at least one letter".toList)
  | c :: r, seen =>
    if c = 'D' then
      fail (word ++ (" D is not supported because Solaris doors are not supported on the platform " ++
        "find was compiled on.").toList)
    else if !kindLetters.contains c then fail ("Unknown argument to ".toList ++ word ++ ": ".toList ++ [c])
    else if seen.contains c then
      fail ("Duplicate file type '".toList ++ c :: "' in the argument list to ".toList ++ word ++ ['.'])
    else
      match r with
      | [] => .ok [c]
      | [','] =>
        fail ("Last file type in list argument to ".toList ++ word ++ " is missing, i.e., list is ending on: ','".toList)
      | ',' :: r => (readKinds word r (c :: seen)).map (c :: ·)
      | _ => fail ("Must separate multiple arguments to ".toList ++ word ++ " using: ','".toList)

def readModeTest (arg : Chars) : Except (List Chars) Test :=
  let (how, text) : ModeTest × Chars := match arg with
    | '-' :: r => (.all, r)
    | '/' :: r => (.some_, r)
    | r => (.same, r)
  match Mode.read? text with
  | some changes => .ok (.mode (Mode.adjust false 0 changes 0) how)
  | none => fail ("invalid mode ".toList ++ inQuotes arg)

def spellings : List (String × Regular.Spelling) :=
  [("findutils-default", .finding), ("ed", .basic), ("emacs", .finding), ("gnu-awk", .extended), ("grep", .basic),
    ("posix-awk", .extended), ("awk", .extended), ("posix-basic", .basic), ("posix-egrep", .extended),
    ("egrep", .extended), ("posix-extended", .extended), ("posix-minimal-basic", .basic), ("sed", .basic)]

def readReference (w : Setting) (word : Chars) (kind : Char) (arg : Chars) : Except (List Chars) Int :=
  let _ := word
  if kind = 't' then
    let (secs, nanos) := instantOf w.now
    match Civil.momentOf? secs nanos w.zone arg with
    | some (s, n) => .ok (s * 1000000000 + (n : Int))
    | none => fail ("I cannot figure out how to interpret ".toList ++ inQuotes arg ++ " as a date or time".toList)
  else
    match Facts.ofPath w.fs true arg with
    | .ok f => .ok f.modified
    | .error e => fail (inQuotes arg ++ ": ".toList ++ faultText e)

def readCommand (plus : Bool) : List Chars → (before : Chars) → Option (List Chars × Bool × List Chars)
  | [], _ => none
  | a :: r, before =>
    if a = [';'] then some ([], false, r)
    else if plus ∧ a = ['+'] ∧ before = "\x7b\x7d".toList then some ([], true, r)
    else (readCommand plus r a).map fun (ws, many, r) => (a :: ws, many, r)

def hasHole (cs : Chars) : Bool :=
  match cs with
  | [] => false
  | c :: r => "\x7b\x7d".toList.isPrefixOf (c :: r) || hasHole r

def addCommand (r : Reading) (word : Chars) (args : List Chars) : Step :=
  let inside := word.drop (word.length - 3) = "dir".toList
  let ask := "-ok".toList.isPrefixOf word
  let stray := if ask then none else args.zip (args.drop 1) |>.find? fun (a, b) =>
    b = ['+'] ∧ hasHole a ∧ a ≠ "\x7b\x7d".toList
  match readCommand (!ask) args [], args, stray with
  | none, [], _ => missing word
  | none, _, some (a, _) =>
    fail ("In '".toList ++ word ++ " ... \x7b\x7d +' the '\x7b\x7d' must appear by itself, but you specified '".toList ++ a ++
      ['\''])
  | none, _, none => missing word
  | some ([], _, _), a :: _, _ => invalid a word
  | some ([], _, _), [], _ => missing word
  | some (words, many, rest), _, _ =>
    let body := if many then words.dropLast else words
    if many ∧ body.any hasHole then
      fail ("Only one instance of \x7b\x7d is supported with ".toList ++ word ++ " ... +".toList)
    else
      let c : Command := ⟨body, inside, ask, if many then some r.commands else none⟩
      .ok ({ r with commands := r.commands + 1 }.deed (.run c), rest)

def newerLetters? (word : Chars) : Option (Char × Char) :=
  match word.drop 6 with
  | [x, y] => if "aBcm".toList.contains x ∧ "aBcmt".toList.contains y then some (x, y) else none
  | _ => none

def whole (w : Setting) (r : Reading) (word : Chars) (rest : List Chars) (name : String) : Step :=
  let one (use : Chars → Except (List Chars) Reading) : Step :=
    match rest with
    | [] => missing word
    | a :: rest => (use a).map fun r => (r, rest)
  let none_ (r : Reading) : Step := .ok (r, rest)
  let bound (t : Bound → Test) : Step := one fun a =>
    match readBound? a with
    | some b => .ok (r.test (t b))
    | none => invalid a word
  let age (minutes : Bool) : Step := one fun a =>
    match readUnits? a with
    | some (relation, n) => .ok (r.test (ageTest w r.settings minutes relation n))
    | none => invalid a word
  let depth (use : Nat → Settings → Settings) : Step := one fun a =>
    match number? a with
    | some n => .ok (r.set (use n))
    | none =>
      fail ("Expected a positive decimal integer argument to ".toList ++ word ++ ", but got ".toList ++ inQuotes a)
  let expression (fold : Bool) : Step := one fun a =>
    match Matcher.read r.settings.spelling fold a with
    | .ok m => .ok (r.test (.expression m))
    | .error e => fail ("failed to compile regular expression ".toList ++ inQuotes a ++ ": ".toList ++ e.message.toList)
  let owner (names : List String) (text : String) : Step := one fun a =>
    if a = "root".toList then .ok (r.test (.constant true))
    else
      match number? a with
      | some n => .ok (r.test (.owner ⟨.exactly, n⟩))
      | none => if isKnown names a then .ok (r.test (.constant false)) else fail (inQuotes a ++ text.toList)
  let newer (kind : Char) : Step := one fun a => do
    return r.test (.changed .less (← readReference w word kind a) 0)
  let format (file : Option Chars) (rest : List Chars) : Step :=
    match rest with
    | [] => missing word
    | a :: rest =>
      match readFormat (a.length + 1) a with
      | .error e => fail e.message
      | .ok (ps, fs) =>
        .ok ({ r with warnings := r.warnings ++ fs.map FormatFault.message }.deed (.show_ file ps), rest)
  match name with
  | "name" => one fun a => .ok (r.test (.name a false))
  | "iname" => one fun a => .ok (r.test (.name a true))
  | "path" | "wholename" => one fun a => .ok (r.test (.path a false))
  | "ipath" | "iwholename" => one fun a => .ok (r.test (.path a true))
  | "lname" => one fun a => .ok (r.test (.goal a false))
  | "ilname" => one fun a => .ok (r.test (.goal a true))
  | "regex" => expression false
  | "iregex" => expression true
  | "regextype" => one fun a =>
    match spellings.lookup (String.ofList a) with
    | some sp => .ok (r.set fun s => { s with spelling := sp })
    | none =>
      let names := (spellings.map fun e => inQuotes e.1.toList)
      fail ("Unknown regular expression type ".toList ++ inQuotes a ++ "; valid types are ".toList ++
        ", ".toList.intercalate names ++ ['.'])
  | "type" => one fun a => do return r.test (.kind (← readKinds word a []) false)
  | "xtype" => one fun a => do return r.test (.kind (← readKinds word a []) true)
  | "size" => one fun a => do return r.test (← readSize a)
  | "empty" => none_ (r.test .empty)
  | "mtime" | "atime" | "ctime" => age false
  | "mmin" | "amin" | "cmin" => age true
  | "newer" | "anewer" | "cnewer" => newer 'm'
  | "perm" => one fun a => do return r.test (← readModeTest a)
  | "user" => owner knownUsers " is not the name of a known user"
  | "group" => owner knownGroups " is not the name of an existing group"
  | "uid" | "gid" => bound .owner
  | "links" => bound .nameCount
  | "inum" => bound .number
  | "samefile" => one fun a =>
    match w.fs.locate true (toOctets a) with
    | .ok l => if (w.fs.get? l).isSome then .ok (r.test (.same l)) else fail (inQuotes a ++ ": No such file or directory".toList)
    | .error e => fail (inQuotes a ++ ": ".toList ++ faultText e)
  | "readable" | "writable" | "true" => none_ (r.test (.constant true))
  | "executable" => none_ (r.test .mayRun)
  | "false" | "nouser" | "nogroup" => none_ (r.test (.constant false))
  | "used" => one fun a =>
    match readUnits? a with
    | some _ => .ok (r.test (.constant false))
    | none => fail ("Invalid argument ".toList ++ a ++ " to -used".toList)
  | "fstype" => one fun a => .ok (r.test (.constant (a = "overlay".toList)))
  | "context" => one fun _ => fail "invalid predicate -context: SELinux is not enabled.".toList
  | "maxdepth" => depth fun n s => { s with deepest := some n }
  | "mindepth" => depth fun n s => { s with shallowest := n }
  | "depth" | "d" => none_ (r.set fun s => { s with inwards := true })
  | "daystart" => none_ (r.set fun s => { s with wholeDays := true })
  | "follow" => none_ (r.set fun s => { s with following := .always })
  | "xdev" | "mount" | "noleaf" | "warn" | "nowarn" | "ignore_readdir_race" | "noignore_readdir_race" =>
    none_ (r.test (.constant true))
  | "print" => none_ (r.deed (.print none '\n'))
  | "print0" => none_ (r.deed (.print none '\x00'))
  | "fprint" => one fun a => .ok (r.deed (.print (some a) '\n'))
  | "fprint0" => one fun a => .ok (r.deed (.print (some a) '\x00'))
  | "printf" => format none rest
  | "fprintf" =>
    match rest with
    | [] => missing word
    | f :: rest => format (some f) rest
  | "ls" => none_ (r.deed (.list none))
  | "fls" => one fun a => .ok (r.deed (.list (some a)))
  | "exec" | "execdir" | "ok" | "okdir" => addCommand r word rest
  | "delete" => none_ ((r.deed .delete).set fun s => { s with inwards := true })
  | "prune" => none_ (r.deed .prune)
  | "quit" => none_ (r.deed .quit)
  | "not" => none_ (r.add (.not word))
  | "a" | "and" => none_ (r.add (.joint word andRank))
  | "o" | "or" => none_ (r.add (.joint word orRank))
  | name =>
    if "newer".isPrefixOf name then
      match newerLetters? word, rest with
      | none, _ => fail ("invalid predicate \x60".toList ++ word ++ ['\''])
      | some _, [] => fail ("The ".toList ++ inQuotes word ++ " test needs an argument".toList)
      | some (_, y), _ => newer y
    else fail ("unknown predicate \x60".toList ++ word ++ ['\''])

def looksLikePart (leading : Bool) (cs : Chars) : Bool :=
  match cs with
  | '-' :: _ :: _ => true
  | [')'] => !leading
  | [','] => !leading
  | ['('] => true
  | ['!'] => true
  | _ => false

def readParts (w : Setting) : (fuel : Nat) → (before : Option Chars) → Reading → List Chars →
    Except (List Chars) Reading
  | 0, _, r, _ => .ok r
  | _, _, r, [] => .ok r
  | fuel + 1, before, r, word :: rest =>
    if !looksLikePart false word then
      .error (("paths must precede expression: \x60".toList ++ word ++ ['\'']) ::
        (match before with
          | some b =>
            if w.fs.pathExists (toOctets word) then
              ["possible unquoted pattern after predicate \x60".toList ++ b ++ "'?".toList]
            else []
          | none => []))
    else do
      let (r, rest) ← match word with
        | ['('] => pure (r.add (.open_ word false), rest)
        | [')'] => pure (r.add (.close false), rest)
        | ['!'] => pure (r.add (.not word), rest)
        | [','] => pure (r.add (.joint word commaRank), rest)
        | _ =>
          let name := word.drop (if word[1]? = some '-' then 2 else 1)
          whole w r word rest (String.ofList name)
      readParts w fuel (some word) r rest

/-! Putting the parts together. -/

def isOperator : Option Part → Option Chars
  | some (.not name) => some name
  | some (.joint name _) => some name
  | _ => none

mutual

def front : (fuel : Nat) → (rank : Nat) → (before : Option Part) → List Part →
    Except (List Chars) (Query × List Part)
  | 0, _, _, _ => fail "invalid expression".toList
  | fuel + 1, rank, before, ps => do
    let (q, rest) ← match ps with
      | [] => fail "invalid expression".toList
      | .joint name _ :: _ =>
        fail ("invalid expression; you have used a binary operator '".toList ++ name ++ "' with nothing before it.".toList)
      | .close added :: _ =>
        match isOperator before, added with
        | some name, false => fail ("expected an expression between '".toList ++ name ++ "' and ')'".toList)
        | some name, true => fail ("expected an expression after '".toList ++ name ++ ['\''])
        | none, true => fail "expected an expression after '('".toList
        | none, false => fail "invalid expression; you have too many ')'".toList
      | .single q :: rest => pure (q, rest)
      | .not name :: rest => do
        let (q, rest) ← front fuel notRank (some (.not name)) rest
        pure (Query.not q, rest)
      | .open_ name added :: rest => do
        match rest, added with
        | [], _ => lacksClosing name
        | .close true :: _, _ => lacksClosing name
        | .close false :: _, true =>
          fail "invalid expression: expected expression before closing parentheses ')'.".toList
        | .close false :: _, false => fail "invalid expression; empty parentheses are not allowed.".toList
        | _, _ => pure ()
        let (q, rest) ← front fuel 0 (some (.open_ name added)) rest
        match rest with
        | .close _ :: rest => pure (q, rest)
        | _ => fail "invalid expression; I was expecting to find a ')' somewhere but did not see one.".toList
    more fuel rank q rest
where
  lacksClosing (name : Chars) : Except (List Chars) Unit :=
    fail (("invalid expression; expected to find a ')' but didn't see one. Perhaps you need an extra " ++
      "predicate after '").toList ++ name ++ ['\''])

def more : (fuel : Nat) → (rank : Nat) → Query → List Part → Except (List Chars) (Query × List Part)
  | 0, _, q, ps => .ok (q, ps)
  | fuel + 1, rank, q, ps =>
    match ps with
    | .joint name own :: rest =>
      if rank < own then do
        let (p, rest) ← front fuel own (some (.joint name own)) rest
        let q := if own = andRank then Query.and q p else if own = orRank then Query.or q p else Query.then_ q p
        more fuel rank q rest
      else .ok (q, ps)
    | _ => .ok (q, ps)

end

def Deed.prints : Deed → Bool
  | .prune => false
  | .quit => false
  | _ => true

def queryOf (parts : List Part) : Except (List Chars) Query := do
  let isDeed : Part → Bool
    | .single q => q.deeds.any Deed.prints
    | _ => false
  let print : Part := .single (.deed (.print none '\n'))
  let parts :=
    if parts.isEmpty then [print]
    else if parts.any isDeed then parts
    else .open_ ['('] true :: parts ++ [.close true, .joint "-a".toList andRank, print]
  let (q, rest) ← front (2 * parts.length + 2) 0 none parts
  match rest with
  | [] => return q
  | .close _ :: _ => fail "you have too many ')'".toList
  | _ => fail "unexpected extra predicate".toList

end Finding

end TreePipeline.Tools

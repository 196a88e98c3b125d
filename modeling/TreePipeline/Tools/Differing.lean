import TreePipeline.Files.Relation
import TreePipeline.Shell.Pattern
import TreePipeline.Tools.Comparing
import TreePipeline.Tools.Differing.Style
import TreePipeline.Tools.Entries

/-! Files and directories compared line by line. -/

namespace TreePipeline.Tools

open Shell Host Comparing

namespace Differing

def sideOf (lenient : Bool) (path : Chars) : Act (Except SystemError DiffSide) := do
  let fs ← Act.tree
  let at_ := if path = ['-'] then "/dev/stdin".toList else path
  let time := match fs.locate false (toOctets at_) with
    | .ok l => fs.modifiedAt l
    | .error _ => 0
  match ← contentOrFault path with
  | .ok content => return .ok ⟨path, content, time⟩
  | .error e =>
    if lenient ∧ e.isNotFound then return .ok ⟨path, [], 0⟩ else return .error e

def compareFiles (tool : String) (s : DiffStyle) (nested : Bool) (a b : Chars) : Act Nat := do
  let fs ← Act.tree
  let same := match fs.locate false (toOctets a), fs.locate false (toOctets b) with
    | .ok k, .ok l => fs.isSame k l && a ≠ ['-']
    | _, _ => a = ['-'] && b = ['-']
  let identical : Act Nat := do
    if s.same then say tool ("Files ".toList ++ a ++ " and ".toList ++ b ++ " are identical\n".toList)
    return 0
  if same = true ∧ s.shape ≠ .columns then return ← identical
  let first ← sideOf (s.newFile || s.newFirst) a
  let second ← sideOf s.newFile b
  match first, second with
  | .ok x, .ok y =>
    if s.newFile ∧ x.modified = 0 ∧ y.modified = 0 ∧ !(fs.lstat (toOctets a)).toBool ∧
        !(fs.lstat (toOctets b)).toBool ∧ a ≠ ['-'] ∧ b ≠ ['-'] then
      complain tool (a ++ ": No such file or directory".toList)
      complain tool (b ++ ": No such file or directory".toList)
      return 2
    match s.report x y with
    | none =>
      if s.shape = .columns then
        let ls := DiffStyle.linesOfText
        say tool (s.alikeText (ls x.content) (ls y.content))
      identical
    | some text =>
      let headed := nested && s.shape ≠ .brief && !(s.isBinary x || s.isBinary y)
      let shown (i : Nat) (p : Chars) : Chars := s.labels.getD i p
      say tool ((if headed then tool.toList ++ s.switches ++ ' ' :: shown 0 a ++ ' ' :: shown 1 b ++ ['\n'] else []) ++
        text)
      -- A script cannot leave the last line without an end.
      let unended := if s.shape = .script ∨ s.shape = .forward then
        [x, y].filter fun f => f.content.getLast?.any (· ≠ newline) else []
      for f in unended do
        complain tool (f.name ++ ": No newline at end of file\n".toList)
      return if unended.isEmpty then 1 else 2
  | x, y =>
    for (p, r) in [(a, x), (b, y)] do
      match r with
      | .error e => complain tool (p ++ ": ".toList ++ faultText e)
      | .ok _ => pure ()
    return 2

def compareTrees (tool : String) (s : DiffStyle) : Nat → (a b : Chars) → Act Nat
  | 0, _, _ => return 2
  | fuel + 1, a, b => do
    let fs ← Act.tree
    let names (p : Chars) : List Chars := match fs.listDirectory (toOctets p) with
      | .ok (_, ns) => (ns.map ofOctets).filter fun n => !s.excluded.any fun x => Pattern.admits x n
      | .error _ => []
    let own := names a
    let others := names b
    let all := ((own ++ others.filter fun n => !own.contains n).map toOctets).mergeSort Octets.le
    let inside (d : Chars) (n : Octets) : Chars := ofOctets (Path.join (toOctets d) n)
    let one (n : Octets) : Act Nat := do
      let x := inside a n
      let y := inside b n
      let isTree (p : Chars) : Bool := fs.isDirectory (toOctets p)
      let only (d : Chars) : Act Nat := do
        say tool ("Only in ".toList ++ d ++ ": ".toList ++ ofOctets n ++ ['\n'])
        return 1
      let hasOwn := own.contains (ofOctets n)
      let hasOther := others.contains (ofOctets n)
      if !s.newFile ∧ !hasOther then only a
      else if !(s.newFile || s.newFirst) ∧ !hasOwn then only b
      else if (isTree x ∨ !hasOwn) ∧ (isTree y ∨ !hasOther) ∧ (isTree x ∨ isTree y) then
        if s.recursive then compareTrees tool s fuel x y
        else if !hasOther then only a
        else if !hasOwn then only b
        else do
          say tool ("Common subdirectories: ".toList ++ x ++ " and ".toList ++ y ++ ['\n'])
          return 0
      else if isTree x ∨ isTree y then
        let kind (p : Chars) : Chars := match fs.stat (toOctets p) with
          | .ok n => (if n.isDirectory then "a ".toList else "a ".toList) ++ kindName n
          | .error _ => "a regular file".toList
        say tool ("File ".toList ++ x ++ " is ".toList ++ kind x ++ " while file ".toList ++ y ++ " is ".toList ++
          kind y ++ ['\n'])
        return 1
      else compareFiles tool s true x y
    all.foldl (fun before n => do
      let status ← before
      let here ← one n
      return max status here) (return 0)

def comparePaths (tool : String) (s : DiffStyle) (a b : Chars) : Act Nat := do
  let fs ← Act.tree
  let isTree (p : Chars) : Bool := p ≠ ['-'] && fs.isDirectory (toOctets p)
  let named (d p : Chars) : Chars := ofOctets (Path.join (toOctets d) (toOctets (baseName p)))
  let missing := [a, b].filter fun p => p ≠ ['-'] ∧ !(fs.stat (toOctets p)).toBool
  if (isTree a ∧ b = ['-']) ∨ (a = ['-'] ∧ isTree b) then
    complain tool "cannot compare '-' to a directory".toList
    return 2
  else if isTree a ∧ isTree b then
    if fs.locate false (toOctets a) |>.toOption |>.any fun l => (fs.locate false (toOctets b)).toOption = some l
      then return 0
    else compareTrees tool s maxDepth a b
  else if !missing.isEmpty ∧ (isTree a ∨ isTree b) ∧ !s.newFile then
    for p in missing do
      complain tool (p ++ ": No such file or directory".toList)
    return 2
  else if isTree a then compareFiles tool s false (named a b) b
  else if isTree b then compareFiles tool s false a (named b a)
  else compareFiles tool s false a b

def diffTable : String :=
  "0 1 2 3 4 5 6 7 8 9 a,text b,ignore-space-change B,ignore-blank-lines c C,context=? d,minimal e,ed " ++
    "E,ignore-tab-expansion f,forward-ed F,show-function-line= H,speed-large-files i,ignore-case " ++
    "I,ignore-matching-lines= L,label= n,rcs N,new-file normal p,show-c-function P,unidirectional-new-file q,brief " ++
    "r,recursive s,report-identical-files strip-trailing-cr t,expand-tabs T,initial-tab u U,unified=? " ++
    "v,version w,ignore-all-space x,exclude= X,exclude-from= Z,ignore-trailing-space from-file= to-file= " ++
    "horizon-lines= color=? no-dereference no-ignore-file-name-case ignore-file-name-case tabsize= " ++
    "suppress-blank-empty y,side-by-side W,width= left-column suppress-common-lines"

end Differing

open Differing in
def diff : Tool := fun tool args env => do
  let table := (diffTable.replace "C,context=?" "C= context=?").replace "U,unified=?" "U= unified=?"
  match Options.ofArgs table true args with
  | .error e => misuseComparing tool e
  | .ok (os, operands) =>
    let shapeOf (key : String) : Option DiffShape := match key with
      | "c" | "C" | "context" => some .context
      | "u" | "U" | "unified" => some .unified
      | "e" => some .script
      | "f" => some .forward
      | "y" => some .columns
      | "n" => some .counted
      | "normal" => some .normal
      | _ => none
    let shapes := (os.filterMap fun o => shapeOf o.1).eraseDups
    if 1 < shapes.length then
      return ← misuseComparing tool "conflicting output style options".toList
    let lengths := ["C", "U", "context", "unified"].filterMap os.value?
    match lengths.find? fun v => (number? v).isNone with
    | some v => misuseComparing tool ("invalid context length ".toList ++ inPlainQuotes v)
    | none =>
    let matcher? (p : Chars) : Option Matcher := (Matcher.read (.editing true false) false p).toOption
    let digits := (os.filter fun o => o.1.length = 1 ∧ o.1.all Char.isDigit).map fun o => o.1.toList
    let given := ((lengths.filterMap number?) ++ (number? digits.flatten).toList).foldl max 0
    let asked := !lengths.isEmpty || !digits.isEmpty
    let shape := if os.has "q" then DiffShape.brief
      else (shapes.head?).getD (if os.has "p" || os.has "F" then .context else .normal)
    let words := args.filter fun a => !operands.contains a ∧ a ≠ "--".toList
    let s : DiffStyle := {
      shape := shape
      margin := if shape = .unified ∨ shape = .context then (if asked then given else 3) else 0
      fold := os.has "i", ignoreSpace := os.has "w", ignoreSpaceChange := os.has "b"
      ignoreEndSpace := os.has "Z", evenTabs := os.has "E", expandTabs := os.has "t", ignoreBlank := os.has "B"
      dropReturn := os.has "strip-trailing-cr", initialTab := os.has "T", asText := os.has "a"
      newFile := os.has "N", newFirst := os.has "P", recursive := os.has "r", same := os.has "s", labels := os.values "L"
      ignored := (os.value? "I").bind matcher?
      heading := match os.value? "F" with
        | some p => matcher? p
        | none => if os.has "p" then matcher? "^[[:alpha:]$_]".toList else none
      excluded := os.values "x", switches := words.flatMap fun w => ' ' :: asWord w, zone := zoneOf env
      width := ((os.value? "W").bind number?).getD 130, leftColumn := os.has "left-column"
      onlyChanges := os.has "suppress-common-lines" }
    let each (pairs : List (Chars × Chars)) : Act Nat :=
      pairs.foldl (fun before (a, b) => do
        let status ← before
        let here ← comparePaths tool s a b
        return max status here) (return 0)
    match os.value? "from-file", os.value? "to-file", operands with
    | some f, _, ps => each (ps.map fun p => (f, p))
    | none, some f, ps => each (ps.map fun p => (p, f))
    | none, none, [] => misuseComparing tool ("missing operand after ".toList ++ inPlainQuotes ((args.getLast?).getD tool.toList))
    | none, none, [p] =>
      misuseComparing tool ("missing operand after ".toList ++ inPlainQuotes ((args.getLast?).getD p))
    | none, none, [a, b] => comparePaths tool s a b
    | none, none, _ :: _ :: extra :: _ => misuseComparing tool ("extra operand ".toList ++ inPlainQuotes extra)

end TreePipeline.Tools

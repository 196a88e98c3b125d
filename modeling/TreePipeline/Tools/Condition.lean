import TreePipeline.Host.Program
import TreePipeline.Shell.Arithmetic

/-! Conditions on texts, numbers and files, as they stand in brackets in a script. -/

namespace TreePipeline.Tools

open Shell Host

inductive Condition where
  | known (b : Bool)
  | text (op : String) (arg : Chars)
  | binary (a : Chars) (op : String) (b : Chars)
  | not (c : Condition)
  | both (a b : Condition)
  | either (a b : Condition)

namespace Condition

inductive Fault where
  | unexpectedOperator (text : Chars)
  | missingArgument (text : Chars)
  | closingExpected
  | illegalNumber (text : Chars)

def Fault.message : Fault → Chars
  | .unexpectedOperator t => t ++ ": unexpected operator".toList
  | .missingArgument t => t ++ ": argument expected".toList
  | .closingExpected => "closing paren expected".toList
  | .illegalNumber t => "Illegal number: ".toList ++ t

def unaryOps : List String :=
  ["-e", "-f", "-d", "-h", "-L", "-s", "-r", "-w", "-x", "-z", "-n", "-p", "-S", "-b", "-c", "-t",
    "-u", "-g", "-k", "-O", "-G"]

def binaryOps : List String :=
  ["=", "!=", "<", ">", "-eq", "-ne", "-lt", "-le", "-gt", "-ge", "-nt", "-ot", "-ef"]

def isOp (ops : List String) (a : Chars) : Bool := ops.contains (String.ofList a)

inductive Token where
  | none
  | operand
  | unary (op : String)
  | binary (op : String)
  | not
  | both
  | either
  | opening
  | closing
  deriving DecidableEq

def tokenOf : List Chars → Token
  | [] => .none
  | a :: r =>
    if isOp unaryOps a then
      match r with
      | [] => .operand
      | [_] => .unary (String.ofList a)
      | b :: _ => if isOp binaryOps b then .operand else .unary (String.ofList a)
    else if isOp binaryOps a then .binary (String.ofList a)
    else if a = ['!'] then .not
    else if a = ['-', 'a'] then .both
    else if a = ['-', 'o'] then .either
    else if a = [')'] then .closing
    else if a = ['('] ∧ !r.isEmpty then .opening
    else .operand

mutual

def readOr : Nat → (t : Token) → List Chars → Except Fault (Condition × List Chars)
  | 0, _, _ => .error .closingExpected
  | fuel + 1, t, as => do
    let (c, r) ← readAnd fuel t as
    if tokenOf (r.drop 1) = .either then
      let r := r.drop 2
      let (d, r) ← readOr fuel (tokenOf r) r
      return (.either c d, r)
    else return (c, r)

def readAnd : Nat → (t : Token) → List Chars → Except Fault (Condition × List Chars)
  | 0, _, _ => .error .closingExpected
  | fuel + 1, t, as => do
    let (c, r) ← readNot fuel t as
    if tokenOf (r.drop 1) = .both then
      let r := r.drop 2
      let (d, r) ← readAnd fuel (tokenOf r) r
      return (.both c d, r)
    else return (c, r)

def readNot : Nat → (t : Token) → List Chars → Except Fault (Condition × List Chars)
  | 0, _, _ => .error .closingExpected
  | fuel + 1, t, as => do
    if t = .not then
      let r := as.drop 1
      let (c, r) ← readNot fuel (tokenOf r) (if r.isEmpty then as else r)
      return (.not c, r)
    else readPrimary fuel t as

def readPrimary : Nat → (t : Token) → List Chars → Except Fault (Condition × List Chars)
  | 0, _, _ => .error .closingExpected
  | fuel + 1, t, as =>
    match t with
    | .none => .ok (.known false, as)
    | .opening => do
      let r := as.drop 1
      if tokenOf r = .closing then return (.known false, r)
      let (c, r) ← readOr fuel (tokenOf r) r
      let r := r.drop 1
      if tokenOf r = .closing then return (c, r) else throw .closingExpected
    | .unary op =>
      match as.drop 1 with
      | [] => .error (.missingArgument op.toList)
      | a :: r => .ok (.text op a, a :: r)
    | _ =>
      match tokenOf (as.drop 1), as with
      | .binary op, a :: _ :: b :: r => .ok (.binary a op b, b :: r)
      | .binary op, _ => .error (.missingArgument op.toList)
      | _, as => .ok (.known (!(as.headD []).isEmpty), as)

end

abbrev Reading := Condition × Option Chars

def readFrom (t : Token) (args : List Chars) : Except Fault Reading := do
  let (c, r) ← readOr (4 * args.length + 4) t args
  match r with
  | a :: _ :: _ => return (c, some a)
  | _ => return (c, none)

def readWhole (args : List Chars) : Except Fault Reading := readFrom (tokenOf args) args

def isBracketed (args : List Chars) : Bool :=
  args.head? = some ['('] && args.getLast? = some [')']

def negated (r : Reading) : Reading := (.not r.1, r.2)

def readThree (args : List Chars) : Except Fault Reading :=
  if isOp binaryOps (args.getD 1 []) then readFrom .operand args
  else if isBracketed args then readWhole (args.drop 1).dropLast
  else if args.head? = some ['!'] then (readWhole (args.drop 1)).map negated
  else readWhole args

def read (args : List Chars) : Except Fault Reading :=
  match args.length with
  | 0 => .ok (.known false, none)
  | 3 => readThree args
  | 4 =>
    if isBracketed args then readWhole (args.drop 1).dropLast
    else if args.head? = some ['!'] then (readThree (args.drop 1)).map negated
    else readWhole args
  | _ => readWhole args

def number (cs : Chars) : Except Fault Int :=
  let t := (cs.dropWhile Arithmetic.isSpace).reverse.dropWhile Arithmetic.isSpace |>.reverse
  let (neg, ds) := match t with
    | '-' :: r => (true, r)
    | '+' :: r => (false, r)
    | r => (false, r)
  match Arithmetic.ofDigits 10 ds with
  | some n =>
    if Arithmetic.greatest + (if neg then 1 else 0) < n then .error (.illegalNumber cs)
    else .ok (if neg then -(n : Int) else n)
  | none => .error (.illegalNumber cs)

def compare (op : String) (a b : Int) : Bool :=
  match op with
  | "-eq" => a = b
  | "-ne" => a ≠ b
  | "-lt" => a < b
  | "-le" => a ≤ b
  | "-gt" => b < a
  | _ => b ≤ a

def fileHas (op : String) (fs : FileSystem) (path : Octets) : Bool :=
  match op with
  | "-h" => match fs.lstat path with
    | .ok (.link _) => true
    | _ => false
  | "-L" => match fs.lstat path with
    | .ok (.link _) => true
    | _ => false
  | op =>
    match fs.locate false path with
    | .error _ => false
    | .ok l =>
      let mode := fs.modeAt l
      match op, (fs.get? l).getD .directory with
      | "-e", _ => true
      | "-r", _ => true
      | "-w", _ => true
      | "-O", _ => true
      | "-G", _ => true
      | "-f", n => n.isFile
      | "-d", n => n.isDirectory
      | "-s", .file content _ _ => !content.isEmpty
      | "-s", .directory => true
      | "-x", .directory => true
      | "-x", _ => mode &&& 0o111 ≠ 0
      | "-u", _ => mode &&& 0o4000 ≠ 0
      | "-g", _ => mode &&& 0o2000 ≠ 0
      | "-k", _ => mode &&& 0o1000 ≠ 0
      | "-p", .device (.pipe _) => true
      | "-c", .device (.pipe _) => false
      | "-c", .device _ => true
      | _, _ => false

def modified? (fs : FileSystem) (path : Octets) : Option Int :=
  match fs.locate false path with
  | .ok l => some (fs.modifiedAt l)
  | .error _ => none

def newer (fs : FileSystem) (a b : Octets) : Bool :=
  match modified? fs a, modified? fs b with
  | some s, some t => t < s
  | _, _ => false

def sameFile (fs : FileSystem) (a b : Octets) : Bool :=
  match fs.locate false a, fs.locate false b with
  | .ok l, .ok k => l = k
  | _, _ => false

def holds (fs : FileSystem) : Condition → Except Fault Bool
  | .known b => .ok b
  | .text op arg =>
    match op with
    | "-z" => .ok arg.isEmpty
    | "-n" => .ok (!arg.isEmpty)
    | "-t" => (number arg).map fun _ => false
    | op => .ok (fileHas op fs (toOctets arg))
  | .binary a op b =>
    match op with
    | "=" => .ok (a = b)
    | "!=" => .ok (a ≠ b)
    | "<" => .ok (decide (a < b))
    | ">" => .ok (decide (b < a))
    | "-nt" => .ok (newer fs (toOctets a) (toOctets b))
    | "-ot" => .ok (newer fs (toOctets b) (toOctets a))
    | "-ef" => .ok (sameFile fs (toOctets a) (toOctets b))
    | op => do
      let m ← number a
      let n ← number b
      return compare op m n
  | .not c => do
    let b ← holds fs c
    return !b
  | .both c d => do
    let a ← holds fs c
    let b ← holds fs d
    return a && b
  | .either c d => do
    let a ← holds fs c
    let b ← holds fs d
    return a || b

def check (args : List Chars) : Act (Except Fault Bool) := do
  match read args with
  | .error e => return .error e
  | .ok (c, excess) =>
    let reply ← Act.call (.files fun fs =>
      (match holds fs c with
      | .ok b => .number (if b then 1 else 0)
      | .error (.illegalNumber t) => .data (toOctets t)
      | .error _ => .done, fs))
    match reply, excess with
    | .data t, _ => return .error (.illegalNumber (ofOctets t))
    | _, some a => return .error (.unexpectedOperator a)
    | .number n, none => return .ok (n = 1)
    | _, none => return .error .closingExpected

end Condition

end TreePipeline.Tools

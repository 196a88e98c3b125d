import TreePipeline.Host.Process

/-!
What the system tells about processes: for each of them a directory of files and links, which are
made when somebody looks.
-/

namespace TreePipeline.Host

namespace Report

def status (p : Process) (self : Bool) : Octets :=
  let state := if self then "R" else "S"
  Octets.ofAscii (toString p.pid ++ " (") ++ p.name ++
    Octets.ofAscii (") " ++ " ".intercalate
      ([state, toString p.parent, toString p.group, toString p.session, "0", "-1"] ++
        List.replicate 44 "0") ++ "\n")

def namedStatus (p : Process) (self : Bool) : Octets :=
  let line (name value : String) : Octets := Octets.ofAscii (name ++ ":\t" ++ value ++ "\n")
  let ids := "0\t0\t0\t0"
  Octets.ofAscii "Name:\t" ++ p.name ++ Octets.ofAscii "\n" ++
    line "Umask" ("0" ++ String.ofList (padded (Nat.toDigits 8 p.mask))) ++
    line "State" (if self then "R (running)" else "S (sleeping)") ++
    line "Tgid" (toString p.pid) ++ line "Ngid" "0" ++ line "Pid" (toString p.pid) ++
    line "PPid" (toString p.parent) ++ line "TracerPid" "0" ++ line "Uid" ids ++ line "Gid" ids ++
    line "Threads" "1"
where
  padded (ds : List Char) : List Char := List.replicate (3 - ds.length) '0' ++ ds

def resources : List (Resource × String × String) :=
  [(.cpu, "cpu time", "seconds"), (.fileSize, "file size", "bytes"), (.data, "data size", "bytes"),
    (.stack, "stack size", "bytes"), (.core, "core file size", "bytes"),
    (.resident, "resident set", "bytes"), (.processes, "processes", "processes"),
    (.files, "open files", "files"), (.locked, "locked memory", "bytes"),
    (.memory, "address space", "bytes"), (.locks, "file locks", "locks")]

def limits (p : Process) : Octets :=
  let pad (width : Nat) (s : String) : String :=
    s ++ String.ofList (List.replicate (width - s.length) ' ')
  let shown (value : Option Nat) : String := (value.map toString).getD "unlimited"
  let line (a b c d : String) : String := pad 25 a ++ " " ++ pad 20 b ++ " " ++ pad 20 c ++ " " ++
    pad 10 d ++ "\n"
  let rows := resources.map fun (r, title, unit) =>
    line ("Max " ++ title) (shown (p.limit r).soft) (shown (p.limit r).hard) unit
  Octets.ofAscii (line "Limit" "Soft Limit" "Hard Limit" "Units" ++ String.join rows)

def withZeros (ts : List Octets) : Octets := ts.flatMap fun t => t ++ [0]

def content? (p : Process) (self : Bool) (name : String) : Option Octets :=
  match name with
  | "stat" => some (status p self)
  | "status" => some (namedStatus p self)
  | "limits" => some (limits p)
  | "comm" => some (p.name ++ [10])
  | "cmdline" => some (withZeros p.image.args)
  | "environ" => some (withZeros (p.image.env.map fun (k, v) => k ++ [0x3d] ++ v))
  | _ => none

def fileNames : List String := ["stat", "status", "limits", "comm", "cmdline", "environ"]

def root : Octets := Octets.ofAscii "proc"

def descriptorDirectory : Octets := Octets.ofAscii "fd"

def supervisorProgram : Octets := Octets.ofAscii "/usr/bin/treegen"

def isShown (l : Location) : Bool := l.head? = some root && 1 < l.length

end Report

namespace Computer

def shownProcess? (c : Computer) (name : Octets) : Option Process := do
  let n ← (Utf8.decodeLossy name).toNat?
  c.process? n

def descriptionText (c : Computer) (d : Description) : Octets :=
  let device (name : String) : Octets := Octets.ofAscii ("/dev/" ++ name)
  match d.handle with
  | .file number _ =>
    match c.files.locationOf? number with
    | some l => FileSystem.pathOf l
    | none =>
      let l := ((c.orphans.lookup number).map Prod.fst).getD []
      FileSystem.pathOf l ++ Octets.ofAscii " (deleted)"
  | .text _ => Octets.ofAscii "/proc"
  | .directory l => FileSystem.pathOf l
  | .device .null => device "null"
  | .device .zero => device "zero"
  | .device .full => device "full"
  | .device .random => device "urandom"
  | .device .terminal => device "tty"
  | .device (.pipe n) => Octets.ofAscii ("pipe:[" ++ toString (30000 + n) ++ "]")
  | .pipe n => Octets.ofAscii ("pipe:[" ++ toString (40000 + n) ++ "]")
  | .stream .out => Octets.ofAscii "pipe:[39001]"
  | .stream .err => Octets.ofAscii "pipe:[39002]"

def shownEntries (c : Computer) (p : Process) : List (Location × Node) :=
  let top : Location := [Report.root, Octets.ofAscii (toString p.pid)]
  let descriptors : Location := top ++ [Report.descriptorDirectory]
  let files := Report.fileNames.map fun n => (top ++ [Octets.ofAscii n], Node.file [] 0o444 c.clock)
  let links := p.descriptors.filterMap fun (fd, id) => do
    let d ← c.descriptions.lookup id
    return (descriptors ++ [Octets.ofAscii (toString fd)], Node.link (c.descriptionText d))
  [(top, .directory), (descriptors, .directory),
    (top ++ [Octets.ofAscii "cwd"], .link (FileSystem.pathOf p.directory)),
    (top ++ [Octets.ofAscii "root"], .link [Path.slash]),
    (top ++ [Octets.ofAscii "exe"], .link (FileSystem.pathOf p.image.program))] ++ files ++ links

def shownPipes (c : Computer) (p : Process) : List (Location × Node) :=
  let top : Location := [Report.root, Octets.ofAscii (toString p.pid), Report.descriptorDirectory]
  p.descriptors.filterMap fun (_, id) => do
    let d ← c.descriptions.lookup id
    let text := c.descriptionText d
    match d.handle with
    | .pipe n => some (top ++ [text], .device (.pipe n))
    | .device (.pipe n) => some (top ++ [text], .device (.pipe n))
    | .stream _ => some (top ++ [text], .device (.pipe 0))
    | _ => none

def supervisorEntries : List (Location × Node) :=
  let top : Location := [Report.root, Octets.ofAscii (toString supervisorPid)]
  [(top, .directory), (top ++ [Octets.ofAscii "exe"], .link Report.supervisorProgram)]

def filesOf (c : Computer) (p : Process) : FileSystem :=
  let self := ([Report.root, Octets.ofAscii "self"], Node.link (Octets.ofAscii (toString p.pid)))
  let shown := self :: supervisorEntries ++ (c.processes.filter fun q => !q.isDead).flatMap c.shownEntries
  { c.files with
    directory := p.directory, mask := p.mask, nodes := shown ++ c.files.nodes
    unlisted := c.shownPipes p }

def setFiles (c : Computer) (fs : FileSystem) : Computer :=
  c.takeFiles { fs with nodes := fs.nodes.filter fun e => !Report.isShown e.1, unlisted := [] }

def shownText? (c : Computer) (p : Process) (l : Location) : Option Octets :=
  match l with
  | [top, who, name] =>
    if top = Report.root then do
      let q ← c.shownProcess? who
      Report.content? q (q.pid = p.pid) (Utf8.decodeLossy name)
    else none
  | _ => none

def linkedDescription? (c : Computer) (fs : FileSystem) : Nat → Octets → Option Description
  | 0, _ => none
  | links + 1, path =>
    match fs.locate true path with
    | .error _ => none
    | .ok l =>
      match fs.get? l with
      | some (.link goal) =>
        let next := linkedDescription? c fs links
          (if Path.isAbsolute goal then goal else Path.join (FileSystem.pathOf l.dropLast) goal)
        match l with
        | [top, who, fds, n] =>
          if top = Report.root ∧ fds = Report.descriptorDirectory then do
            let q ← c.shownProcess? who
            let fd ← (Utf8.decodeLossy n).toNat?
            (c.description? q fd).map Prod.snd
          else next
        | _ => next
      | _ => none

end Computer

end TreePipeline.Host

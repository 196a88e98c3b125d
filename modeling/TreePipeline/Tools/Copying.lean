import TreePipeline.Tools.Extent
import TreePipeline.Tools.Texts

/-! Copying in blocks. -/

namespace TreePipeline.Tools

open Shell Host

structure BlockCopy where
  input : Option Chars := none
  output : Option Chars := none
  blockSize : Nat := 512
  count : Option Nat := none
  skip : Nat := 0
  unknown : Option Chars := none
  quiet : Bool := false

def BlockCopy.read : List Chars → BlockCopy → BlockCopy
  | [], b => b
  | a :: r, b =>
    let key := a.takeWhile (· ≠ '=')
    let value := a.drop (key.length + 1)
    read r (match String.ofList key with
      | "if" => { b with input := some value }
      | "of" => { b with output := some value }
      | "bs" => { b with blockSize := (Extent.read value).toOption.getD 0 }
      | "count" => { b with count := number? value }
      | "skip" => { b with skip := (number? value).getD 0 }
      | "status" => { b with quiet := value = "none".toList }
      | key =>
        if ["conv", "seek", "ibs", "obs", "cbs", "iflag", "oflag"].contains key then b
        else { b with unknown := b.unknown.or (some a) })

def skipBlocks (source size : Nat) : Nat → Act Unit
  | 0 => return ()
  | n + 1 => do
    match ← Act.read source size with
    | .ok (_ :: _) => skipBlocks source size n
    | _ => return ()

structure BlockCount where
  whole : Nat
  part : Nat
  fault : Option (String × SystemError) := none

def copyBlocks (source target size : Nat) : Nat → (whole part : Nat) → Act BlockCount
  | 0, whole, part => return ⟨whole, part, none⟩
  | left + 1, whole, part => do
    match ← Act.read source size with
    | .ok [] => return ⟨whole, part, none⟩
    | .error e => return ⟨whole, part, some ("error reading ", e)⟩
    | .ok bs =>
      match ← Act.write target bs with
      | .error e => return ⟨whole, part, some ("error writing ", e)⟩
      | .ok () =>
        if bs.length = size then copyBlocks source target size left (whole + 1) part
        else copyBlocks source target size left whole (part + 1)

def dd : Tool := fun tool args _ => do
  let b := BlockCopy.read args {}
  match b.unknown with
  | some a => misuse tool ("unrecognized operand ".toList ++ inQuotes a)
  | none =>
  let input ← match b.input with
    | none => pure (Except.ok 0)
    | some p => Act.openFile (toOctets p) .read
  match input with
  | .error e => do
    complain tool ("failed to open ".toList ++ inQuotes (b.input.getD []) ++ ": ".toList ++ faultText e)
    return 1
  | .ok source =>
    let output ← match b.output with
      | none => pure (Except.ok 1)
      | some p => Act.openFile (toOctets p) .write
    match output with
    | .error e => do
      complain tool
        ("failed to open ".toList ++ inQuotes (b.output.getD []) ++ ": ".toList ++ faultText e)
      return 1
    | .ok target =>
      skipBlocks source b.blockSize b.skip
      let done ← copyBlocks source target b.blockSize (b.count.getD maxReads) 0 0
      match done.fault with
      | some (verb, e) =>
        let name := if verb = "error reading " then b.input.getD "standard input".toList
          else b.output.getD "standard output".toList
        complainOf tool verb name e
      | none => pure ()
      if !b.quiet then
        let line (verb : String) : String := toString done.whole ++ "+" ++
          toString done.part ++ " records " ++ verb ++ "\n"
        let _ ← Act.write 2 (Octets.ofAscii (line "in" ++ line "out"))
      return if done.fault.isSome then 1 else 0

end TreePipeline.Tools

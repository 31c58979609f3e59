/-
The command line.

    desinence [RULES_FILE] [WORD ...]

checks a table file, or the Portuguese one without arguments, and shows the stems
of the words. The file is brought in as a tree that holds it alone; from there on
the check decides, and what it has to say is printed.
-/
import Desinence.Check

set_option autoImplicit false

namespace Desinence

namespace CommandLine

/-- How the command is called. -/
def invocation : Check.Invocation where
  command := "desinence".toList
  sampleFile := "portuguese.rslp".toList
  defaultFile := .ofText "assets/portuguese.rslp".toList

/-- Where the parts of a path lead if every one of them is a folder. -/
def placeOf (parts : List Text) : Location :=
  parts.foldl (fun loc part => if part = ['.', '.'] then loc.dropLast else loc ++ [part]) []

/-- The tree in which the folders on a path exist, and at its end the entry. -/
def treeAlong (parts : List Text) (e : Entry) : FileTree :=
  let folders := (List.range parts.length).map fun n => placeOf (parts.take n)
  let tree : FileTree := folders.foldl (fun t loc => t.plant loc .folder) ⟨[], []⟩
  tree.plant (placeOf parts) e

/-- **The tree that a path shows**: the file or the folder it leads to, or the
file that is in its way, or nothing. -/
def treeFor (p : Path) : IO FileTree := do
  match ← (IO.FS.readBinFile (String.ofList p.text)).toBaseIO with
  | .ok bytes => return treeAlong p.parts (.file bytes.toList)
  | .error (.noFileOrDirectory ..) => return ⟨[], []⟩
  | .error (.inappropriateType none ..) => return treeAlong p.parts .folder
  | .error (.inappropriateType (some _) ..) => return treeAlong p.parts.dropLast (.file [])
  | .error other => throw other

/-- Brings in the file that is to be checked. -/
def filesFor (args : List Text) : IO FileTree :=
  if Check.asksForHelp args then return ⟨[], []⟩
  else treeFor (Check.fileAndWords invocation args).1

end CommandLine

end Desinence

open Desinence in
def main (args : List String) : IO UInt32 := do
  let args := args.map String.toList
  let report := Check.run CommandLine.invocation (← CommandLine.filesFor args) args
  IO.print (String.ofList report.out)
  IO.eprint (String.ofList report.err)
  match report.status with
  | .ok status => return UInt32.ofNat status
  | .error fault =>
    IO.eprintln (String.ofList fault.message)
    return 1

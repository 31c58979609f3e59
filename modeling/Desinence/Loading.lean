/-
Loading tables from files.

A table file is UTF-8, read strictly and with its newlines unified. Loading
reports every stage as it is completed, also those in front of a fault, and at
the end how much was read.

`load` is `load_rules`, with the records that `parse_rules` writes on the way. The
messages about broken bytes are those of the strict UTF-8 decoder.
-/
import Desinence.Assembly
import Desinence.FileTree
import Desinence.Log

set_option autoImplicit false

namespace Desinence

/-! ## Faults -/

/-- What is wrong with a sequence of bytes, in words. -/
def Utf8.Flaw.text : Utf8.Flaw → Text
  | .badStart => "invalid start byte".toList
  | .badContinuation => "invalid continuation byte".toList
  | .endOfData => "unexpected end of data".toList

/-- **The message about broken bytes**: one byte is shown and gets a position,
several get the range of their positions. -/
def Utf8.Fault.message (f : Utf8.Fault) : Text :=
  let place :=
    if f.length = 1 then
      "byte 0x".toList ++ hexDigits 2 f.lead.toNat ++ " in position ".toList ++ Text.ofNat f.offset
    else
      "bytes in position ".toList ++ Text.ofNat f.offset ++ ['-'] ++
        Text.ofNat (f.offset + f.length - 1)
  "'utf-8' codec can't decode ".toList ++ place ++ ": ".toList ++ f.flaw.text

/-- **Why a table cannot be loaded**: its file, the file's bytes, or its text. -/
inductive LoadFault
  | file (fault : FileFault)
  | encoding (fault : Utf8.Fault)
  | table (fault : TableFault)
  deriving Repr, DecidableEq

/-- The message of a fault. -/
def LoadFault.message : LoadFault → Text
  | .file fault => fault.message
  | .encoding fault => fault.message
  | .table fault => fault.message

/-- Whether the fault is one of the file's format. -/
def LoadFault.isFormatError : LoadFault → Bool
  | .table (.format _) => true
  | _ => false

/-- Whether the fault is that the file is missing. -/
def LoadFault.isMissingFile : LoadFault → Bool
  | .file ⟨.missing, _⟩ => true
  | _ => false

/-! ## Loading -/

/-- **The text of a file**, its bytes decoded and its newlines unified. -/
def textAt (files : FileTree) (path : Path) : Except LoadFault Text :=
  match files.read path with
  | .error fault => .error (.file fault)
  | .ok bytes =>
    match Utf8.decode bytes with
    | .error fault => .error (.encoding fault)
    | .ok text => .ok text.unifyNewlines

/-- The record of a completed stage. -/
def stageRecord (s : Stage) : LogRecord :=
  ⟨Level.debug, .table, "Parsed stage '".toList ++ s.name ++ "' (".toList ++
    Text.ofNat s.rules.length ++ " rules)".toList⟩

/-- The record of a loaded table. -/
def tableRecord (path : Path) (t : Table) : LogRecord :=
  ⟨Level.info, .table, "Loaded ".toList ++ Text.ofNat t.length ++ " stages (".toList ++
    Text.ofNat t.ruleCount ++ " rules) from ".toList ++ path.text⟩

/-- What came of loading: the table or a fault, and the records on the way. -/
structure Loaded where
  result : Except LoadFault Table
  log : List LogRecord

/-- **Loads a table** from a file. -/
def load (files : FileTree) (path : Path) : Loaded :=
  match textAt files path with
  | .error fault => ⟨.error fault, []⟩
  | .ok text =>
    let reading := Table.reading text
    let stages := reading.stages.map stageRecord
    match reading.fault with
    | some fault => ⟨.error (.table fault), stages⟩
    | none => ⟨.ok reading.stages, stages ++ [tableRecord path reading.stages]⟩

end Desinence

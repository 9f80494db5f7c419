import RegisterFile.Renderer

set_option autoImplicit false

/-!
# The text of a register file

What the standard template is to yield for a plan: its frame with the values of the plan inserted as
they are, and in each section the lines of the registers that the section is for, in the order of
the declaration.

## Main definitions

* `Vhdl.Section.admits` - the registers that a section is for.
* `Plan.resetLiteral` - the value on reset as a bit string literal.
* `Plan.line`, `Plan.sectionLines` - the line of a register in a section, and all of them.
* `Plan.frameValue` - what the frame shows.
* `Plan.registerFileText` - the whole text.
-/

namespace RegisterFile

/-- Whether a section has a line for the registers of an access. -/
def Vhdl.Section.admits : Section → Option Access → Bool
  | .header, _ => true
  | .ports, access => access.isSome
  | .indices, _ => true
  | .resetValues, _ => true
  | .writable, access => access = some .trigger || access = some .control
  | .clears, access => access = some .trigger
  | .overrides, access => access = some .status || access = some .trigger
  | .outputs, access => access = some .trigger || access = some .control

/-- Literal text, or the text of a value as it is. -/
def Vhdl.Piece.inserted {α : Type} (text : α → String) : Piece α → String
  | .text s => s
  | .value v => text v

/-- The text of some pieces. -/
def Vhdl.piecesText {α : Type} (text : α → String) (pieces : List (Piece α)) : String :=
  String.join (pieces.map (Piece.inserted text))

namespace Plan

open Vhdl (Section FrameValue Part)

variable (p : Plan) (r : Register)

/-! ## Lines -/

/-- A text in the column of labels. -/
def column (s : String) : String := Text.padEnd p.labelColumn s

/-- The value on reset, with a hexadecimal digit for every four bits of the register. -/
def resetLiteral : String :=
  String.ofList ('x' :: '"' ::
    Numeral.zeroPadded (p.width.bits / 4) (Numeral.upperDigits 16 r.initval.toNat) ++ ['"'])

/-- The line of a register in a section that has one for it. -/
def line : Section → String
  | .header => String.join [
      "-- ", p.column r.label, "  ", Text.padEnd 4 r.mode.tag, "  ", Numeral.hex (p.byteOffset r)]
  | .ports => String.join [
      "    ", p.column r.label,
      if r.mode.access? = some .status then
        " : in  std_logic_vector(C_S_AXI_DATA_WIDTH - 1 downto 0);"
      else " : out std_logic_vector(C_S_AXI_DATA_WIDTH - 1 downto 0);"]
  | .indices => String.join [
      "  constant C_", p.column (Text.uppercase r.label), " : integer := ",
      toString r.address.toNat, ";"]
  | .resetValues => String.join [
      "    C_", p.column (Text.uppercase r.label), " => ", p.resetLiteral r, ","]
  | .writable => String.join ["    C_", p.column (Text.uppercase r.label), " => true,"]
  | .clears => String.join [
      "        regs(C_", Text.uppercase r.label, ") <= (others => '0');"]
  | .overrides =>
    if r.mode.access? = some .status then
      String.join ["    readback(C_", Text.uppercase r.label, ") <= ", r.label, ";"]
    else String.join ["    readback(C_", Text.uppercase r.label, ") <= (others => '0');"]
  | .outputs => String.join [
      "  ", p.column r.label, " <= regs(C_", Text.uppercase r.label, ");"]

/-- The lines of a section: one for every register that it is for, in the order of declaration. -/
def sectionLines (s : Section) : List String :=
  (p.registers.filter fun r => s.admits r.mode.access?).map fun r => p.line r s

/-! ## The whole text -/

/-- What the frame shows. -/
def frameValue : FrameValue → String
  | .moduleName => p.moduleName
  | .slots => toString p.slots
  | .width => toString p.width.bits
  | .busAddressBits => toString p.busAddressBits
  | .log2Bytes => toString p.width.log2Bytes
  | .labelHeading => p.column "label"

/-- The text of a part of the template; every line of a section ends with a line break. -/
def partText : Part → String
  | .frame pieces => Vhdl.piecesText p.frameValue pieces
  | .lines s => s.heading ++ "\n" ++ String.join ((p.sectionLines s).map (· ++ "\n"))

/-- The text of the register file of a plan. -/
def registerFileText : String := String.join (Vhdl.template.map p.partText)

end Plan

end RegisterFile

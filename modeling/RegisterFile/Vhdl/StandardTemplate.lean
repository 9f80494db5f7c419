set_option autoImplicit false

/-!
# The standard template

The template of an AXI4-Lite register file in VHDL.

The template is a frame, which shows values of the plan, with eight sections in it. A section is a
loop over the registers, which puts a line for each register, or for those of some modes only.

Registers whose mode is `stat` are inputs that the bus reads. Registers whose mode is `ctrl` are
outputs that the bus writes and reads back. Registers whose mode is `trig` are outputs that return
to zero one cycle after a write and read back as zero. A register of any other mode has an index and
a value on reset, but is neither input nor output.

Every statement tag stands on a line of its own and drops the line break before it, so that a
section has one line for each of its registers and no empty lines.

## Main definitions

* `Vhdl.FrameValue`, `Vhdl.LineValue` - what the frame and the lines of sections show.
* `Vhdl.Piece` - literal text or a value.
* `Vhdl.Lines` - the lines of a section.
* `Vhdl.Section`, `Vhdl.Section.lines` - the eight sections.
* `Vhdl.templateName`, `Vhdl.template`, `Vhdl.templateSource` - the template.
-/

namespace RegisterFile.Vhdl

/-! ## Pieces -/

/-- A value that the frame shows. -/
inductive FrameValue where
  | moduleName
  | slots
  | width
  | busAddressBits
  | log2Bytes
  /-- The heading of the column of labels. -/
  | labelHeading

/-- The expression for a value of the frame. -/
def FrameValue.expression : FrameValue → String
  | .moduleName => "MODULE_NAME"
  | .slots => "NUM_REGISTERS"
  | .width => "REGISTER_WIDTH"
  | .busAddressBits => "AXI_ADDR_WIDTH"
  | .log2Bytes => "LOG2_REGISTER_BYTE_WIDTH"
  | .labelHeading => "\"label\" | ljust(width=JUST_WIDTH)"

/-- A value of a register that the lines of sections show. -/
inductive LineValue where
  | label
  | paddedLabel
  /-- The label in upper case. -/
  | constant
  | paddedConstant
  | mode
  | byteOffset
  | address
  | resetValue

/-- The expression for a value of the register `reg`. -/
def LineValue.expression : LineValue → String
  | .label => "reg.label"
  | .paddedLabel => "reg.label | ljust(width=JUST_WIDTH)"
  | .constant => "reg.label | upper"
  | .paddedConstant => "reg.label | upper | ljust(width=JUST_WIDTH)"
  | .mode => "reg.mode | ljust(width=4)"
  | .byteOffset => "reg.byte_offset"
  | .address => "reg.addr"
  | .resetValue => "reg.initval | vhdl_hex(bits=REGISTER_WIDTH)"

/-- Literal text or a value. -/
inductive Piece (α : Type) where
  | text (s : String)
  | value (v : α)

/-- An output tag around an expression. -/
def outputTag (expression : String) : String := "\x7b\x7b " ++ expression ++ " \x7d\x7d"

/-- The text of some pieces, with an output tag for every value. -/
def piecesSource {α : Type} (expression : α → String) : List (Piece α) → String
  | [] => ""
  | .text s :: ps => s ++ piecesSource expression ps
  | .value v :: ps => outputTag (expression v) ++ piecesSource expression ps

/-! ## Sections -/

/-- A statement tag on a line of its own, which drops the line break before it. -/
def statementTag (statement : String) : String := "\n\x7b%- " ++ statement ++ " %\x7d"

/-- A line for a register. -/
abbrev Line := List (Piece LineValue)

/-- The text of a line. -/
def Line.source (line : Line) : String := "\n" ++ piecesSource LineValue.expression line

/-- The registers that a line is for. -/
inductive Guard where
  | status
  | trigger
  | writable

/-- The condition on the mode of the register `reg`. -/
def Guard.condition : Guard → String
  | .status => "reg.mode == \"stat\""
  | .trigger => "reg.mode == \"trig\""
  | .writable => "reg.mode == \"trig\" or reg.mode == \"ctrl\""

/-- A line and the registers that it is for. -/
structure Branch where
  guard : Guard
  line : Line

/-- The lines of a section. -/
inductive Lines where
  /-- The same line for every register. -/
  | always (line : Line)
  /-- The line of the first branch whose guard admits the register, if there is one. -/
  | choice (first : Branch) (others : List Branch)

/-- A branch behind the tag that starts it. -/
def Branch.source (keyword : String) (b : Branch) : String :=
  statementTag (keyword ++ " " ++ b.guard.condition) ++ b.line.source

/-- The text of the branches of a choice behind the first one. -/
def othersSource : List Branch → String
  | [] => ""
  | b :: bs => b.source "elif" ++ othersSource bs

/-- The text of the lines of a section. -/
def Lines.source : Lines → String
  | .always line => line.source
  | .choice first others => first.source "if" ++ othersSource others ++ statementTag "endif"

/-- A section of the template: a loop over the registers. -/
inductive Section where
  /-- The comment at the start. -/
  | header
  /-- The ports of the entity. -/
  | ports
  /-- The constants for the indices of the registers. -/
  | indices
  /-- The values on reset. -/
  | resetValues
  /-- The flags of the registers that the bus writes. -/
  | writable
  /-- The assignments that end the pulses of triggers. -/
  | clears
  /-- What is read back in place of the registers' values. -/
  | overrides
  /-- The assignments of the output ports. -/
  | outputs

namespace Section

/-- The end of the line in front of a section. -/
def heading : Section → String
  | .header => "  mode  offset"
  | .ports => "    -- Register ports"
  | .indices => "  -- Register indices"
  | .resetValues => "  constant C_RESET_VALUES : t_register_file := ("
  | .writable => "  constant C_WRITABLE : t_flags := ("
  | .clears => "        axi_wready  <= '0';"
  | .overrides => "    readback <= regs;"
  | .outputs => "  -- Register outputs"

/-- The lines of a section. -/
def lines : Section → Lines
  | .header => .always [
      .text "-- ", .value .paddedLabel, .text "  ", .value .mode, .text "  ", .value .byteOffset]
  | .ports => .choice
      ⟨.status, [
        .text "    ", .value .paddedLabel,
        .text " : in  std_logic_vector(C_S_AXI_DATA_WIDTH - 1 downto 0);"]⟩ [
      ⟨.writable, [
        .text "    ", .value .paddedLabel,
        .text " : out std_logic_vector(C_S_AXI_DATA_WIDTH - 1 downto 0);"]⟩]
  | .indices => .always [
      .text "  constant C_", .value .paddedConstant, .text " : integer := ", .value .address,
      .text ";"]
  | .resetValues => .always [
      .text "    C_", .value .paddedConstant, .text " => ", .value .resetValue, .text ","]
  | .writable => .choice
      ⟨.writable, [.text "    C_", .value .paddedConstant, .text " => true,"]⟩ []
  | .clears => .choice
      ⟨.trigger, [.text "        regs(C_", .value .constant, .text ") <= (others => '0');"]⟩ []
  | .overrides => .choice
      ⟨.status, [
        .text "    readback(C_", .value .constant, .text ") <= ", .value .label, .text ";"]⟩ [
      ⟨.trigger, [
        .text "    readback(C_", .value .constant, .text ") <= (others => '0');"]⟩]
  | .outputs => .choice
      ⟨.writable, [
        .text "  ", .value .paddedLabel, .text " <= regs(C_", .value .constant, .text ");"]⟩ []

/-- The text of a section. -/
def source (s : Section) : String :=
  s.heading ++ statementTag "for reg in registers" ++ s.lines.source ++ statementTag "endfor" ++
    "\n"

end Section

/-! ## The template -/

/-- A part of the template. -/
inductive Part where
  | frame (pieces : List (Piece FrameValue))
  | lines (s : Section)

/-- The text of a part. -/
def Part.source : Part → String
  | .frame pieces => piecesSource FrameValue.expression pieces
  | .lines s => s.source

/-- The name of the standard template. -/
def templateName : String := "axi_regfile.vhd"

/-- The parts of the standard template. -/
def template : List Part := [
  .frame [
    .text "-- ", .value .moduleName, .text ": AXI4-Lite memory mapped register file (VHDL-2008)\n",
    .text "--\n",
    .text "-- Generated by regfilegen. Do not edit by hand.\n",
    .text "--\n",
    .text "-- ", .value .slots, .text " register slots of ", .value .width,
      .text " bits, ", .value .busAddressBits, .text "-bit byte address\n",
    .text "--\n",
    .text "-- ", .value .labelHeading],
  .lines .header,
  .frame [
    .text "\n",
    .text "library ieee;\n",
    .text "use ieee.std_logic_1164.all;\n",
    .text "use ieee.numeric_std.all;\n",
    .text "\n",
    .text "entity ", .value .moduleName, .text " is\n",
    .text "  generic (\n",
    .text "    C_S_AXI_DATA_WIDTH : integer := ", .value .width, .text ";\n",
    .text "    C_S_AXI_ADDR_WIDTH : integer := ", .value .busAddressBits, .text "\n",
    .text "  );\n",
    .text "  port (\n"],
  .lines .ports,
  .frame [
    .text "\n",
    .text "    -- AXI4-Lite slave interface\n",
    .text "    S_AXI_ACLK    : in  std_logic;\n",
    .text "    S_AXI_ARESETN : in  std_logic;\n",
    .text "    S_AXI_AWADDR  : in  std_logic_vector(C_S_AXI_ADDR_WIDTH - 1 downto 0);\n",
    .text "    S_AXI_AWPROT  : in  std_logic_vector(2 downto 0);\n",
    .text "    S_AXI_AWVALID : in  std_logic;\n",
    .text "    S_AXI_AWREADY : out std_logic;\n",
    .text "    S_AXI_WDATA   : in  std_logic_vector(C_S_AXI_DATA_WIDTH - 1 downto 0);\n",
    .text "    S_AXI_WSTRB   : in  std_logic_vector((C_S_AXI_DATA_WIDTH / 8) - 1 downto 0);\n",
    .text "    S_AXI_WVALID  : in  std_logic;\n",
    .text "    S_AXI_WREADY  : out std_logic;\n",
    .text "    S_AXI_BRESP   : out std_logic_vector(1 downto 0);\n",
    .text "    S_AXI_BVALID  : out std_logic;\n",
    .text "    S_AXI_BREADY  : in  std_logic;\n",
    .text "    S_AXI_ARADDR  : in  std_logic_vector(C_S_AXI_ADDR_WIDTH - 1 downto 0);\n",
    .text "    S_AXI_ARPROT  : in  std_logic_vector(2 downto 0);\n",
    .text "    S_AXI_ARVALID : in  std_logic;\n",
    .text "    S_AXI_ARREADY : out std_logic;\n",
    .text "    S_AXI_RDATA   : out std_logic_vector(C_S_AXI_DATA_WIDTH - 1 downto 0);\n",
    .text "    S_AXI_RRESP   : out std_logic_vector(1 downto 0);\n",
    .text "    S_AXI_RVALID  : out std_logic;\n",
    .text "    S_AXI_RREADY  : in  std_logic\n",
    .text "  );\n",
    .text "end entity ", .value .moduleName, .text ";\n",
    .text "\n",
    .text "architecture rtl of ", .value .moduleName, .text " is\n",
    .text "\n",
    .text "  constant C_NUM_REGISTERS : integer := ", .value .slots, .text ";\n",
    .text "  -- Byte offset bits below the register index\n",
    .text "  constant C_ADDR_LSB      : integer := ", .value .log2Bytes, .text ";\n",
    .text "\n",
    .text "  subtype t_register is std_logic_vector(C_S_AXI_DATA_WIDTH - 1 downto 0);\n",
    .text "  type t_register_file is array (0 to C_NUM_REGISTERS - 1) of t_register;\n",
    .text "  type t_flags is array (0 to C_NUM_REGISTERS - 1) of boolean;\n",
    .text "\n"],
  .lines .indices,
  .frame [
    .text "\n"],
  .lines .resetValues,
  .frame [
    .text "    others => (others => '0')\n",
    .text "  );\n",
    .text "\n"],
  .lines .writable,
  .frame [
    .text "    others => false\n",
    .text "  );\n",
    .text "\n",
    .text "  signal regs     : t_register_file := C_RESET_VALUES;\n",
    .text "  signal readback : t_register_file;\n",
    .text "\n",
    .text "  signal axi_awready : std_logic;\n",
    .text "  signal axi_wready  : std_logic;\n",
    .text "  signal axi_bvalid  : std_logic;\n",
    .text "  signal axi_arready : std_logic;\n",
    .text "  signal axi_rvalid  : std_logic;\n",
    .text "  signal axi_rdata   : t_register;\n",
    .text "\n",
    .text "begin\n",
    .text "\n",
    .text "  S_AXI_AWREADY <= axi_awready;\n",
    .text "  S_AXI_WREADY  <= axi_wready;\n",
    .text "  S_AXI_BRESP   <= \"00\";\n",
    .text "  S_AXI_BVALID  <= axi_bvalid;\n",
    .text "  S_AXI_ARREADY <= axi_arready;\n",
    .text "  S_AXI_RDATA   <= axi_rdata;\n",
    .text "  S_AXI_RRESP   <= \"00\";\n",
    .text "  S_AXI_RVALID  <= axi_rvalid;\n",
    .text "\n",
    .text "  -- Address and data are accepted in the same cycle\n",
    .text "  write_proc : process (S_AXI_ACLK)\n",
    .text "    variable index : integer range 0 to C_NUM_REGISTERS - 1;\n",
    .text "  begin\n",
    .text "    if rising_edge(S_AXI_ACLK) then\n",
    .text "      if S_AXI_ARESETN = '0' then\n",
    .text "        axi_awready <= '0';\n",
    .text "        axi_wready  <= '0';\n",
    .text "        axi_bvalid  <= '0';\n",
    .text "        regs        <= C_RESET_VALUES;\n",
    .text "      else\n",
    .text "        axi_awready <= '0';\n"],
  .lines .clears,
  .frame [
    .text "\n",
    .text "        if axi_awready = '0' and S_AXI_AWVALID = '1' and S_AXI_WVALID = '1' and ",
      .text "axi_bvalid = '0' then\n",
    .text "          axi_awready <= '1';\n",
    .text "          axi_wready  <= '1';\n",
    .text "          index := to_integer(unsigned(S_AXI_AWADDR(C_S_AXI_ADDR_WIDTH - 1 ",
      .text "downto C_ADDR_LSB)));\n",
    .text "          if C_WRITABLE(index) then\n",
    .text "            for i in 0 to (C_S_AXI_DATA_WIDTH / 8) - 1 loop\n",
    .text "              if S_AXI_WSTRB(i) = '1' then\n",
    .text "                regs(index)(i * 8 + 7 downto i * 8) <= S_AXI_WDATA(i * 8 + 7 ",
      .text "downto i * 8);\n",
    .text "              end if;\n",
    .text "            end loop;\n",
    .text "          end if;\n",
    .text "          axi_bvalid <= '1';\n",
    .text "        elsif axi_bvalid = '1' and S_AXI_BREADY = '1' then\n",
    .text "          axi_bvalid <= '0';\n",
    .text "        end if;\n",
    .text "      end if;\n",
    .text "    end if;\n",
    .text "  end process write_proc;\n",
    .text "\n",
    .text "  readback_proc : process (all)\n",
    .text "  begin\n"],
  .lines .overrides,
  .frame [
    .text "  end process readback_proc;\n",
    .text "\n",
    .text "  read_proc : process (S_AXI_ACLK)\n",
    .text "    variable index : integer range 0 to C_NUM_REGISTERS - 1;\n",
    .text "  begin\n",
    .text "    if rising_edge(S_AXI_ACLK) then\n",
    .text "      if S_AXI_ARESETN = '0' then\n",
    .text "        axi_arready <= '0';\n",
    .text "        axi_rvalid  <= '0';\n",
    .text "        axi_rdata   <= (others => '0');\n",
    .text "      else\n",
    .text "        axi_arready <= '0';\n",
    .text "        if axi_arready = '0' and S_AXI_ARVALID = '1' and axi_rvalid = '0' then\n",
    .text "          axi_arready <= '1';\n",
    .text "          index := to_integer(unsigned(S_AXI_ARADDR(C_S_AXI_ADDR_WIDTH - 1 ",
      .text "downto C_ADDR_LSB)));\n",
    .text "          axi_rdata   <= readback(index);\n",
    .text "          axi_rvalid  <= '1';\n",
    .text "        elsif axi_rvalid = '1' and S_AXI_RREADY = '1' then\n",
    .text "          axi_rvalid <= '0';\n",
    .text "        end if;\n",
    .text "      end if;\n",
    .text "    end if;\n",
    .text "  end process read_proc;\n",
    .text "\n"],
  .lines .outputs,
  .frame [
    .text "\n",
    .text "end architecture rtl;\n"]]

/-- The text of the standard template. -/
def templateSource : String :=
  String.join (template.map Part.source)

end RegisterFile.Vhdl

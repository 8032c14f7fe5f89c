import SianoUserland.AuditArtifact
import SianoUserland.Lib.Split

/-! The reader of Mach-O images of `audit-artifact.py`: the load commands of an image, the names of
the libraries they load, and the system version they ask for. -/
namespace SianoUserland.MachO
open AuditArtifact Check Slice Struct Text

/-- `MACHO_DYLIB_COMMANDS`. -/
def MACHO_DYLIB_COMMANDS : List Nat :=
  [0x0000000C, 0x80000018, 0x8000001F, 0x00000020, 0x80000023]

abbrev MACHO_CPU_TYPE_ARM64 : Int := 0x0100000C

/-- A field of type `i`. -/
def signed (word : Nat) : Int := if word < 2147483648 then word else (word : Int) - 4294967296

/-- What is read of the header: the record `<IiiIII`. -/
structure Header where
  magic : Nat
  cputype : Int
  ncmds : Nat
  sizeofcmds : Nat
  deriving Repr, DecidableEq

def Header.read (record : List UInt8) : Header where
  magic := field record 0 4
  cputype := signed (field record 4 4)
  ncmds := field record 16 4
  sizeofcmds := field record 20 4

/-- An entry of the list that `macho_load_commands` returns. -/
structure LoadCommand where
  cmd : Nat
  offset : Nat
  cmdsize : Nat
  deriving Repr, DecidableEq

/-- The loop of `macho_load_commands` from an offset on. -/
def readCommands (data : List UInt8) (label : Str) (stop : Nat) :
    Nat → Nat → Audit (List LoadCommand)
  | 0, _ => .ok []
  | count + 1, offset => do
    require (offset + 8 ≤ stop) (fail "macOS load command table is truncated: " label)
    let (cmd, cmdsize) ←
      unpackFrom 8 (fun record => (field record 0 4, field record 4 4)) data offset
    require (8 ≤ cmdsize && offset + cmdsize ≤ stop)
      (fail "macOS load command has an invalid size: " label)
    let rest ← readCommands data label stop count (offset + cmdsize)
    return { cmd := cmd, offset := offset, cmdsize := cmdsize } :: rest

/-- `macho_load_commands`. -/
def machoLoadCommands (data : List UInt8) (label : Str) : Audit (List LoadCommand) := do
  require (32 ≤ data.length) (fail "macOS binary is too short for a Mach-O header: " label)
  let header ← unpackFrom 24 Header.read data 0
  require (header.magic = 0xFEEDFACF) (fail "macOS binary is not a thin 64-bit Mach-O: " label)
  require (header.cputype = MACHO_CPU_TYPE_ARM64) (fail "macOS binary is not arm64: " label)
  require (32 + header.sizeofcmds ≤ data.length)
    (fail "macOS load commands exceed the file: " label)
  readCommands data label (32 + header.sizeofcmds) header.ncmds 32

/-- The loop of `darwin_dylibs` and of `darwin_minos`: what is read of each command that is
wanted. -/
def collect (wanted : Nat → Bool) (read : LoadCommand → Audit α) :
    List LoadCommand → Audit (List α)
  | [] => .ok []
  | command :: commands =>
    if wanted command.cmd then do
      let first ← read command
      let rest ← collect wanted read commands
      return first :: rest
    else collect wanted read commands

/-- The install name of a command that loads a library. -/
def installName (data : List UInt8) (label : Str) (command : LoadCommand) : Audit Str := do
  require (24 ≤ command.cmdsize) (fail "macOS dylib load command is truncated: " label)
  let nameOffset ← unpackFrom 4 (fun record => field record 0 4) data (command.offset + 8)
  require (24 ≤ nameOffset && nameOffset < command.cmdsize)
    (fail "macOS dylib load command has an invalid name offset: " label)
  let raw := (slice data (command.offset + nameOffset) (command.cmdsize - nameOffset)).takeWhile
    (· ≠ 0)
  match decode raw with
  | some name => .ok name
  | none => .error (fail "macOS dylib install name is not UTF-8: " label)

/-- `darwin_dylibs`. -/
def darwinDylibs (data : List UInt8) (label : Str) : Audit (List Str) := do
  let commands ← machoLoadCommands data label
  collect (· ∈ MACHO_DYLIB_COMMANDS) (installName data label) commands

/-- The version of an `LC_BUILD_VERSION`. -/
def buildVersion (data : List UInt8) (label : Str) (command : LoadCommand) : Audit String := do
  require (24 ≤ command.cmdsize) (fail "macOS LC_BUILD_VERSION is truncated: " label)
  let (platform, minos) ←
    unpackFrom 8 (fun record => (field record 0 4, field record 4 4)) data (command.offset + 8)
  require (platform = 1) (fail "macOS binary is not built for the macOS platform: " label)
  return toString (minos >>> 16) ++ "." ++ toString ((minos >>> 8) &&& 0xFF)

/-- `darwin_minos`. -/
def darwinMinos (data : List UInt8) (label : Str) : Audit String := do
  let commands ← machoLoadCommands data label
  match ← collect (· = 0x32) (buildVersion data label) commands with
  | [version] => .ok version
  | _ => .error (fail "macOS binary must contain exactly one LC_BUILD_VERSION: " label)

/-! ## Every byte string -/

/-- Load commands that follow one another from an offset on, up to another, with what is read of
them there. -/
def Tiles (data : List UInt8) : Nat → List LoadCommand → Nat → Prop
  | start, [], stop => start = stop
  | start, command :: rest, stop =>
    command.offset = start ∧ command.cmd = field data start 4 ∧
      command.cmdsize = field data (start + 4) 4 ∧ 8 ≤ command.cmdsize ∧
      Tiles data (start + command.cmdsize) rest stop

variable {data : List UInt8} {label : Str} {commands : List LoadCommand} {command : LoadCommand}

theorem tiles_le (tiles : Tiles data start commands stop) : start ≤ stop := by
  induction commands generalizing start with
  | nil => exact Nat.le_of_eq tiles
  | cons first rest ih =>
    obtain ⟨-, -, -, -, later⟩ := tiles
    exact Nat.le_trans (Nat.le_add_right ..) (ih later)

/-- Every command is within the region that the commands tile. -/
theorem tiles_mem (tiles : Tiles data start commands stop) (member : command ∈ commands) :
    command.offset + command.cmdsize ≤ stop := by
  induction commands generalizing start with
  | nil => cases member
  | cons first rest ih =>
    obtain ⟨here, -, -, -, later⟩ := tiles
    rcases List.mem_cons.mp member with rfl | member
    · rw [here]
      exact tiles_le later
    · exact ih later member

theorem readCommands_total (within : stop ≤ data.length) (count offset : Nat) :
    Total (readCommands data label stop count offset) := by
  induction count generalizing offset with
  | zero => exact failsWith_ok _
  | succ count ih =>
    refine failsWith_bind (total_require _ _) fun _ room => ?_
    rw [require_eq_ok_iff, decide_eq_true_eq] at room
    refine failsWith_bind (total_unpackFrom (by omega)) fun (cmd, cmdsize) _ => ?_
    refine failsWith_bind (total_require _ _) fun _ _ => ?_
    exact failsWith_bind (ih (offset + cmdsize)) fun rest _ => failsWith_ok _

/-- The command at an offset. -/
def commandAt (data : List UInt8) (offset : Nat) : LoadCommand where
  cmd := field data offset 4
  offset := offset
  cmdsize := field data (offset + 4) 4

/-- What one pass of the loop takes. -/
theorem readCommands_succ (within : stop ≤ data.length) :
    readCommands data label stop (count + 1) offset = .ok commands ↔
      offset + 8 ≤ stop ∧ 8 ≤ (commandAt data offset).cmdsize ∧
        offset + (commandAt data offset).cmdsize ≤ stop ∧
        ∃ rest, readCommands data label stop count (offset + (commandAt data offset).cmdsize) =
            .ok rest ∧ commands = commandAt data offset :: rest := by
  rw [readCommands, require_bind_eq_ok_iff, decide_eq_true_eq]
  apply and_congr_right
  intro room
  have same : (unpackFrom 8 (fun record => (field record 0 4, field record 4 4)) data offset :
      Audit (Nat × Nat)) = .ok ((commandAt data offset).cmd, (commandAt data offset).cmdsize) := by
    rw [unpackFrom_ok (by omega), field_slice data (by decide), field_slice data (by decide)]
    rfl
  rw [same]
  change (require _ _ >>= fun _ => readCommands _ _ _ _ _ >>= fun rest =>
    Except.ok (commandAt data offset :: rest)) = _ ↔ _
  rw [require_bind_eq_ok_iff, Bool.and_eq_true, decide_eq_true_eq, decide_eq_true_eq,
    bind_eq_ok_iff, and_assoc]
  simp only [Except.ok.injEq, eq_comm (a := commands)]

theorem readCommands_tiles (within : stop ≤ data.length) (start : offset ≤ stop)
    (read : readCommands data label stop count offset = .ok commands) :
    commands.length = count ∧ ∃ last, Tiles data offset commands last ∧ last ≤ stop := by
  induction count generalizing offset commands with
  | zero =>
    cases read
    exact ⟨rfl, offset, rfl, start⟩
  | succ count ih =>
    obtain ⟨-, least, most, rest, later, rfl⟩ := (readCommands_succ within).mp read
    obtain ⟨length, last, tiles, bound⟩ := ih most later
    exact ⟨congrArg Nat.succ length, last, ⟨rfl, rfl, rfl, least, tiles⟩, bound⟩

/-- An accepted header. -/
structure Accepted (data : List UInt8) : Prop where
  header : 32 ≤ data.length
  magic : field data 0 4 = 0xFEEDFACF
  cputype : signed (field data 4 4) = MACHO_CPU_TYPE_ARM64
  within : 32 + field data 20 4 ≤ data.length

theorem unpack_header (long : 32 ≤ data.length) :
    (unpackFrom 24 Header.read data 0 : Audit Header) = .ok {
      magic := field data 0 4
      cputype := signed (field data 4 4)
      ncmds := field data 16 4
      sizeofcmds := field data 20 4 } := by
  rw [unpackFrom_ok (by omega), Header.read, field_slice data (by decide),
    field_slice data (by decide), field_slice data (by decide), field_slice data (by decide)]

theorem machoLoadCommands_eq_ok_iff :
    machoLoadCommands data label = .ok commands ↔
      Accepted data ∧
        readCommands data label (32 + field data 20 4) (field data 16 4) 32 = .ok commands := by
  unfold machoLoadCommands
  rw [require_bind_eq_ok_iff, decide_eq_true_eq]
  constructor
  · rintro ⟨long, read⟩
    rw [unpack_header long] at read
    change (require _ _ >>= _) = _ at read
    simp only [require_bind_eq_ok_iff, decide_eq_true_eq] at read
    obtain ⟨magic, cputype, within, read⟩ := read
    exact ⟨⟨long, magic, cputype, within⟩, read⟩
  · rintro ⟨⟨long, magic, cputype, within⟩, read⟩
    refine ⟨long, ?_⟩
    rw [unpack_header long]
    change (require _ _ >>= _) = _
    simp only [require_bind_eq_ok_iff, decide_eq_true_eq]
    exact ⟨magic, cputype, within, read⟩

theorem machoLoadCommands_tiles (read : machoLoadCommands data label = .ok commands) :
    commands.length = field data 16 4 ∧ 32 + field data 20 4 ≤ data.length ∧
      ∃ last, Tiles data 32 commands last ∧ last ≤ 32 + field data 20 4 := by
  obtain ⟨accepted, read⟩ := machoLoadCommands_eq_ok_iff.mp read
  obtain ⟨count, tiles⟩ := readCommands_tiles accepted.within (Nat.le_add_right ..) read
  exact ⟨count, accepted.within, tiles⟩

theorem machoLoadCommands_total (data : List UInt8) (label : Str) :
    Total (machoLoadCommands data label) := by
  refine failsWith_bind (total_require _ _) fun _ long => ?_
  rw [require_eq_ok_iff, decide_eq_true_eq] at long
  refine failsWith_bind (total_unpackFrom (by omega)) fun header _ => ?_
  refine failsWith_bind (total_require _ _) fun _ _ => ?_
  refine failsWith_bind (total_require _ _) fun _ _ => ?_
  refine failsWith_bind (total_require _ _) fun _ within => ?_
  rw [require_eq_ok_iff, decide_eq_true_eq] at within
  exact readCommands_total within _ _

theorem installName_total (inside : command.offset + command.cmdsize ≤ data.length) :
    Total (installName data label command) := by
  refine failsWith_bind (total_require _ _) fun _ large => ?_
  rw [require_eq_ok_iff, decide_eq_true_eq] at large
  refine failsWith_bind (total_unpackFrom (by omega)) fun nameOffset _ => ?_
  refine failsWith_bind (total_require _ _) fun _ _ => ?_
  dsimp only
  split
  · exact failsWith_ok _
  · exact total_own _

theorem buildVersion_total (inside : command.offset + command.cmdsize ≤ data.length) :
    Total (buildVersion data label command) := by
  refine failsWith_bind (total_require _ _) fun _ large => ?_
  rw [require_eq_ok_iff, decide_eq_true_eq] at large
  refine failsWith_bind (total_unpackFrom (by omega)) fun _ _ => ?_
  exact failsWith_bind (total_require _ _) fun _ _ => failsWith_ok _

/-- The commands that an image is read into are inside of it. -/
theorem machoLoadCommands_inside (read : machoLoadCommands data label = .ok commands) :
    ∀ command ∈ commands, command.offset + command.cmdsize ≤ data.length := by
  intro command member
  obtain ⟨-, within, last, tiles, bound⟩ := machoLoadCommands_tiles read
  have := tiles_mem tiles member
  omega

theorem collect_total {read : LoadCommand → Audit α} (wanted : Nat → Bool)
    (total : ∀ command ∈ commands, Total (read command)) :
    Total (collect wanted read commands) := by
  induction commands with
  | nil => exact failsWith_ok _
  | cons first rest ih =>
    rw [List.forall_mem_cons] at total
    rw [collect]
    split
    · refine failsWith_bind total.1 fun value _ => ?_
      exact failsWith_bind (ih total.2) fun values _ => failsWith_ok _
    · exact ih total.2

theorem darwinDylibs_total (data : List UInt8) (label : Str) :
    Total (darwinDylibs data label) := by
  refine failsWith_bind (machoLoadCommands_total data label) fun commands read => ?_
  have inside := machoLoadCommands_inside read
  exact collect_total _ fun command member => installName_total (inside command member)

theorem darwinMinos_total (data : List UInt8) (label : Str) :
    Total (darwinMinos data label) := by
  refine failsWith_bind (machoLoadCommands_total data label) fun commands read => ?_
  have inside := machoLoadCommands_inside read
  have versions : Total (collect (· = 0x32) (buildVersion data label) commands) :=
    collect_total _ fun command member => buildVersion_total (inside command member)
  refine failsWith_bind versions fun found _ => ?_
  split
  · exact failsWith_ok _
  · exact total_own _

/-! ## Images -/

/-- The name of a library, as an image holds it. -/
structure Name where
  name : Str
  encoded : List UInt8
  utf8 : encode name = some encoded
  nulFree : 0 ∉ name

/-- A load command of an image. -/
inductive Command where
  | dylib (cmd : UInt32) (loads : cmd.toNat ∈ MACHO_DYLIB_COMMANDS) (name : Name)
  | other (cmd : UInt32) (kind : cmd.toNat ∉ MACHO_DYLIB_COMMANDS) (body : List UInt8)

/-- `bytes.ljust`. -/
def ljust (data : List UInt8) (width : Nat) : List UInt8 :=
  data ++ List.replicate (width - data.length) 0

/-- The size of a command that loads a library, up to a multiple of eight. -/
def dylibSize (encoded : List UInt8) : Nat := (24 + (encoded.length + 1) + 7) / 8 * 8

/-- A command that loads a library, as `synthetic_macho` packs it. -/
def dylibCommand (cmd : Nat) (encoded : List UInt8) : List UInt8 :=
  let size := dylibSize encoded
  words [cmd, size, 24, 2, 0, 0] ++ ljust (encoded ++ [0]) (size - 24)

namespace Command

def cmd : Command → Nat
  | dylib cmd _ _ => cmd.toNat
  | other cmd _ _ => cmd.toNat

def bytes : Command → List UInt8
  | dylib cmd _ name => dylibCommand cmd.toNat name.encoded
  | other cmd _ body => words [cmd.toNat, 8 + body.length] ++ body

def name? : Command → Option Str
  | dylib _ _ name => some name.name
  | other _ _ _ => none

end Command

/-- A thin arm64 image with these load commands, laid out as `synthetic_macho` does. -/
def image (commands : List Command) : List UInt8 :=
  let body := commands.flatMap Command.bytes
  words [0xFEEDFACF, 0x0100000C, 0, 2, commands.length, body.length, 0, 0] ++ body

/-- `synthetic_macho`. -/
def syntheticMacho (dylibs : List Name) (cputype command minos : Nat) : List UInt8 :=
  let commands := dylibs.foldl (fun commands name => commands ++ dylibCommand command name.encoded)
    (words [0x32, 24, 1, minos, 0x000E0500, 0])
  words [0xFEEDFACF, cputype, 0, 2, dylibs.length + 1, commands.length, 0, 0] ++ commands

/-- What `synthetic_macho` builds is the image of its load commands. -/
theorem syntheticMacho_eq (dylibs : List Name) (command minos : UInt32)
    (loads : command.toNat ∈ MACHO_DYLIB_COMMANDS) :
    syntheticMacho dylibs 0x0100000C command.toNat minos.toNat =
      image (.other 0x32 (by decide) (words [1, minos.toNat, 0x000E0500, 0]) ::
        dylibs.map (.dylib command loads)) := by
  have folded : ∀ front : List UInt8,
      dylibs.foldl (fun commands name => commands ++ dylibCommand command.toNat name.encoded)
        front = front ++ (dylibs.map (Command.dylib command loads)).flatMap Command.bytes := by
    intro front
    induction dylibs generalizing front with
    | nil => rw [List.foldl_nil, List.map_nil, List.flatMap_nil, List.append_nil]
    | cons first rest ih =>
      rw [List.foldl_cons, ih, List.map_cons, List.flatMap_cons, List.append_assoc]
      rfl
  have version : (Command.other 0x32 (by decide) (words [1, minos.toNat, 0x000E0500, 0])).bytes =
      words [0x32, 24, 1, minos.toNat, 0x000E0500, 0] := by
    rw [Command.bytes, length_words, ← words_append]
    rfl
  rw [syntheticMacho, folded, image, List.flatMap_cons, version, List.length_cons, List.length_map]

section images

variable {front back : List UInt8} {command : Command} {commands : List Command}

theorem length_bytes (command : Command) : 8 ≤ command.bytes.length := by
  cases command with
  | dylib cmd _ name =>
    rw [Command.bytes, dylibCommand, List.length_append, length_words]
    exact Nat.le_trans (show 8 ≤ 24 by decide) (Nat.le_add_right ..)
  | other cmd _ body =>
    rw [Command.bytes, List.length_append, length_words]
    exact Nat.le_add_right ..

theorem length_dylibCommand (cmd : Nat) (encoded : List UInt8) :
    (dylibCommand cmd encoded).length = dylibSize encoded := by
  rw [dylibCommand, List.length_append, length_words, ljust, List.length_append,
    List.length_replicate, List.length_append, List.length_singleton, dylibSize]
  simp only [List.length_cons, List.length_nil]
  omega

/-- A command of an image is found where it was put. -/
theorem commandAt_bytes (small : command.bytes.length < 4294967296) :
    commandAt (front ++ (command.bytes ++ back)) front.length =
      { cmd := command.cmd, offset := front.length, cmdsize := command.bytes.length } := by
  have kind : command.cmd < 4294967296 := by
    cases command with
    | dylib cmd _ _ => exact cmd.toNat_lt
    | other cmd _ _ => exact cmd.toNat_lt
  have begins : ∃ rest tail, command.bytes =
      words (command.cmd :: command.bytes.length :: rest) ++ tail := by
    cases command with
    | dylib cmd _ name =>
      refine ⟨[24, 2, 0, 0], ljust (name.encoded ++ [0]) (dylibSize name.encoded - 24), ?_⟩
      rw [Command.bytes, length_dylibCommand]
      rfl
    | other cmd _ body =>
      refine ⟨[], body, ?_⟩
      rw [Command.bytes, List.length_append, length_words]
      rfl
  obtain ⟨rest, tail, begins⟩ := begins
  have first := @field_words _ 0 _ front (tail ++ back) (show
    (command.cmd :: command.bytes.length :: rest)[0]? = some command.cmd from rfl) kind
  have second := @field_words _ 1 _ front (tail ++ back) (show
    (command.cmd :: command.bytes.length :: rest)[1]? = some command.bytes.length from rfl) small
  rw [← List.append_assoc (words _), ← begins] at first second
  rw [commandAt]
  simp only [Nat.mul_zero, Nat.add_zero, Nat.mul_one] at first second
  rw [first, second]

/-- Where the commands of an image are, from an offset on. -/
def located : Nat → List Command → List LoadCommand
  | _, [] => []
  | offset, command :: commands =>
    { cmd := command.cmd, offset := offset, cmdsize := command.bytes.length } ::
      located (offset + command.bytes.length) commands

theorem readCommands_image (label : Str)
    (small : (commands.flatMap Command.bytes).length < 4294967296)
    (placed : data = front ++ (commands.flatMap Command.bytes ++ back))
    (ends : stop = front.length + (commands.flatMap Command.bytes).length) :
    readCommands data label stop commands.length front.length =
      .ok (located front.length commands) := by
  induction commands generalizing front with
  | nil => rfl
  | cons first rest ih =>
    rw [List.flatMap_cons, List.append_assoc] at placed
    rw [List.flatMap_cons, List.length_append] at small ends
    have least := length_bytes first
    have within : stop ≤ data.length := by
      rw [placed, ends]
      simp only [List.length_append]
      omega
    have here : commandAt data front.length = _ := placed ▸ commandAt_bytes (by omega)
    have later : readCommands data label stop rest.length (front ++ first.bytes).length =
        .ok (located (front ++ first.bytes).length rest) :=
      ih (by omega) (by rw [placed, List.append_assoc]) (by rw [ends, List.length_append]; omega)
    rw [List.length_append] at later
    rw [List.length_cons, readCommands_succ within, here]
    exact ⟨by omega, least, by simp only; omega, _, later, rfl⟩

theorem takeWhile_ljust {encoded : List UInt8} (nulFree : 0 ∉ encoded) (width : Nat) :
    (ljust (encoded ++ [0]) width).takeWhile (· ≠ 0) = encoded := by
  rw [ljust, List.append_assoc, List.singleton_append, Split.takeWhile_first nulFree]

/-- The name of a command that loads a library stands behind its fields. -/
theorem slice_dylibCommand {encoded : List UInt8}
    (placed : data = front ++ (dylibCommand cmd encoded ++ back)) :
    slice data (front.length + 24) (dylibSize encoded - 24) =
      ljust (encoded ++ [0]) (dylibSize encoded - 24) := by
  have begins : (front ++ words [cmd, dylibSize encoded, 24, 2, 0, 0]).length =
      front.length + 24 := by
    rw [List.length_append, length_words]
    rfl
  have ends : (ljust (encoded ++ [0]) (dylibSize encoded - 24)).length =
      dylibSize encoded - 24 := by
    have size := length_dylibCommand cmd encoded
    rw [dylibCommand, List.length_append, length_words] at size
    simp only [List.length_cons, List.length_nil] at size
    omega
  rw [placed, dylibCommand, List.append_assoc, ← List.append_assoc front, ← begins, slice,
    List.drop_left, List.take_left' ends]

/-- The name of a command that loads a library is read back. -/
theorem installName_image (name : Name)
    (placed : data = front ++ (dylibCommand cmd name.encoded ++ back)) :
    installName data label ⟨cmd, front.length, (dylibCommand cmd name.encoded).length⟩ =
      .ok name.name := by
  have size := length_dylibCommand cmd name.encoded
  have large : 24 < dylibSize name.encoded := by
    unfold dylibSize
    omega
  have within : front.length + dylibSize name.encoded ≤ data.length := by
    rw [placed, ← size]
    simp only [List.length_append]
    omega
  have nameOffset : field data (front.length + 8) 4 = 24 := by
    rw [placed, dylibCommand, List.append_assoc]
    exact @field_words _ 2 _ front _ rfl (by decide)
  have truncated : require (24 ≤ dylibSize name.encoded)
      (fail "macOS dylib load command is truncated: " label) = .ok () := by
    rw [require_eq_ok_iff, decide_eq_true_eq]
    omega
  have valid : require (24 ≤ 24 && 24 < dylibSize name.encoded)
      (fail "macOS dylib load command has an invalid name offset: " label) = .ok () := by
    rw [require_eq_ok_iff, Bool.and_eq_true, decide_eq_true_eq, decide_eq_true_eq]
    omega
  have read : (unpackFrom 4 (fun record => field record 0 4) data (front.length + 8) : Audit Nat) =
      .ok 24 := by
    rw [unpackFrom_ok (by omega), field_slice data (by decide), Nat.add_zero, nameOffset]
  have nulFree := nul_encode name.name name.encoded name.utf8 name.nulFree
  have decoded := decode_encode name.name name.encoded name.utf8
  rw [size, installName, truncated, read]
  simp only [bind, Except.bind, valid, slice_dylibCommand placed, takeWhile_ljust nulFree, decoded]

theorem collect_wanted {read : LoadCommand → Audit α} {found : LoadCommand}
    {others : List LoadCommand} (loads : wanted found.cmd = true) (here : read found = .ok first)
    (later : collect wanted read others = .ok rest) :
    collect wanted read (found :: others) = .ok (first :: rest) := by
  rw [collect, if_pos loads, here, later]
  rfl

theorem collect_unwanted {read : LoadCommand → Audit α} {found : LoadCommand}
    {others : List LoadCommand} (kind : ¬ wanted found.cmd = true) :
    collect wanted read (found :: others) = collect wanted read others := by
  rw [collect, if_neg kind]

/-- The names of the commands that load a library are collected in order. -/
theorem collect_image (label : Str)
    (placed : data = front ++ (commands.flatMap Command.bytes ++ back)) :
    collect (· ∈ MACHO_DYLIB_COMMANDS) (installName data label) (located front.length commands) =
      .ok (commands.filterMap Command.name?) := by
  induction commands generalizing front with
  | nil => rfl
  | cons first rest ih =>
    rw [List.flatMap_cons, List.append_assoc] at placed
    have later : collect (· ∈ MACHO_DYLIB_COMMANDS) (installName data label)
        (located (front ++ first.bytes).length rest) = .ok (rest.filterMap Command.name?) :=
      ih (by rw [placed, List.append_assoc])
    rw [List.length_append] at later
    rw [located]
    cases first with
    | dylib cmd loads name =>
      exact collect_wanted (decide_eq_true loads) (installName_image name placed) later
    | other cmd kind body =>
      rw [collect_unwanted fun wanted => kind (of_decide_eq_true wanted)]
      exact later

theorem length_commands (commands : List Command) :
    commands.length ≤ (commands.flatMap Command.bytes).length := by
  induction commands with
  | nil => exact Nat.le_refl _
  | cons first rest ih =>
    have least := length_bytes first
    rw [List.flatMap_cons, List.length_append, List.length_cons]
    omega

/-- The commands of an image follow its header. -/
theorem image_eq (commands : List Command) : ∃ front, front.length = 32 ∧
    image commands = front ++ (commands.flatMap Command.bytes ++ []) := by
  refine ⟨_, ?_, by rw [List.append_nil, image]⟩
  rw [length_words]
  rfl

theorem machoLoadCommands_image
    (small : (commands.flatMap Command.bytes).length < 4294967296) :
    machoLoadCommands (image commands) label = .ok (located 32 commands) := by
  have count := length_commands commands
  have header : ∀ index number, [0xFEEDFACF, 0x0100000C, 0, 2, commands.length,
      (commands.flatMap Command.bytes).length, 0, 0][index]? = some number → number < 4294967296 →
      field (image commands) (4 * index) 4 = number := by
    intro index number found low
    have read := @field_words _ index _ [] (commands.flatMap Command.bytes) found low
    rw [List.length_nil, Nat.zero_add] at read
    exact read
  have ncmds : field (image commands) 16 4 = commands.length := header 4 _ rfl (by omega)
  have sizeofcmds : field (image commands) 20 4 = (commands.flatMap Command.bytes).length :=
    header 5 _ rfl small
  have magic : field (image commands) 0 4 = 0xFEEDFACF := header 0 _ rfl (by decide)
  have cputype : field (image commands) 4 4 = 0x0100000C := header 1 _ rfl (by decide)
  obtain ⟨front, start, placed⟩ := image_eq commands
  have length : (image commands).length = 32 + (commands.flatMap Command.bytes).length := by
    rw [placed, List.append_nil, List.length_append, start]
  refine machoLoadCommands_eq_ok_iff.mpr ⟨⟨by omega, magic, ?_, by omega⟩, ?_⟩
  · rw [cputype]
    rfl
  · rw [ncmds, sizeofcmds]
    have read := readCommands_image label small placed rfl
    rw [start] at read
    exact read

/-- The libraries of an image are the ones its commands name. -/
theorem darwinDylibs_image (small : (commands.flatMap Command.bytes).length < 4294967296) :
    darwinDylibs (image commands) label = .ok (commands.filterMap Command.name?) := by
  obtain ⟨front, start, placed⟩ := image_eq commands
  have names := collect_image label placed
  rw [start] at names
  rw [darwinDylibs, machoLoadCommands_image small]
  exact names

end images

/-- **The reader of Mach-O images is total and faithful.** No byte string makes it read past the
end; the load commands it returns are as many as the header says and lie one after the other behind
the header, within the size it gives and within the file; and the names it finds in an image are the
names that the commands of the image load, in their order. -/
theorem macho_reader_faithful (label : Str) :
    (∀ data, machoLoadCommands data label ≠ .error .structError ∧
      darwinDylibs data label ≠ .error .structError ∧
      darwinMinos data label ≠ .error .structError) ∧
    (∀ data commands, machoLoadCommands data label = .ok commands →
      commands.length = field data 16 4 ∧ 32 + field data 20 4 ≤ data.length ∧
        ∃ last, Tiles data 32 commands last ∧ last ≤ 32 + field data 20 4) ∧
    ∀ commands : List Command, (commands.flatMap Command.bytes).length < 4294967296 →
      darwinDylibs (image commands) label = .ok (commands.filterMap Command.name?) := by
  refine ⟨fun data => ⟨?_, ?_, ?_⟩, fun data commands => machoLoadCommands_tiles,
    fun commands => darwinDylibs_image⟩
  · exact fun raised => machoLoadCommands_total data label _ raised rfl
  · exact fun raised => darwinDylibs_total data label _ raised rfl
  · exact fun raised => darwinMinos_total data label _ raised rfl

end SianoUserland.MachO

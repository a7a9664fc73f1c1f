import NodeinfoSystem.Foundation.Decimal
import NodeinfoSystem.Types
import Mathlib.Algebra.Group.Nat.Defs
import Mathlib.Data.List.Nodup

/-!
# The texts of `nodeinfo` and `hostfile`

Both files have one line for every entry of a list: the address in dotted-decimal
form, a space, and the user name in `nodeinfo` or the core count in `hostfile`.
All the characters written are ASCII, so a text is a list of characters and one
character is one byte.

The tools that use the files take the first field of a line for the host.
`listedHosts` reads a text of any origin in this way.
-/

namespace NodeinfoSystem.Files

open Foundation

abbrev Text := List Char

def newline : Char := '\n'

/-- The `%d` conversion. -/
def formatInt (value : Int32) : Text :=
  if value.toInt < 0 then '-' :: Nat.toDigits 10 value.toInt.natAbs
  else Nat.toDigits 10 value.toInt.toNat

/-- The byte of an address at `index` in memory. -/
def addressByte (address : UInt32) (index : ℕ) : ℕ :=
  address.toNat / 2 ^ (8 * index) % 2 ^ 8

/-- `inet_ntop` for `AF_INET`: the address bytes in memory order. -/
def inetNtop (address : UInt32) : Text :=
  Nat.toDigits 10 (addressByte address 0) ++ '.' :: (Nat.toDigits 10 (addressByte address 1) ++
    '.' :: (Nat.toDigits 10 (addressByte address 2) ++
      '.' :: Nat.toDigits 10 (addressByte address 3)))

/-- The line that `update_nodeinfo` prints for an entry. -/
def nodeinfoLine (node : Nodedata UInt32) : Text :=
  if node.userid.toInt < 0 then
    inetNtop node.ipaddress ++ ' ' :: ("NotAndroid".toList ++ [newline])
  else inetNtop node.ipaddress ++ ' ' :: ("u0_a".toList ++ formatInt node.userid ++ [newline])

/-- The line that `update_hostfile` prints for an entry. -/
def hostfileLine (node : Nodedata UInt32) : Text :=
  inetNtop node.ipaddress ++ ' ' :: ("cpu=".toList ++ formatInt node.cpuCoreNum ++ [newline])

def nodeinfoText (nodes : List (Nodedata UInt32)) : Text :=
  nodes.flatMap nodeinfoLine

def hostfileText (nodes : List (Nodedata UInt32)) : Text :=
  nodes.flatMap hostfileLine

/-! ## Reading a file -/

/-- The lines of a text; a line that the text breaks off counts as one. -/
def lines : Text → List Text
  | [] => []
  | char :: rest =>
      if char = newline then [] :: lines rest
      else
        match lines rest with
        | [] => [[char]]
        | line :: more => (char :: line) :: more

/-- The first field of a line. -/
def host (line : Text) : Text :=
  line.takeWhile fun char => char ≠ ' '

def listedHosts (text : Text) : List Text :=
  (lines text).map host

theorem lines_append {line : Text} (inside : newline ∉ line) (rest : Text) :
    lines (line ++ newline :: rest) = line :: lines rest := by
  induction line with
  | nil => simp [lines]
  | cons char line ih =>
      simp only [List.mem_cons, not_or] at inside
      rw [List.cons_append, lines, if_neg (fun equal => inside.1 equal.symm), ih inside.2]

theorem takeWhile_append_separator {field : Text} {separator : Char}
    (inside : separator ∉ field) (rest : Text) :
    (field ++ separator :: rest).takeWhile (fun char => char ≠ separator) = field := by
  rw [List.takeWhile_append_of_pos]
  · simp
  · intro char char_mem
    simp only [decide_eq_true_eq]
    rintro rfl
    exact inside char_mem

theorem host_append {field : Text} (inside : ' ' ∉ field) (rest : Text) :
    host (field ++ ' ' :: rest) = field :=
  takeWhile_append_separator inside rest

theorem append_separator_inj {first second rest more : Text} {separator : Char}
    (first_inside : separator ∉ first) (second_inside : separator ∉ second) :
    first ++ separator :: rest = second ++ separator :: more ↔ first = second ∧ rest = more := by
  constructor
  · intro equal
    have fields := congrArg (List.takeWhile fun char => char ≠ separator) equal
    rw [takeWhile_append_separator first_inside, takeWhile_append_separator second_inside] at fields
    subst fields
    simpa using equal
  · rintro ⟨rfl, rfl⟩
    rfl

/-! ## The characters written -/

theorem not_mem_formatInt {char : Char} (notDigit : char.isDigit = false) (notSign : char ≠ '-')
    (value : Int32) : char ∉ formatInt value := by
  unfold formatInt
  split
  · rw [List.mem_cons, not_or]
    exact ⟨notSign, not_mem_toDigits notDigit _⟩
  · exact not_mem_toDigits notDigit _

theorem not_mem_inetNtop {char : Char} (notDigit : char.isDigit = false) (notDot : char ≠ '.')
    (address : UInt32) : char ∉ inetNtop address := by
  simp only [inetNtop, List.mem_append, List.mem_cons, not_or]
  exact ⟨not_mem_toDigits notDigit _, notDot, not_mem_toDigits notDigit _, notDot,
    not_mem_toDigits notDigit _, notDot, not_mem_toDigits notDigit _⟩

/-- A line of either file: the address of the entry, and the rest of the line. -/
def WritesHost (line : Nodedata UInt32 → Text) : Prop :=
  ∀ node, ∃ rest, newline ∉ rest ∧ line node = inetNtop node.ipaddress ++ ' ' :: (rest ++ [newline])

theorem writesHost_nodeinfoLine : WritesHost nodeinfoLine := by
  intro node
  unfold nodeinfoLine
  split
  · exact ⟨"NotAndroid".toList, by decide, rfl⟩
  · refine ⟨"u0_a".toList ++ formatInt node.userid, ?_, rfl⟩
    rw [List.mem_append, not_or]
    exact ⟨by decide, not_mem_formatInt (by decide) (by decide) _⟩

theorem writesHost_hostfileLine : WritesHost hostfileLine := by
  intro node
  refine ⟨"cpu=".toList ++ formatInt node.cpuCoreNum, ?_, rfl⟩
  rw [List.mem_append, not_or]
  exact ⟨by decide, not_mem_formatInt (by decide) (by decide) _⟩

/-- The text of a list has one line for each entry, which is the one printed for it. -/
theorem lines_flatMap {line : Nodedata UInt32 → Text} (writes : WritesHost line)
    (nodes : List (Nodedata UInt32)) :
    lines (nodes.flatMap line) = nodes.map fun node => (line node).dropLast := by
  induction nodes with
  | nil => rfl
  | cons node nodes ih =>
      rcases writes node with ⟨rest, oneLine, line_eq⟩
      have whole : newline ∉ inetNtop node.ipaddress ++ ' ' :: rest := by
        rw [List.mem_append, List.mem_cons, not_or, not_or]
        exact ⟨not_mem_inetNtop (by decide) (by decide) _, by decide, oneLine⟩
      have ends : line node = (inetNtop node.ipaddress ++ ' ' :: rest) ++ [newline] := by
        rw [line_eq, List.append_assoc, List.cons_append]
      have split : (node :: nodes).flatMap line =
          (inetNtop node.ipaddress ++ ' ' :: rest) ++ newline :: nodes.flatMap line := by
        rw [List.flatMap_cons, ends, List.append_assoc, List.singleton_append]
      rw [split, lines_append whole, ih, List.map_cons, ends, List.dropLast_concat]

theorem host_dropLast {line : Nodedata UInt32 → Text} (writes : WritesHost line)
    (node : Nodedata UInt32) : host (line node).dropLast = inetNtop node.ipaddress := by
  rcases writes node with ⟨rest, -, line_eq⟩
  rw [line_eq, ← List.cons_append, ← List.append_assoc, List.dropLast_concat,
    host_append (not_mem_inetNtop (by decide) (by decide) _)]

theorem listedHosts_flatMap {line : Nodedata UInt32 → Text} (writes : WritesHost line)
    (nodes : List (Nodedata UInt32)) :
    listedHosts (nodes.flatMap line) = nodes.map fun node => inetNtop node.ipaddress := by
  simp only [listedHosts, lines_flatMap writes, List.map_map, Function.comp_def,
    host_dropLast writes]

theorem listedHosts_nodeinfoText (nodes : List (Nodedata UInt32)) :
    listedHosts (nodeinfoText nodes) = listedHosts (hostfileText nodes) := by
  rw [nodeinfoText, hostfileText, listedHosts_flatMap writesHost_nodeinfoLine,
    listedHosts_flatMap writesHost_hostfileLine]

/-! ## Naming each host once -/

theorem toDigits_append_dot_inj {first second : ℕ} {rest more : Text}
    (equal : Nat.toDigits 10 first ++ '.' :: rest = Nat.toDigits 10 second ++ '.' :: more) :
    first = second ∧ rest = more := by
  have noDot (value : ℕ) : '.' ∉ Nat.toDigits 10 value := not_mem_toDigits (by decide) value
  rcases (append_separator_inj (noDot first) (noDot second)).mp equal with ⟨digits, rest_eq⟩
  exact ⟨toDigits_injective digits, rest_eq⟩

theorem inetNtop_injective : Function.Injective inetNtop := by
  intro first second equal
  rw [inetNtop, inetNtop] at equal
  rcases toDigits_append_dot_inj equal with ⟨byte0, equal⟩
  rcases toDigits_append_dot_inj equal with ⟨byte1, equal⟩
  rcases toDigits_append_dot_inj equal with ⟨byte2, equal⟩
  have byte3 := toDigits_injective equal
  have first_lt := first.toNat_lt
  have second_lt := second.toNat_lt
  rw [← UInt32.toNat_inj]
  simp only [addressByte] at byte0 byte1 byte2 byte3
  omega

/-- No address occurs twice, neither in the entries nor in the files written from them. -/
structure NamesHostsOnce (nodes : List (Nodedata UInt32)) : Prop where
  addresses : (nodes.map (·.ipaddress)).Nodup
  nodeinfo : (listedHosts (nodeinfoText nodes)).Nodup
  hostfile : (listedHosts (hostfileText nodes)).Nodup

theorem namesHostsOnce_iff {nodes : List (Nodedata UInt32)} :
    NamesHostsOnce nodes ↔ (nodes.map (·.ipaddress)).Nodup := by
  constructor
  · intro once
    exact once.addresses
  · intro distinct
    have texts : (nodes.map fun node => inetNtop node.ipaddress).Nodup := by
      simpa only [List.map_map, Function.comp_def] using List.Nodup.map inetNtop_injective distinct
    refine ⟨distinct, ?_, ?_⟩
    · rwa [nodeinfoText, listedHosts_flatMap writesHost_nodeinfoLine]
    · rwa [hostfileText, listedHosts_flatMap writesHost_hostfileLine]

end NodeinfoSystem.Files
